import Mathlib.Data.List.Induction
import Mathlib.Data.List.Nodup
import ScriptHost.Proofs.Host.Spelling
/-!
# Answers for all spellings of a path

If no map of files holds two spellings of one path, a host of two maps answers
all spellings of a path alike. This does not depend on the order in which the
spellings are indexed, nor on what was read before.

- `SortedMap.textAt?`: the text that a map holds under any spelling of a path.
- `Unambiguous`: no map holds two spellings of one path.
- `SourceCache.Faithful`: what was read is what would be read.
- `Host.Serves`: a host answers from two maps.
- `Host.Alike`: a host answers two paths alike.
- `VirtualFiles.host_uniform`: a host of two maps answers all spellings alike.
-/

namespace ScriptHost

/-! ## Texts under any spelling -/

namespace SortedMap

variable {m : SortedMap String} {path other text : String}

/-- The text that a map holds under any spelling of a path. -/
def textAt? (m : SortedMap String) (path : String) : Option String :=
  (m.entries.find? fun e => Path.fold e.1 == Path.fold path).map (·.2)

theorem textAt?_congr (h : Path.fold path = Path.fold other) :
    m.textAt? path = m.textAt? other := by
  rw [textAt?, textAt?, h]

/-- Under a path is the text of its one spelling. -/
theorem textAt?_eq_some_iff (h : (m.keys.map Path.fold).Nodup) :
    m.textAt? path = some text ↔
      ∃ key, (key, text) ∈ m.entries ∧ Path.fold key = Path.fold path := by
  rw [textAt?, Option.map_eq_some_iff]
  constructor
  · rintro ⟨⟨key, text'⟩, hfind, rfl⟩
    exact ⟨key, List.mem_of_find?_eq_some hfind, by simpa using List.find?_some hfind⟩
  · rintro ⟨key, hentry, hfold⟩
    have hsome : (m.entries.find? fun e => Path.fold e.1 == Path.fold path).isSome :=
      List.find?_isSome.2 ⟨(key, text), hentry, by simp [hfold]⟩
    obtain ⟨⟨key', text'⟩, hfind⟩ := Option.isSome_iff_exists.1 hsome
    have hentry' := List.mem_of_find?_eq_some hfind
    have hfold' : Path.fold key' = Path.fold path := by simpa using List.find?_some hfind
    have hkey : key' = key :=
      List.inj_on_of_nodup_map h (List.mem_map_of_mem hentry') (List.mem_map_of_mem hentry)
        (hfold'.trans hfold.symm)
    subst hkey
    exact ⟨(key', text'), hfind, eq_of_mem_entries hentry' hentry⟩

end SortedMap

/-! ## Sets with one spelling for each path -/

namespace FileSet

variable {s : FileSet} {files : SortedMap String} {path other key text : String}

/-- The paths of a set have slashes, and no two of them differ in case alone. -/
structure Apart (s : FileSet) : Prop where
  slashes : ∀ key ∈ s.files.keys, Path.canonical key = key
  nodup : (s.files.keys.map lowerCase).Nodup

namespace Apart

theorem nodup_fold (h : s.Apart) : (s.files.keys.map Path.fold).Nodup := by
  have hfolds : s.files.keys.map Path.fold = s.files.keys.map lowerCase :=
    List.map_congr_left fun key hkey => Path.fold_of_canonical (h.slashes key hkey)
  rw [hfolds]
  exact h.nodup

/-- A path is held under its one spelling. -/
theorem key?_eq_some_iff (h : s.Apart) :
    s.key? path = some key ↔ key ∈ s.files.keys ∧ lowerCase key = lowerCase path := by
  refine ⟨key?_spec, fun ⟨hmem, hlow⟩ => ?_⟩
  obtain ⟨found, hfound⟩ := Option.isSome_iff_exists.1 (key?_isSome_iff.2 ⟨key, hmem, hlow⟩)
  obtain ⟨hmem', hlow'⟩ := key?_spec hfound
  rw [hfound, List.inj_on_of_nodup_map h.nodup hmem' hmem (hlow'.trans hlow.symm)]

/-- All spellings of a path are held under one. -/
theorem key?_congr (h : s.Apart) (hsame : lowerCase path = lowerCase other) :
    s.key? path = s.key? other := by
  refine Option.ext fun key => ?_
  rw [h.key?_eq_some_iff, h.key?_eq_some_iff, hsame]

/-- The text under a path is that under any spelling of it. -/
theorem text?_eq_textAt? (h : s.Apart) (hsame : lowerCase path = Path.fold other) :
    s.text? path = s.files.textAt? other := by
  refine Option.ext fun text => ?_
  rw [text?_eq_some_iff, SortedMap.textAt?_eq_some_iff h.nodup_fold]
  refine exists_congr fun key => ?_
  rw [h.key?_eq_some_iff, hsame, Path.lowerCase_eq_fold_iff]
  constructor
  · rintro ⟨⟨-, -, hfold⟩, hentry⟩
    exact ⟨hentry, hfold⟩
  · rintro ⟨hentry, hfold⟩
    have hmem : key ∈ s.files.keys := List.mem_map_of_mem hentry
    exact ⟨⟨hmem, h.slashes key hmem, hfold⟩, hentry⟩

end Apart

/-- If no two paths of a map are spellings of one, they stay apart with slashes. -/
theorem apart_of_nodup_fold (h : (files.keys.map Path.fold).Nodup)
    (hs : s.files = (ofCanonical files).files) : s.Apart := by
  have hmem {key : String} (hkey : key ∈ s.files.keys) :
      ∃ path ∈ files.keys, Path.canonical path = key :=
    List.mem_map.1 (mem_keys_ofCanonical_iff.1 (hs ▸ hkey))
  constructor
  case slashes =>
    intro key hkey
    obtain ⟨path, -, rfl⟩ := hmem hkey
    exact Path.canonical_canonical path
  case nodup =>
    refine (List.nodup_map_iff_inj_on s.files.nodup_keys).2 fun key hkey other hother hlow => ?_
    obtain ⟨path, hpath, rfl⟩ := hmem hkey
    obtain ⟨path', hpath', rfl⟩ := hmem hother
    rw [List.inj_on_of_nodup_map h hpath hpath' hlow]

/-- The files of a map whose paths stay apart with slashes. -/
theorem mem_entries_ofCanonical_iff (h : (files.keys.map Path.canonical).Nodup) :
    (key, text) ∈ (ofCanonical files).files.entries ↔
      ∃ path, (path, text) ∈ files.entries ∧ Path.canonical path = key := by
  refine ⟨mem_entries_of_ofCanonical, ?_⟩
  rintro ⟨path, hentry, rfl⟩
  have hkeys :
      ((files.entries.map fun f => (Path.canonical f.1, f.2)).reverse.map (·.1)).Nodup := by
    rw [SortedMap.keys, List.map_map] at h
    rw [List.map_reverse, List.nodup_reverse, List.map_map]
    exact h
  rw [← SortedMap.get?_eq_some_iff]
  show (SortedMap.ofList _).get? _ = _
  rw [SortedMap.get?_ofList, SortedMap.lookup_eq_some_iff_mem hkeys, List.mem_reverse]
  exact List.mem_map.2 ⟨(path, text), hentry, rfl⟩

/-- With slashes in its paths, a map holds the same texts under any spelling. -/
theorem textAt?_ofCanonical (h : (files.keys.map Path.fold).Nodup) :
    (ofCanonical files).files.textAt? path = files.textAt? path := by
  have hcanonical : (files.keys.map Path.canonical).Nodup := by
    have hfold : files.keys.map Path.fold = (files.keys.map Path.canonical).map lowerCase := by
      rw [List.map_map]
      rfl
    rw [hfold] at h
    exact List.Nodup.of_map lowerCase h
  have hapart : (ofCanonical files).Apart := apart_of_nodup_fold h rfl
  refine Option.ext fun text => ?_
  rw [SortedMap.textAt?_eq_some_iff h, SortedMap.textAt?_eq_some_iff hapart.nodup_fold]
  simp only [mem_entries_ofCanonical_iff hcanonical]
  constructor
  · rintro ⟨_, ⟨own, hown, rfl⟩, hfold⟩
    exact ⟨own, hown, (Path.fold_canonical own).symm.trans hfold⟩
  · rintro ⟨own, hown, hfold⟩
    exact ⟨_, ⟨own, hown, rfl⟩, (Path.fold_canonical own).trans hfold⟩

end FileSet

/-! ## Files that were read before -/

namespace SourceCache

variable {h : Host} {cache : SourceCache} {path : String} {file : SourceFile}

/-- What was read is what would be read. -/
def Faithful (cache : SourceCache) (h : Host) : Prop :=
  ∀ file ∈ cache.files, h.file file.name = file

/-- What is left when the files of some paths were read in turn. -/
def reading (h : Host) (paths : List String) : SourceCache :=
  paths.foldl (fun cache path => (cache.get h path).2) {}

theorem reading_concat (h : Host) (paths : List String) (path : String) :
    reading h (paths ++ [path]) = ((reading h paths).get h path).2 := by
  rw [reading, List.foldl_append]
  rfl

/-- A file that was read is not read again. -/
theorem get_of_find?_eq_some (hfind : cache.find? (h.canonicalName path) = some file) :
    cache.get h path = (file, cache) := by
  simp only [get, hfind]

/-- A file that was not read is read. -/
theorem get_of_find?_eq_none (hfind : cache.find? (h.canonicalName path) = none) :
    cache.get h path =
      (h.file (h.canonicalName path), ⟨h.file (h.canonicalName path) :: cache.files⟩) := by
  simp only [get, hfind]

/-- A file that is got was read. -/
theorem find?_get (h : Host) (cache : SourceCache) (path : String) :
    (cache.get h path).2.find? (h.canonicalName path) = some (cache.get h path).1 := by
  cases hfind : cache.find? (h.canonicalName path) with
  | some file => rw [get_of_find?_eq_some hfind, hfind]
  | none =>
    rw [get_of_find?_eq_none hfind]
    exact List.find?_cons_of_pos (beq_self_eq_true (h.canonicalName path))

/-- Getting one more file gives the file of its name, and keeps what was read faithful. -/
theorem Faithful.get (hcache : cache.Faithful h) (path : String) :
    (cache.get h path).1 = h.file (h.canonicalName path) ∧ (cache.get h path).2.Faithful h := by
  cases hfind : cache.find? (h.canonicalName path) with
  | some file =>
    have hname : file.name = h.canonicalName path := by simpa using List.find?_some hfind
    rw [get_of_find?_eq_some hfind, ← hname]
    exact ⟨(hcache file (List.mem_of_find?_eq_some hfind)).symm, hcache⟩
  | none =>
    rw [get_of_find?_eq_none hfind]
    refine ⟨rfl, fun file hfile => ?_⟩
    rcases List.mem_cons.1 hfile with rfl | hfile
    · rfl
    · exact hcache file hfile

/-- Whatever was read in turn is faithful. -/
theorem faithful_reading (h : Host) (paths : List String) : (reading h paths).Faithful h := by
  induction paths using List.reverseRecOn with
  | nil => exact fun file hfile => absurd hfile List.not_mem_nil
  | append_singleton paths path ih =>
    rw [reading_concat]
    exact (ih.get path).2

end SourceCache

/-- The file that is compiled for a path after the files of other paths were read. -/
def Host.compiled (h : Host) (earlier : List String) (path : String) : SourceFile :=
  ((SourceCache.reading h earlier).get h path).1

/-- What was read before does not matter. -/
theorem Host.compiled_eq (h : Host) (earlier : List String) (path : String) :
    h.compiled earlier path = h.file (h.canonicalName path) :=
  ((SourceCache.faithful_reading h earlier).get path).1

/-! ## Hosts without ambiguity -/

/-- No two paths of the input are spellings of one; those of the external files have slashes, and
no two of them differ in case alone. -/
structure Unambiguous (input external : SortedMap String) : Prop where
  input : (input.keys.map Path.fold).Nodup
  slashes : ∀ key ∈ external.keys, Path.canonical key = key
  external : (external.keys.map lowerCase).Nodup

/-- A host answers from what two maps hold under any spelling of a path. Reading prefers the input,
and compiling the external files. -/
structure Host.Serves (h : Host) (input external : SortedMap String) : Prop where
  exists?_eq : ∀ path,
    h.exists? path = ((input.textAt? path).isSome || (external.textAt? path).isSome)
  read?_eq : ∀ path, h.read? path = (input.textAt? path).or (external.textAt? path)
  isLibrary_eq : ∀ path,
    h.isLibrary path = ((input.textAt? path).isNone && (external.textAt? path).isSome)
  canonicalName_canonicalName : ∀ path,
    h.canonicalName (h.canonicalName path) = h.canonicalName path
  text_compiled : ∀ earlier path, (h.compiled earlier path).text =
    SourceFile.withoutMark (((external.textAt? path).or (input.textAt? path)).getD "")
  /-- What is compiled is what is read, unless both maps hold the path. -/
  text_compiled_eq_read? : ∀ earlier path,
    input.textAt? path = none ∨ external.textAt? path = none →
      (h.compiled earlier path).text = SourceFile.withoutMark ((h.read? path).getD "")

/-- A host answers two paths alike. -/
structure Host.Alike (h : Host) (path other : String) : Prop where
  exists?_eq : h.exists? path = h.exists? other
  read?_eq : h.read? path = h.read? other
  isLibrary_eq : h.isLibrary path = h.isLibrary other
  canonicalName_eq : h.exists? path = true → h.canonicalName path = h.canonicalName other
  compiled_eq : h.exists? path = true →
    ∀ earlier, h.compiled earlier path = h.compiled earlier other
  /-- The file of one path is not read again for the other one. -/
  reading_eq : h.exists? path = true → ∀ earlier,
    SourceCache.reading h (earlier ++ [path, other]) = SourceCache.reading h (earlier ++ [path])

namespace VirtualFiles

variable {v : VirtualFiles} {input external : SortedMap String} {path other : String}

namespace Presents

theorem apart_input (hv : v.Presents input external) (hu : Unambiguous input external) :
    v.input.Apart :=
  FileSet.apart_of_nodup_fold hu.input hv.input

theorem apart_external (hv : v.Presents input external) (hu : Unambiguous input external) :
    v.external.Apart :=
  ⟨hv.external ▸ hu.slashes, hv.external ▸ hu.external⟩

/-- The texts of the files to compile. -/
theorem text?_input (hv : v.Presents input external) (hu : Unambiguous input external)
    (hsame : lowerCase path = Path.fold other) : v.input.text? path = input.textAt? other := by
  rw [(hv.apart_input hu).text?_eq_textAt? hsame, hv.input,
    FileSet.textAt?_ofCanonical hu.input]

/-- The texts of the external files. -/
theorem text?_external (hv : v.Presents input external) (hu : Unambiguous input external)
    (hsame : lowerCase path = Path.fold other) :
    v.external.text? path = external.textAt? other := by
  rw [(hv.apart_external hu).text?_eq_textAt? hsame, hv.external]

/-- The text that is compiled for a path is an external one if there is one. -/
theorem sourceText_eq (hv : v.Presents input external) (hu : Unambiguous input external)
    (path : String) : v.host.sourceText (v.host.canonicalName path) =
      ((external.textAt? path).or (input.textAt? path)).getD "" := by
  obtain ⟨hslash, hfold⟩ := v.canonicalName_spec path
  have hsame : lowerCase (v.host.canonicalName path) = Path.fold path := by
    rw [← hfold, Path.fold_of_canonical hslash]
  show ((v.external.text? (v.host.canonicalName path)).or
    (v.input.text? (v.host.canonicalName path))).getD "" = _
  rw [hv.text?_external hu hsame, hv.text?_input hu hsame]

/-- All spellings of a path that exists have one name. -/
theorem canonicalName_congr (hv : v.Presents input external) (hu : Unambiguous input external)
    (hsame : Path.fold path = Path.fold other) (hexists : v.host.exists? path = true) :
    v.host.canonicalName path = v.host.canonicalName other := by
  have hkey : v.key? (Path.canonical path) = v.key? (Path.canonical other) := by
    rw [key?, key?, (hv.apart_input hu).key?_congr hsame, (hv.apart_external hu).key?_congr hsame]
  obtain ⟨key, hfound⟩ := Option.isSome_iff_exists.1 hexists
  show (v.key? (Path.canonical path)).getD _ = (v.key? (Path.canonical other)).getD _
  rw [← hkey, hfound, Option.getD_some, Option.getD_some]

/-- A host of two maps answers from them. -/
theorem serves (hv : v.Presents input external) (hu : Unambiguous input external) :
    v.host.Serves input external := by
  have hinput (path : String) : v.input.text? (Path.canonical path) = input.textAt? path :=
    hv.text?_input hu rfl
  have hexternal (path : String) :
      v.external.text? (Path.canonical path) = external.textAt? path :=
    hv.text?_external hu rfl
  have hread (path : String) :
      v.host.read? path = (input.textAt? path).or (external.textAt? path) := by
    rw [← hinput, ← hexternal]
    rfl
  have htext (earlier : List String) (path : String) : (v.host.compiled earlier path).text =
      SourceFile.withoutMark (((external.textAt? path).or (input.textAt? path)).getD "") := by
    rw [← hv.sourceText_eq hu, Host.compiled_eq]
    rfl
  constructor
  case exists?_eq =>
    intro path
    rw [← isSome_read?, hread, Option.isSome_or]
  case read?_eq => exact hread
  case isLibrary_eq =>
    intro path
    rw [← hinput, ← hexternal, FileSet.isSome_text?, ← Option.not_isSome, FileSet.isSome_text?,
      Option.not_isSome]
    rfl
  case canonicalName_canonicalName => exact v.host_settled.canonicalName_canonicalName
  case text_compiled => exact htext
  case text_compiled_eq_read? =>
    intro earlier path hone
    rw [htext, hread]
    rcases hone with hnone | hnone
    · rw [hnone, Option.or_none, Option.none_or]
    · rw [hnone, Option.or_none, Option.none_or]

/-- A host of two maps answers two spellings of a path alike. -/
theorem alike (hv : v.Presents input external) (hu : Unambiguous input external)
    (hsame : Path.fold path = Path.fold other) : v.host.Alike path other := by
  have hserves := hv.serves hu
  constructor
  case exists?_eq =>
    rw [hserves.exists?_eq, hserves.exists?_eq, SortedMap.textAt?_congr hsame,
      SortedMap.textAt?_congr hsame]
  case read?_eq =>
    rw [hserves.read?_eq, hserves.read?_eq, SortedMap.textAt?_congr hsame,
      SortedMap.textAt?_congr hsame]
  case isLibrary_eq =>
    rw [hserves.isLibrary_eq, hserves.isLibrary_eq, SortedMap.textAt?_congr hsame,
      SortedMap.textAt?_congr hsame]
  case canonicalName_eq => exact hv.canonicalName_congr hu hsame
  case compiled_eq =>
    intro hexists earlier
    rw [Host.compiled_eq, Host.compiled_eq, hv.canonicalName_congr hu hsame hexists]
  case reading_eq =>
    intro hexists earlier
    have hfind := SourceCache.find?_get v.host (SourceCache.reading v.host earlier) path
    rw [hv.canonicalName_congr hu hsame hexists] at hfind
    rw [← List.singleton_append, ← List.append_assoc, SourceCache.reading_concat,
      SourceCache.reading_concat, SourceCache.get_of_find?_eq_some hfind]

end Presents

/-- **All spellings of a path are answered alike.** If no map holds two spellings of one path, a
host of two maps answers from them, in whatever order it indexes their paths, and it answers two
spellings of a path alike. -/
theorem host_uniform {v : VirtualFiles} {input external : SortedMap String}
    (hv : v.Presents input external) (hu : Unambiguous input external) :
    v.host.Serves input external ∧
      ∀ path other, Path.fold path = Path.fold other → v.host.Alike path other :=
  ⟨hv.serves hu, fun _ _ hsame => hv.alike hu hsame⟩

end VirtualFiles

/-- The same files with their spellings listed from the last one on. -/
def FileSet.indexedBackwards (s : FileSet) : FileSet where
  files := s.files
  spellings := s.spellings.reverse
  indexed := (List.reverse_perm _).trans s.indexed

namespace VirtualFiles

/-- The same files with the spellings of both sets listed from the last one on. -/
def indexedBackwards (v : VirtualFiles) : VirtualFiles where
  input := v.input.indexedBackwards
  external := v.external.indexedBackwards
  environment := v.environment
  canonical_of_mem := v.canonical_of_mem

/-- Files to compile, one with a mark of its byte order. -/
def markedInput : SortedMap String := .ofList [("lib\\B.ts", "\ufeff1;"), ("src/Main.ts", "2;")]

/-- Files to depend on, one of which is among the files to compile, too. -/
def sharedExternal : SortedMap String :=
  .ofList [("SRC/main.ts", "3;"), ("node_modules/p/index.d.ts", "4;")]

/-- Both of them, with their spellings listed backwards. -/
def sharedFiles : VirtualFiles := (ofMaps markedInput sharedExternal {}).indexedBackwards

/-- Two spellings of a path that both maps hold are answered alike: one text is read, and the other
one is compiled. The mark of a byte order is read, and not compiled. -/
theorem sharedFiles_uniform :
    sharedFiles.Presents markedInput sharedExternal ∧ Unambiguous markedInput sharedExternal ∧
    sharedFiles.host.exists? "src\\MAIN.ts" = true ∧
    sharedFiles.host.Alike "src\\MAIN.ts" "Src/main.ts" ∧
    sharedFiles.host.read? "src\\MAIN.ts" = some "2;" ∧
    (sharedFiles.host.compiled ["lib/b.ts"] "src\\MAIN.ts").text = "3;" ∧
    sharedFiles.host.read? "LIB/b.ts" = some "\ufeff1;" ∧
    (sharedFiles.host.compiled [] "LIB/b.ts").text = "1;" := by
  have hv : sharedFiles.Presents markedInput sharedExternal := ⟨rfl, rfl⟩
  have hu : Unambiguous markedInput sharedExternal :=
    ⟨by decide +kernel, by decide +kernel, by decide +kernel⟩
  obtain ⟨hserves, halike⟩ := host_uniform hv hu
  refine ⟨hv, hu, ?_, halike _ _ (by decide +kernel), ?_, ?_, ?_, ?_⟩
  · rw [hserves.exists?_eq]
    decide +kernel
  · rw [hserves.read?_eq]
    decide +kernel
  · rw [hserves.text_compiled]
    decide +kernel
  · rw [hserves.read?_eq]
    decide +kernel
  · rw [hserves.text_compiled]
    decide +kernel

end VirtualFiles

end ScriptHost
