import ScriptHost.Proofs.Host.Canonical
/-!
# Spellings of paths

A path may be spelled with slashes or backslashes and with letters of either
case. A host of two maps of files finds what they hold under any spelling, but
for external files whose own paths have backslashes: these are never found.

- `Path.fold`: what all spellings of a path have in common.
- `VirtualFiles.Presents`: the files of two maps, with their paths indexed in any order.
- `VirtualFiles.Presents.exists?_iff`: which paths exist.
- `VirtualFiles.Presents.isLibrary_iff`: which of them are there to depend on.
- `CompiledText`, `VirtualFiles.Presents.compiledText`: the text that is compiled for a path.
-/

namespace ScriptHost

/-! ## What spellings have in common -/

namespace Path

/-- The path with slashes and in lower case, which all its spellings have in common. -/
def fold (path : String) : String := lowerCase (canonical path)

@[simp] theorem fold_canonical (path : String) : fold (canonical path) = fold path := by
  rw [fold, canonical_canonical, fold]

theorem fold_of_canonical {path : String} (h : canonical path = path) :
    fold path = lowerCase path := by
  rw [fold, h]

/-- A key differs from a path with slashes in case at most exactly if it has slashes, too, and is
a spelling of the path. -/
theorem lowerCase_eq_fold_iff {key path : String} :
    lowerCase key = fold path ↔ canonical key = key ∧ fold key = fold path := by
  constructor
  · intro h
    have hslash : canonical key = key :=
      canonical_of_lowerCase_eq h.symm (canonical_canonical path)
    exact ⟨hslash, by rw [fold_of_canonical hslash, h]⟩
  · rintro ⟨hslash, hfold⟩
    rw [← fold_of_canonical hslash, hfold]

end Path

/-! ## Texts of a set -/

namespace FileSet

variable {s : FileSet} {path key text : String}

/-- A text is found under a path if it is that of the key that is found. -/
theorem text?_eq_some_iff :
    s.text? path = some text ↔ ∃ key, s.key? path = some key ∧ (key, text) ∈ s.files.entries := by
  simp only [text?, Option.bind_eq_some_iff, SortedMap.get?_eq_some_iff]

/-- Each key that is found has a text. -/
theorem isSome_text? : (s.text? path).isSome = (s.key? path).isSome := by
  cases hkey : s.key? path with
  | none => rw [text?, hkey, Option.bind_none, Option.isSome_none]
  | some key =>
    have hsome : (s.files.get? key).isSome = true := SortedMap.contains_iff.2 (key?_spec hkey).1
    rw [text?, hkey, Option.bind_some, hsome, Option.isSome_some]

/-- The paths of a set that was made with slashes are those of the map, with slashes. -/
theorem mem_keys_ofCanonical_iff {files : SortedMap String} :
    key ∈ (ofCanonical files).files.keys ↔ key ∈ files.keys.map Path.canonical := by
  have hfiles : (ofCanonical files).files =
    SortedMap.ofList (files.entries.map fun f => (Path.canonical f.1, f.2)) := rfl
  rw [hfiles, SortedMap.mem_keys_ofList_iff, SortedMap.keys, List.map_map, List.map_map]
  rfl

/-- The files of a set that was made with slashes are among those of the map. -/
theorem mem_entries_of_ofCanonical {files : SortedMap String}
    (h : (key, text) ∈ (ofCanonical files).files.entries) :
    ∃ path, (path, text) ∈ files.entries ∧ Path.canonical path = key := by
  obtain ⟨⟨path, text'⟩, hmem, heq⟩ := List.mem_map.1 (SortedMap.mem_entries_ofList h)
  obtain ⟨rfl, rfl⟩ := Prod.mk.inj heq
  exact ⟨path, hmem, rfl⟩

end FileSet

/-! ## Hosts of two maps -/

/-- The files of two maps, those to compile with slashes in their paths. The spellings of the paths
may be listed in any order. -/
structure VirtualFiles.Presents (v : VirtualFiles) (input external : SortedMap String) : Prop where
  input : v.input.files = (FileSet.ofCanonical input).files
  external : v.external.files = external

theorem VirtualFiles.ofMaps_presents (input external : SortedMap String)
    (environment : Environment) : (ofMaps input external environment).Presents input external :=
  ⟨rfl, rfl⟩

theorem VirtualFiles.Presents.indexedBy {v : VirtualFiles} {input external : SortedMap String}
    (hv : v.Presents input external) (i : Indexing) : (v.indexedBy i).Presents input external :=
  ⟨hv.input, hv.external⟩

/-- The text that is compiled for a path: one of the external files if they hold a spelling of the
path that has slashes, or else one of the input, or else nothing. -/
inductive CompiledText (input external : SortedMap String) (path : String) : String → Prop where
  | external {key text : String} : (key, text) ∈ external.entries → Path.canonical key = key →
      Path.fold key = Path.fold path → CompiledText input external path text
  | input {key text : String} :
      (∀ key ∈ external.keys, Path.canonical key = key → Path.fold key ≠ Path.fold path) →
      (key, text) ∈ input.entries → Path.fold key = Path.fold path →
      CompiledText input external path text
  | nothing :
      (∀ key ∈ external.keys, Path.canonical key = key → Path.fold key ≠ Path.fold path) →
      (∀ key ∈ input.keys, Path.fold key ≠ Path.fold path) →
      CompiledText input external path ""

/-- What is compiled for a path is compiled for its other spellings, too. -/
theorem CompiledText.of_fold_eq {input external : SortedMap String} {path other text : String}
    (htext : CompiledText input external path text) (h : Path.fold path = Path.fold other) :
    CompiledText input external other text := by
  cases htext with
  | external hentry hslash hfold => exact .external hentry hslash (hfold.trans h)
  | input hmissing hentry hfold =>
    rw [h] at hmissing
    exact .input hmissing hentry (hfold.trans h)
  | nothing hmissing hmissing' =>
    rw [h] at hmissing hmissing'
    exact .nothing hmissing hmissing'

namespace VirtualFiles

variable {v : VirtualFiles} {input external : SortedMap String} {path key text : String}

/-- The name of a path is a spelling of it, with slashes. -/
theorem canonicalName_spec (v : VirtualFiles) (path : String) :
    Path.canonical (v.host.canonicalName path) = v.host.canonicalName path ∧
      Path.fold (v.host.canonicalName path) = Path.fold path := by
  rw [← Path.lowerCase_eq_fold_iff]
  show lowerCase ((v.key? (Path.canonical path)).getD (Path.canonical path)) = _
  cases hkey : v.key? (Path.canonical path) with
  | none => rfl
  | some key =>
    rw [key?, Option.or_eq_some_iff] at hkey
    rcases hkey with hkey | ⟨-, hkey⟩
    · exact (FileSet.key?_spec hkey).2
    · exact (FileSet.key?_spec hkey).2

/-- What does not exist is known under itself, with slashes. -/
theorem canonicalName_of_not_exists (h : v.host.exists? path = false) :
    v.host.canonicalName path = Path.canonical path := by
  have hkey : v.key? (Path.canonical path) = none := by
    rw [← Option.not_isSome_iff_eq_none, Bool.not_eq_true]
    exact h
  show (v.key? (Path.canonical path)).getD (Path.canonical path) = _
  rw [hkey, Option.getD_none]

/-- The kind of separators does not matter to what exists. -/
theorem exists?_congr {other : String} (h : Path.canonical path = Path.canonical other) :
    v.host.exists? path = v.host.exists? other := by
  show (v.key? (Path.canonical path)).isSome = (v.key? (Path.canonical other)).isSome
  rw [h]

/-- What is there to depend on exists. -/
theorem exists?_of_isLibrary (h : v.host.isLibrary path = true) : v.host.exists? path = true := by
  have hexternal := (Bool.and_eq_true_iff.1 h).2
  show ((v.input.key? (Path.canonical path)).or _).isSome = true
  rw [Option.isSome_or, hexternal, Bool.or_true]

/-- What exists can be read, and nothing else can. -/
theorem isSome_read? (v : VirtualFiles) (path : String) :
    (v.host.read? path).isSome = v.host.exists? path := by
  show ((v.input.text? (Path.canonical path)).or (v.external.text? (Path.canonical path))).isSome =
    ((v.input.key? (Path.canonical path)).or (v.external.key? (Path.canonical path))).isSome
  simp only [Option.isSome_or, FileSet.isSome_text?]

namespace Presents

/-- Which files to compile are found. -/
theorem isSome_input (hv : v.Presents input external) (path : String) :
    (v.input.key? (Path.canonical path)).isSome ↔
      ∃ key ∈ input.keys, Path.fold key = Path.fold path := by
  rw [FileSet.key?_isSome_iff, hv.input]
  constructor
  · rintro ⟨key, hkey, hlow⟩
    obtain ⟨own, hown, rfl⟩ := List.mem_map.1 (FileSet.mem_keys_ofCanonical_iff.1 hkey)
    exact ⟨own, hown, hlow⟩
  · rintro ⟨own, hown, hfold⟩
    exact ⟨_, FileSet.mem_keys_ofCanonical_iff.2 (List.mem_map_of_mem hown), hfold⟩

/-- Which external files are found. -/
theorem isSome_external (hv : v.Presents input external) (path : String) :
    (v.external.key? (Path.canonical path)).isSome ↔
      ∃ key ∈ external.keys, Path.canonical key = key ∧ Path.fold key = Path.fold path := by
  rw [FileSet.key?_isSome_iff, hv.external]
  exact exists_congr fun key => and_congr_right fun _ => Path.lowerCase_eq_fold_iff

/-- **Which paths exist**: those that the input holds under some spelling, and those that the
external files hold under a spelling with slashes. -/
theorem exists?_iff (hv : v.Presents input external) (path : String) :
    v.host.exists? path = true ↔ (∃ key ∈ input.keys, Path.fold key = Path.fold path) ∨
      ∃ key ∈ external.keys, Path.canonical key = key ∧ Path.fold key = Path.fold path := by
  rw [← hv.isSome_input, ← hv.isSome_external]
  show ((v.input.key? (Path.canonical path)).or (v.external.key? (Path.canonical path))).isSome ↔ _
  rw [Option.isSome_or, Bool.or_eq_true]

/-- **Which files are there to depend on**: those that exist and that the input does not hold. -/
theorem isLibrary_iff (hv : v.Presents input external) (path : String) :
    v.host.isLibrary path = true ↔ (¬ ∃ key ∈ input.keys, Path.fold key = Path.fold path) ∧
      ∃ key ∈ external.keys, Path.canonical key = key ∧ Path.fold key = Path.fold path := by
  rw [← hv.isSome_input, ← hv.isSome_external, Option.not_isSome_iff_eq_none,
    ← Option.isNone_iff_eq_none]
  show ((v.input.key? (Path.canonical path)).isNone &&
    (v.external.key? (Path.canonical path)).isSome) = true ↔ _
  rw [Bool.and_eq_true]

/-- A path is known under one of the input exactly if it is a spelling of one. -/
theorem exists_canonical_eq_name_iff (hv : v.Presents input external) :
    (∃ key ∈ input.keys, Path.canonical key = v.host.canonicalName path) ↔
      ∃ key ∈ input.keys, Path.fold key = Path.fold path := by
  constructor
  · rintro ⟨key, hkey, hname⟩
    refine ⟨key, hkey, ?_⟩
    rw [← Path.fold_canonical, hname, (v.canonicalName_spec path).2]
  · intro hheld
    obtain ⟨name, hname⟩ := Option.isSome_iff_exists.1 ((hv.isSome_input path).2 hheld)
    have hcanonical : v.host.canonicalName path = name := by
      show ((v.input.key? (Path.canonical path)).or _).getD _ = name
      rw [hname, Option.some_or, Option.getD_some]
    rw [hcanonical]
    have hmem : name ∈ (FileSet.ofCanonical input).files.keys :=
      hv.input ▸ (FileSet.key?_spec hname).1
    exact List.mem_map.1 (FileSet.mem_keys_ofCanonical_iff.1 hmem)

/-- A path of the input with slashes is known under itself. -/
theorem canonicalName_of_mem (hv : v.Presents input external) (hmem : path ∈ input.keys)
    (hslash : Path.canonical path = path) : v.host.canonicalName path = path := by
  have hkey : path ∈ v.input.files.keys := by
    rw [hv.input]
    exact FileSet.mem_keys_ofCanonical_iff.2 (List.mem_map.2 ⟨path, hmem, hslash⟩)
  show ((v.input.key? (Path.canonical path)).or _).getD _ = path
  rw [hslash, FileSet.key?_of_mem hkey, Option.some_or, Option.getD_some]

/-- A path is a spelling of one of the input, or it is there to depend on, or it does not exist. -/
theorem held_or_isLibrary_or_missing (hv : v.Presents input external) (path : String) :
    (∃ key ∈ input.keys, Path.fold key = Path.fold path) ∨
      v.host.isLibrary (v.host.canonicalName path) = true ∨ v.host.exists? path = false := by
  cases hexists : v.host.exists? path with
  | false => exact .inr (.inr rfl)
  | true =>
    by_cases hheld : ∃ key ∈ input.keys, Path.fold key = Path.fold path
    · exact .inl hheld
    · refine .inr (.inl ?_)
      rw [hv.isLibrary_iff, (v.canonicalName_spec path).2]
      exact ⟨hheld, ((hv.exists?_iff path).1 hexists).resolve_left hheld⟩

/-- What is missing from the external files has no spelling with slashes there. -/
theorem external_missing (hv : v.Presents input external) (hslash : Path.canonical path = path)
    (h : v.external.text? path = none) :
    ∀ key ∈ external.keys, Path.canonical key = key → Path.fold key ≠ Path.fold path := by
  intro key hkey hkeySlash hfold
  have hfound := (hv.isSome_external path).2 ⟨key, hkey, hkeySlash, hfold⟩
  rw [hslash, ← FileSet.isSome_text?, h] at hfound
  cases hfound

/-- What is missing from the files to compile has no spelling there. -/
theorem input_missing (hv : v.Presents input external) (hslash : Path.canonical path = path)
    (h : v.input.text? path = none) : ∀ key ∈ input.keys, Path.fold key ≠ Path.fold path := by
  intro key hkey hfold
  have hfound := (hv.isSome_input path).2 ⟨key, hkey, hfold⟩
  rw [hslash, ← FileSet.isSome_text?, h] at hfound
  cases hfound

/-- **What is compiled for a path** is found by its name, which is a spelling of it. -/
theorem compiledText (hv : v.Presents input external) (path : String) :
    CompiledText input external path (v.host.sourceText (v.host.canonicalName path)) := by
  obtain ⟨hslash, hfold⟩ := v.canonicalName_spec path
  refine CompiledText.of_fold_eq ?_ hfold
  generalize v.host.canonicalName path = name at hslash
  show CompiledText input external name
    (((v.external.text? name).or (v.input.text? name)).getD "")
  have hlow {s : FileSet} {key : String} (hkey : s.key? name = some key) :
      lowerCase key = Path.fold name := by
    rw [Path.fold_of_canonical hslash, (FileSet.key?_spec hkey).2]
  cases hexternal : v.external.text? name with
  | some text =>
    obtain ⟨key, hkey, hentry⟩ := FileSet.text?_eq_some_iff.1 hexternal
    obtain ⟨hkeySlash, hkeyFold⟩ := Path.lowerCase_eq_fold_iff.1 (hlow hkey)
    exact .external (hv.external ▸ hentry) hkeySlash hkeyFold
  | none =>
    have hmissing := hv.external_missing hslash hexternal
    cases hinput : v.input.text? name with
    | some text =>
      obtain ⟨key, hkey, hentry⟩ := FileSet.text?_eq_some_iff.1 hinput
      obtain ⟨own, hown, rfl⟩ := FileSet.mem_entries_of_ofCanonical (hv.input ▸ hentry)
      exact .input hmissing hown (hlow hkey)
    | none => exact .nothing hmissing (hv.input_missing hslash hinput)

end Presents

end VirtualFiles

end ScriptHost
