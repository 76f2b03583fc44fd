import Mathlib.Data.List.Induction
import Mathlib.Data.List.Nodup
import ScriptHost.Program.Basic
import ScriptHost.Proofs.Host.Canonical
/-!
# Programs and the names of their files

A file is known by its canonical name alone: what a program holds follows from
the names of its files in the order in which they were added.

- `Program.Holds`: a program holds the files of some names, and nothing else.
- `Program.Holds.after_addFile`: adding a file adds its name, unless it is there.
- `Program.start_holds`: the names with which loading starts.
-/

namespace ScriptHost

/-! ## First occurrences -/

variable {α : Type} [DecidableEq α]

/-- One more element is added unless it is there. -/
theorem eraseDups_concat (l : List α) (a : α) :
    (l ++ [a]).eraseDups = if a ∈ l then l.eraseDups else l.eraseDups ++ [a] := by
  rw [List.eraseDups_append]
  split
  · next h => simp [List.removeAll, h]
  · next h => simp [List.removeAll, h, List.eraseDups_cons]

/-- No element is there twice. -/
theorem nodup_eraseDups (l : List α) : l.eraseDups.Nodup := by
  induction l using List.reverseRecOn with
  | nil => simp
  | append_singleton l a ih =>
    rw [eraseDups_concat]
    split
    · exact ih
    · next h =>
      rw [List.nodup_append]
      refine ⟨ih, by simp, fun x hx y hy heq => h ?_⟩
      rw [List.mem_singleton.1 hy] at heq
      exact heq ▸ List.mem_eraseDups.1 hx

/-- The elements stay where they are when more are added. -/
theorem eraseDups_prefix (l more : List α) : l.eraseDups <+: (l ++ more).eraseDups := by
  rw [List.eraseDups_append]
  exact List.prefix_append _ _

/-! ## Files of names -/

/-- A file has the name under which it is read. -/
@[simp] theorem Host.file_name (h : Host) (name : String) : (h.file name).name = name := rfl

/-- What a program is loaded from. -/
structure Setting where
  host : Host
  options : CompilerOptions
  roots : List String

namespace Program

/-- What the program was loaded from. -/
def setting (p : Program) : Setting := ⟨p.host, p.options, p.roots⟩

/-- The program holds the files of some names, which were added in their order. -/
structure Holds (p : Program) (names : List String) : Prop where
  nodup : names.Nodup
  files : p.files = names.map p.host.file
  index : p.index = names.zipIdx.reverse
  ambient : p.ambient = (names.map p.host.file).foldl Ambient.add {}
  cache : p.cache.files = (names.map p.host.file).reverse

variable {p : Program} {names : List String}

/-- Names are looked up at their places. -/
theorem Holds.lookup_index_iff (h : p.Holds names) {name : String} {i : Nat} :
    p.index.lookup name = some i ↔ names[i]? = some name := by
  have hkeys : (p.index.map (·.1)).Nodup := by
    rw [h.index, List.map_reverse, List.nodup_reverse, List.zipIdx_map_fst]
    exact h.nodup
  rw [SortedMap.lookup_eq_some_iff_mem hkeys, h.index, List.mem_reverse,
    List.mem_zipIdx_iff_getElem?]

/-- The loaded files are those of the names. -/
theorem Holds.hasFile_iff (h : p.Holds names) {name : String} :
    p.hasFile name = true ↔ name ∈ names := by
  rw [hasFile, Option.isSome_iff_exists, List.mem_iff_getElem?]
  exact exists_congr fun i => h.lookup_index_iff

/-- The files that were read are those of the names. -/
theorem Holds.find?_cache (h : p.Holds names) (name : String) :
    p.cache.find? name = if name ∈ names then some (p.host.file name) else none := by
  rw [SourceCache.find?, h.cache]
  split
  · next hmem =>
    have hsome : ((names.map p.host.file).reverse.find? (·.name == name)).isSome := by
      rw [List.find?_isSome]
      exact ⟨p.host.file name, List.mem_reverse.2 (List.mem_map_of_mem hmem), by simp⟩
    obtain ⟨file, hfile⟩ := Option.isSome_iff_exists.1 hsome
    obtain ⟨other, -, rfl⟩ := List.mem_map.1 (List.mem_reverse.1 (List.mem_of_find?_eq_some hfile))
    have hname : other = name := by simpa using List.find?_some hfile
    rw [hfile, hname]
  · next hmem =>
    rw [List.find?_eq_none]
    intro file hfile hname
    obtain ⟨other, hother, rfl⟩ := List.mem_map.1 (List.mem_reverse.1 hfile)
    have hname : other = name := by simpa using hname
    exact hmem (hname ▸ hother)

/-- A file that is loaded is not read again. -/
theorem Holds.get_of_mem (h : p.Holds names) {path : String}
    (hmem : p.host.canonicalName path ∈ names) :
    p.cache.get p.host path = (p.host.file (p.host.canonicalName path), p.cache) := by
  simp only [SourceCache.get, h.find?_cache, if_pos hmem]

/-! ## Adding a file -/

@[simp] theorem addFile_setting (p : Program) (path : String) :
    (p.addFile path).setting = p.setting := by
  simp only [addFile]
  split <;> rfl

@[simp] theorem addFile_host (p : Program) (path : String) : (p.addFile path).host = p.host :=
  congrArg Setting.host (addFile_setting p path)

@[simp] theorem addFile_resolutions (p : Program) (path : String) :
    (p.addFile path).resolutions = p.resolutions := by
  simp only [addFile]
  split <;> rfl

/-- Adding a file that is loaded changes nothing. -/
theorem Holds.addFile_of_mem (h : p.Holds names) {path : String}
    (hmem : p.host.canonicalName path ∈ names) : p.addFile path = p := by
  simp only [addFile, h.get_of_mem hmem]
  rw [if_pos]
  exact h.hasFile_iff.2 hmem

/-- Adding a file that is not loaded adds it at the end. -/
theorem Holds.addFile_of_not_mem (h : p.Holds names) {path : String}
    (hmem : p.host.canonicalName path ∉ names) :
    (p.addFile path).Holds (names ++ [p.host.canonicalName path]) := by
  have hget : p.cache.get p.host path = (p.host.file (p.host.canonicalName path),
      ⟨p.host.file (p.host.canonicalName path) :: p.cache.files⟩) := by
    simp only [SourceCache.get, h.find?_cache, if_neg hmem]
  have hnot : p.hasFile (p.host.canonicalName path) = false := by
    rw [← Bool.not_eq_true, h.hasFile_iff]
    exact hmem
  have hadd : p.addFile path =
      { p with
        files := p.files ++ [p.host.file (p.host.canonicalName path)]
        index := (p.host.canonicalName path, p.files.length) :: p.index
        ambient := p.ambient.add (p.host.file (p.host.canonicalName path))
        cache := ⟨p.host.file (p.host.canonicalName path) :: p.cache.files⟩ } := by
    simp only [addFile, hget]
    rw [if_neg]
    · rfl
    · exact Bool.eq_false_iff.1 hnot
  rw [hadd]
  refine ⟨?_, ?_, ?_, ?_, ?_⟩
  · exact List.nodup_append.2 ⟨h.nodup, by simp, fun x hx y hy heq =>
      hmem (List.mem_singleton.1 hy ▸ heq ▸ hx)⟩
  · simp [h.files]
  · simp [h.index, h.files, List.zipIdx_append]
  · simp [h.ambient]
  · simp [h.cache]

/-- Adding a file adds its name, unless it is there. -/
theorem Holds.after_addFile {l : List String} (h : p.Holds l.eraseDups) (path : String) :
    (p.addFile path).Holds (l ++ [p.host.canonicalName path]).eraseDups := by
  rw [eraseDups_concat]
  split
  · next hmem => rwa [h.addFile_of_mem (List.mem_eraseDups.2 hmem)]
  · next hmem => exact h.addFile_of_not_mem (mt List.mem_eraseDups.1 hmem)

/-- Adding files in turn adds their names. -/
theorem Holds.after_addFiles {l : List String} (h : p.Holds l.eraseDups) (paths : List String) :
    (paths.foldl addFile p).Holds (l ++ paths.map p.host.canonicalName).eraseDups := by
  induction paths generalizing p l with
  | nil => simpa using h
  | cons path paths ih =>
    have hrest := ih (h.after_addFile path)
    rw [addFile_host, List.append_assoc] at hrest
    exact hrest

/-- What is not about files is as it was when files are added in turn. -/
theorem addFiles_unchanged (p : Program) (paths : List String) :
    (paths.foldl addFile p).setting = p.setting ∧
      (paths.foldl addFile p).resolutions = p.resolutions := by
  induction paths generalizing p with
  | nil => exact ⟨rfl, rfl⟩
  | cons path paths ih => simpa using ih (p.addFile path)

/-! ## The start of loading -/

/-- The paths with which loading starts: the roots and, if it exists, the default library. -/
def startPaths (host : Host) (roots : List String) : List String :=
  roots ++ if host.exists? host.defaultLib then [host.defaultLib] else []

/-- Loading starts with the files of its paths. -/
theorem start_eq_addFiles (host : Host) (options : CompilerOptions) (roots : List String) :
    start host options roots = (startPaths host roots).foldl addFile { options, host, roots } := by
  rw [start, startPaths, List.foldl_append]
  split <;> rfl

/-- The names of the paths with which loading starts. -/
def startNames (host : Host) (roots : List String) : List String :=
  (startPaths host roots).map host.canonicalName

/-- The program at the start holds the files of its names. -/
theorem start_holds (host : Host) (options : CompilerOptions) (roots : List String) :
    (start host options roots).Holds (startNames host roots).eraseDups := by
  have hempty : Program.Holds { options, host, roots } ([] : List String).eraseDups :=
    ⟨by simp, rfl, rfl, rfl, rfl⟩
  rw [start_eq_addFiles]
  exact hempty.after_addFiles _

end Program

end ScriptHost
