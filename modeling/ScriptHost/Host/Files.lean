import ScriptHost.Data.SortedMap
import ScriptHost.Host.Path
import ScriptHost.Options.Basic
import ScriptHost.Source.LowerCase
import ScriptHost.Source.SourceFile
/-!
# Files without a file system

A compilation reads its files from two sets of texts, those it is asked to
compile and those they depend on. Paths are looked up without regard to the
kind of their separators and to the case of their letters.

- `FileSet.key?`: the spelling under which a set holds a path.
- `Indexing`: an order in which paths are indexed.
- `Host`: what a compilation asks of its surroundings.
- `VirtualFiles.host`: the host of two sets of files.
- `SourceCache`: the files that were read.
-/

namespace ScriptHost

/-! ## Sets of files -/

/-- Texts by path, with the paths in lower case beside them. -/
structure FileSet where
  files : SortedMap String
  /-- Each path after its spelling in lower case; of two paths with one such spelling, the first
  is found. -/
  spellings : List (String × String) :=
    files.keys.map fun path => (lowerCase path, path)
  /-- The spellings are those of the paths, in any order. -/
  indexed : spellings.Perm (files.keys.map fun path => (lowerCase path, path)) := by exact .refl _

namespace FileSet

/-- The set of the given files. -/
def ofMap (files : SortedMap String) : FileSet := { files }

/-- The set of the given files with slashes in their paths; of two that then have the same
path, the later one. -/
def ofCanonical (files : SortedMap String) : FileSet :=
  ofMap (SortedMap.ofList (files.entries.map fun f => (Path.canonical f.1, f.2)))

/-- The path under which the set holds a file: as it is spelled, or else spelled otherwise. -/
def key? (s : FileSet) (path : String) : Option String :=
  if s.files.contains path then some path else s.spellings.lookup (lowerCase path)

/-- The text of a file. -/
def text? (s : FileSet) (path : String) : Option String :=
  (s.key? path).bind s.files.get?

/-- The paths of a set that was made with slashes have slashes. -/
theorem canonical_of_mem_ofCanonical {files : SortedMap String} {path : String}
    (h : path ∈ (ofCanonical files).files.keys) : Path.canonical path = path := by
  obtain ⟨e, hmem, rfl⟩ := List.mem_map.1 (SortedMap.mem_keys_ofList h)
  obtain ⟨f, -, rfl⟩ := List.mem_map.1 hmem
  exact Path.canonical_canonical f.1

end FileSet

/-- An order in which paths are indexed. Each call may have another one. -/
structure Indexing where
  order : List String → List String
  perm : ∀ paths, (order paths).Perm paths

/-- The order of the paths themselves. -/
def Indexing.byPath : Indexing where
  order := id
  perm := List.Perm.refl

/-- The same files with their paths indexed in some order. -/
def FileSet.indexedBy (s : FileSet) (i : Indexing) : FileSet where
  files := s.files
  spellings := (i.order s.files.keys).map fun path => (lowerCase path, path)
  indexed := (i.perm s.files.keys).map _

/-! ## Hosts -/

/-- What a compilation asks of its surroundings. -/
structure Host where
  exists? : String → Bool
  read? : String → Option String
  /-- The text that is compiled for a path that has its canonical spelling. -/
  sourceText : String → String
  /-- The spelling under which a path is known. -/
  canonicalName : String → String
  /-- Whether a file is there for others to depend on, and not compiled for its own sake. -/
  isLibrary : String → Bool
  defaultLib : String
  /-- The paths of all files. -/
  names : List String

/-- The two sets of files of a compilation. -/
structure VirtualFiles where
  input : FileSet
  external : FileSet
  environment : Environment := {}
  /-- The paths of the files to compile have slashes. -/
  canonical_of_mem : ∀ path ∈ input.files.keys, Path.canonical path = path

namespace VirtualFiles

/-- The files to compile and the files they depend on. -/
def ofMaps (input external : SortedMap String) (environment : Environment) : VirtualFiles :=
  ⟨.ofCanonical input, .ofMap external, environment, fun _ => FileSet.canonical_of_mem_ofCanonical⟩

/-- The same files with the paths of those to compile indexed in some order. The paths of those that
others depend on stay in their own order. -/
def indexedBy (v : VirtualFiles) (i : Indexing) : VirtualFiles :=
  { v with input := v.input.indexedBy i, canonical_of_mem := v.canonical_of_mem }

/-- The path under which a file is held, first among the files to compile. -/
def key? (v : VirtualFiles) (path : String) : Option String :=
  (v.input.key? path).or (v.external.key? path)

/-- The host of two sets of files: reading prefers what is compiled, compiling prefers what
others depend on. -/
def host (v : VirtualFiles) : Host where
  exists? path := (v.key? (Path.canonical path)).isSome
  read? path :=
    let path := Path.canonical path
    (v.input.text? path).or (v.external.text? path)
  sourceText path := ((v.external.text? path).or (v.input.text? path)).getD ""
  canonicalName path :=
    let path := Path.canonical path
    (v.key? path).getD path
  isLibrary path :=
    let path := Path.canonical path
    (v.input.key? path).isNone && (v.external.key? path).isSome
  defaultLib := v.environment.defaultLib
  names := v.input.files.keys ++ v.external.files.keys

end VirtualFiles

/-- The host that tells the files to depend on by their directory alone. -/
def Host.byDirectory (h : Host) : Host :=
  { h with isLibrary := fun path =>
      Path.startsWith "node_modules/" path || Path.holds "/node_modules/" path }

/-- The file of a canonical name, as it is read. -/
def Host.file (h : Host) (name : String) : SourceFile := SourceFile.parse name (h.sourceText name)

/-! ## Reading files once -/

/-- The files that were read, each under its canonical name. -/
structure SourceCache where
  files : List SourceFile := []

namespace SourceCache

/-- The file of that name, if it was read. -/
def find? (cache : SourceCache) (name : String) : Option SourceFile :=
  cache.files.find? (·.name == name)

/-- How many files were read. -/
def size (cache : SourceCache) : Nat := cache.files.length

/-- The file of a path, which is read unless it was before. -/
def get (host : Host) (path : String) (cache : SourceCache) : SourceFile × SourceCache :=
  let name := host.canonicalName path
  match cache.find? name with
  | some file => (file, cache)
  | none => (host.file name, ⟨host.file name :: cache.files⟩)

end SourceCache

end ScriptHost
