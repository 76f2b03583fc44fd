import ScriptHost.Proofs.Program.Resolution
/-!
# Candidates of resolution

Resolution looks for a file at one path after another, and its answer is the
first of them that exists. A specifier, the options and the file that imports it
say under which places to look, and the descriptions of packages say where to
look further. Of the files themselves only this much matters to the order of
the paths: what can be read as the description of a package.

- `Host.firstOf`: the name of the first of some paths that exists.
- `Resolver.places`: the places of a specifier, which depend on no file.
- `Resolver.candidates`: the paths at which its file is looked for.
- `Resolver.resolve_eq_firstOf`: resolution answers with the first candidate that exists.
-/

namespace ScriptHost

/-! ## The first path that exists -/

namespace Host

/-- The name of the first of some paths that exists. -/
def firstOf (h : Host) (paths : List String) : Option String :=
  (paths.find? h.exists?).map h.canonicalName

variable {h : Host}

theorem firstOf_append (paths more : List String) :
    h.firstOf (paths ++ more) = (h.firstOf paths).or (h.firstOf more) := by
  rw [firstOf, List.find?_append, Option.map_or]
  rfl

theorem firstOf_flatMap {α : Type} (l : List α) (paths : α → List String) :
    h.firstOf (l.flatMap paths) = l.findSome? fun a => h.firstOf (paths a) := by
  induction l with
  | nil => rfl
  | cons a l ih =>
    rw [List.flatMap_cons, firstOf_append, ih, List.findSome?_cons]
    cases h.firstOf (paths a) <;> rfl

theorem isSome_firstOf {paths : List String} :
    (h.firstOf paths).isSome = true ↔ ∃ path ∈ paths, h.exists? path = true := by
  rw [firstOf, Option.isSome_map, List.find?_isSome]

end Host

namespace Resolver

variable (r : Resolver)

/-! ## Paths of a place -/

/-- The sources of which a path may name the output. -/
def sourceCandidates (path : String) : List String :=
  sourceEndings.flatMap fun (ending, sources) =>
    if Path.endsWithAny [ending] (Path.lowerAscii path) then
      sources.map (dropEnd ending.length path ++ ·)
    else []

/-- The paths of the file that a path means. -/
def fileCandidates (path : String) : List String :=
  (if r.namesSource path then [path] else []) ++ sourceCandidates path ++
    r.endings.map (path ++ ·)

/-- The paths of the first file of a directory. -/
def indexCandidates (path : String) : List String := r.endings.map (path ++ "/index" ++ ·)

/-- The places that the description of the package in a directory names. -/
def described (path : String) : List String :=
  (((r.host.read? (path ++ "/package.json")).map manifestEntries).getD []).map (Path.join path)

/-- The paths of the file that a place means, as a file, as a package or as a directory. -/
def placeCandidates (place : String) : List String :=
  r.fileCandidates place ++
    ((r.described place).flatMap fun path => r.fileCandidates path ++ r.indexCandidates path) ++
    r.indexCandidates place

/-! ## Places of a specifier -/

/-- The places of the alias that a specifier matches. -/
def aliasPlaces (options : CompilerOptions) (specifier : String) : List String :=
  match matchAlias options.paths specifier with
  | some (captured, places) =>
    places.map fun place =>
      Path.join (Path.normalize (options.baseUrl.getD ".")) (fillStar captured place)
  | none => []

/-- The places of a package in the packages of one directory. -/
def packagePlaces (specifier dir : String) : List String :=
  let packages := if dir.isEmpty then "node_modules" else dir ++ "/node_modules"
  [packages ++ "/" ++ specifier, packages ++ "/@types/" ++ typesPackage specifier]

/-- The places at which the file of a specifier is looked for. -/
def places (options : CompilerOptions) (file specifier : String) : List String :=
  if isPath specifier then [Path.join (Path.dirname file) specifier]
  else aliasPlaces options specifier ++
    (directoriesFrom (Path.dirname file)).flatMap (packagePlaces specifier)

/-- The paths at which the file of a specifier is looked for, in their order. -/
def candidates (file specifier : String) : List String :=
  (places r.options file specifier).flatMap r.placeCandidates

/-! ## The first candidate -/

variable {r}

theorem findFile_eq (path : String) : r.findFile path = r.host.firstOf [path] := by
  rw [findFile, Host.firstOf, List.find?_singleton]
  split <;> rfl

theorem findEnding_eq (path : String) (endings : List String) :
    r.findEnding path endings = r.host.firstOf (endings.map (path ++ ·)) := by
  rw [findEnding, List.map_eq_flatMap, Host.firstOf_flatMap]
  simp only [findFile_eq]

theorem sourceOf_eq (path : String) :
    r.sourceOf path = r.host.firstOf (sourceCandidates path) := by
  rw [sourceOf, sourceCandidates, Host.firstOf_flatMap]
  refine congrArg (List.findSome? · sourceEndings) (funext fun ⟨ending, sources⟩ => ?_)
  dsimp only
  split
  · exact findEnding_eq _ _
  · rfl

theorem loadFile_eq (path : String) : r.loadFile path = r.host.firstOf (r.fileCandidates path) := by
  have hown : (if r.namesSource path then r.findFile path else none) =
      r.host.firstOf (if r.namesSource path then [path] else []) := by
    split
    · exact findFile_eq path
    · rfl
  rw [loadFile, fileCandidates, Host.firstOf_append, Host.firstOf_append, hown, sourceOf_eq,
    findEnding_eq]

theorem loadIndex_eq (path : String) :
    r.loadIndex path = r.host.firstOf (r.indexCandidates path) := findEnding_eq _ _

theorem load_eq (place : String) : r.load place = r.host.firstOf (r.placeCandidates place) := by
  rw [load, loadDirectory, placeCandidates, Host.firstOf_append, Host.firstOf_append,
    Host.firstOf_flatMap, described, List.findSome?_map, Option.or_assoc]
  simp only [loadFile_eq, loadIndex_eq, Host.firstOf_append, Function.comp_def]

theorem loadAlias_eq (specifier : String) :
    r.loadAlias specifier =
      r.host.firstOf ((aliasPlaces r.options specifier).flatMap r.placeCandidates) := by
  rw [loadAlias, aliasPlaces, Host.firstOf_flatMap]
  cases matchAlias r.options.paths specifier with
  | none => rfl
  | some found =>
    obtain ⟨captured, places⟩ := found
    simp only [Option.bind_eq_bind, Option.bind_some, List.findSome?_map, load_eq,
      Function.comp_def]

theorem loadNearest_eq (specifier dir : String) :
    r.loadNearest specifier dir = r.host.firstOf
      (((directoriesFrom dir).flatMap (packagePlaces specifier)).flatMap r.placeCandidates) := by
  have hpackage : r.loadPackage specifier = fun dir =>
      r.host.firstOf ((packagePlaces specifier dir).flatMap r.placeCandidates) := by
    funext dir
    rw [loadPackage, packagePlaces, load_eq, load_eq, ← Host.firstOf_append]
    simp only [List.flatMap_cons, List.flatMap_nil, List.append_nil]
  rw [loadNearest, hpackage, List.flatMap_assoc, Host.firstOf_flatMap]

/-- **The first candidate that exists.** A specifier refers to the module that it names, if this is
declared, or else to the first of its candidates that exists. -/
theorem resolve_eq_firstOf (modules : List String) (file specifier : String) :
    r.resolve modules file specifier =
      if isPath specifier = false ∧ specifier ∈ modules then some (.ambient specifier)
      else (r.host.firstOf (r.candidates file specifier)).map .file := by
  rw [candidates, places]
  simp only [resolve, List.contains_iff_mem]
  cases isPath specifier with
  | true => simp [load_eq]
  | false => simp [loadAlias_eq, loadNearest_eq, Host.firstOf_append]

/-- A specifier refers to a file if it names no declared module and one of its candidates exists. -/
theorem isSome_resolve {modules : List String} {file specifier : String} :
    (r.resolve modules file specifier).isSome = true ↔
      isPath specifier = false ∧ specifier ∈ modules ∨
        ∃ path ∈ r.candidates file specifier, r.host.exists? path = true := by
  rw [resolve_eq_firstOf]
  split
  · next hdeclared => simp [hdeclared]
  · next hdeclared => simp only [Option.isSome_map, Host.isSome_firstOf, hdeclared, false_or]

end Resolver

end ScriptHost
