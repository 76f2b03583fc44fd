import ScriptHost.Json.Read
import ScriptHost.Result.Failure
import ScriptHost.Snapshot.Tree
/-!
# Snapshots of installed packages

A snapshot holds what programs may read of installed packages: the files that
declare, and the manifests. Packages that carry packages of their own hand them
over too.

- `Snapshot.dependencies`: the packages that a lock file lists.
- `Snapshot.packageFiles`: what a package adds to a snapshot.
- `Snapshot.collect`: the snapshot of a directory.
-/

namespace ScriptHost

namespace Snapshot

/-- The directory that packages are installed in. -/
def packagesName : String := "node_modules"

/-- The file that lists what is installed. -/
def lockName : String := "package-lock.json"

/-- The manifest of a package. -/
def manifestName : String := "package.json"

/-- How the names of files end that declare. -/
def declarationEnding : String := ".d.ts"

/-! ## Lock files -/

/-- Reads the paths of the packages of a lock file. -/
def lockReader : Reader (List String) :=
  let paths : Reader (List String) := do return (← Reader.mapOf Reader.value).keys
  Reader.record "PackageLock" []
    (fun d name => if name == "packages" then d.read name paths fun found _ => found else d.skip)
    (do if ← Reader.hasItem true then paths else return [])
    pure

/-- The name of the package that is installed at a path. -/
def libraryOf? (path : String) : Option String :=
  let front := packagesName ++ "/"
  if Path.startsWith front path then some (String.ofList (path.toList.drop front.length))
  else none

/-- The packages that the lock file of a directory lists. -/
def dependencies (d : Disk) (input : String) : Except Failure (List String) :=
  let path := Disk.join input lockName
  match d.read path with
  | .error e => .error ((Failure.ofText e.message).within ("Could not read " ++ path))
  | .ok text =>
    match lockReader.run text with
    | .error e => .error (.ofDefect (.snapshot (path ++ ": " ++ e.message)))
    | .ok paths => .ok (paths.filterMap libraryOf?)

/-! ## Packages -/

/-- Whether a package is one that others carry: it has a manifest. -/
def hasManifest (entries : List (String × FileTree)) : Bool :=
  (entries.lookup manifestName).isSome

/-- Whether a file goes into a snapshot, by its directory inside of the package and its name. -/
def isCollected (inside name : String) : Bool :=
  Path.endsWithAny [declarationEnding] name || (inside.isEmpty && name == manifestName)

/-- The path of a file in a snapshot. -/
def key (library inside name : String) : String :=
  packagesName ++ "/" ++ library ++ "/" ++ Path.canonical (inside ++ name)

mutual
/-- What the entries of a directory inside of a package add to a snapshot. -/
def packageFiles (library inside : String) : List (String × FileTree) → List (String × String)
  | [] => []
  | (name, t) :: rest => entryFiles library inside name t ++ packageFiles library inside rest
/-- What an entry of a directory inside of a package adds. -/
def entryFiles (library inside name : String) : FileTree → List (String × String)
  | .file text => if isCollected inside name then [(key library inside name, text)] else []
  | .dir entries =>
    if name == packagesName then carriedFiles entries
    else packageFiles library (inside ++ name ++ "/") entries
/-- What the packages add that a package carries. -/
def carriedFiles : List (String × FileTree) → List (String × String)
  | [] => []
  | (name, t) :: rest => carriedEntry name t ++ carriedFiles rest
/-- What an entry of a directory of carried packages adds. -/
def carriedEntry (name : String) : FileTree → List (String × String)
  | .file _ => []
  | .dir entries => if hasManifest entries then packageFiles name "" entries else []
end

mutual
/-- The carried packages below the entries of a directory, each with the directory it is in. -/
def carriedBelow (path : String) : List (String × FileTree) → List (String × String)
  | [] => []
  | (name, t) :: rest => carriedAt path name t ++ carriedBelow path rest
/-- The carried packages at and below an entry of a directory. -/
def carriedAt (path name : String) : FileTree → List (String × String)
  | .file _ => []
  | .dir entries =>
    if name == packagesName then carriedIn (path ++ "/" ++ name) entries
    else carriedBelow (path ++ "/" ++ name) entries
/-- The packages of a directory of carried packages. -/
def carriedIn (path : String) : List (String × FileTree) → List (String × String)
  | [] => []
  | (name, t) :: rest => carriedOne path name t ++ carriedIn path rest
/-- A carried package and those below it. -/
def carriedOne (path name : String) : FileTree → List (String × String)
  | .file _ => []
  | .dir entries =>
    if hasManifest entries then (name, path) :: carriedBelow (path ++ "/" ++ name) entries else []
end

/-! ## Whole snapshots -/

/-- The directory of a package. -/
def packagePath (input library : String) : String :=
  Disk.join (Disk.join input packagesName) library

/-- The entries of a package's directory, if it is installed. -/
def installed? (d : Disk) (input library : String) : Option (List (String × FileTree)) :=
  match d.find (packagePath input library) with
  | .ok (.dir entries) => some entries
  | _ => none

/-- What a package adds to the snapshot of a directory. -/
def libraryFiles (d : Disk) (input library : String) : List (String × String) :=
  ((installed? d input library).map (packageFiles library "")).getD []

/-- The snapshot of a directory: of files with the same path, the last one counts. -/
def collect (d : Disk) (input : String) : Except Failure (SortedMap String) := do
  return .ofList ((← dependencies d input).flatMap (libraryFiles d input))

/-- What is told of the collection of a package. -/
def notes (d : Disk) (input library : String) : List String :=
  match installed? d input library with
  | none => ["Skipping " ++ library ++ ": not installed"]
  | some entries =>
    (carriedBelow (packagePath input library) entries).map fun (name, path) =>
      "Collecting nested package " ++ name ++ " in " ++ path

end Snapshot

end ScriptHost
