import ScriptHost.Data.SortedMap
import ScriptHost.Host.Path
/-!
# Trees of files

A disk holds files and directories below one directory, its home. Paths below
the home are written out in full or from the home on; nothing else exists.

- `FileTree`: a file or a directory.
- `FileTree.walk`: where a path leads.
- `Disk.read`, `Disk.write`, `Disk.makeDirectory`: the operations on a disk.
-/

namespace ScriptHost

/-- A text file, or a directory with its entries in the order of their names. -/
inductive FileTree where
  | file (text : String)
  | dir (entries : List (String × FileTree))
deriving Inhabited

/-- Why a path could not be used. -/
inductive DiskError where
  | notFound
  | exists
  | notDirectory
  | isDirectory
deriving BEq, DecidableEq, Repr, Inhabited

/-- The wording of an error. -/
def DiskError.message : DiskError → String
  | notFound => "No such file or directory (os error 2)"
  | «exists» => "File exists (os error 17)"
  | notDirectory => "Not a directory (os error 20)"
  | isDirectory => "Is a directory (os error 21)"

namespace FileTree

/-- The directory without entries. -/
def empty : FileTree := dir []

/-- Whether a tree is a directory. -/
def isDirectory : FileTree → Bool
  | file _ => false
  | dir _ => true

/-- The entry of a directory that has a name. -/
def entry? (name : String) : FileTree → Option FileTree
  | file _ => none
  | dir entries => entries.lookup name

/-- Where segments lead from a directory that lies below others, the nearest first. -/
def walk (above : List FileTree) : FileTree → List String → Except DiskError FileTree
  | here, [] => .ok here
  | file _, _ :: _ => .error .notDirectory
  | dir entries, s :: rest =>
    if s == "" || s == "." then walk above (dir entries) rest
    else if s == ".." then
      match above with
      | [] => .error .notFound
      | up :: above => walk above up rest
    else
      match entries.lookup s with
      | none => .error .notFound
      | some t => walk (dir entries :: above) t rest

/-- The tree with another one where names lead; missing directories are made. -/
def put (new : FileTree) : List String → FileTree → FileTree
  | [], _ => new
  | _ :: _, file text => file text
  | name :: names, dir entries =>
    dir (SortedMap.insertEntry name (put new names ((entries.lookup name).getD empty)) entries)

/-- Makes the directories along segments below the directory that names lead to, the last one
first. Answers the tree with all that could be made, and the names that the segments lead to. -/
def makeDirectories (t : FileTree) (names : List String) :
    List String → FileTree × Except DiskError (List String)
  | [] => (t, .ok names)
  | s :: rest =>
    if s == "" || s == "." then makeDirectories t names rest
    else if s == ".." then
      match names with
      | [] => (t, .error .notFound)
      | _ :: names => makeDirectories t names rest
    else
      match walk [] t ((s :: names).reverse) with
      | .ok (dir _) => makeDirectories t (s :: names) rest
      | .ok (file _) => (t, .error (if rest.isEmpty then .exists else .notDirectory))
      | .error _ => makeDirectories (put empty (s :: names).reverse t) (s :: names) rest

end FileTree

/-- The files below a directory. -/
structure Disk where
  /-- How the directory is written. -/
  home : String
  tree : FileTree := .empty

/-- Actions on a disk. What one has done before it fails stays done. -/
abbrev DiskAction := EStateM DiskError Disk

namespace Disk

/-- The segments of a text between slashes. -/
def split (path : String) : List String := (Path.splitChars '/' path.toList).map String.ofList

/-- The segments of a path from the home on, if it lies there. -/
def segments? (d : Disk) (path : String) : Option (List String) :=
  if path == d.home then some []
  else if Path.startsWith (d.home ++ "/") path then
    some (split (String.ofList (path.toList.drop (d.home.length + 1))))
  else if path.isEmpty || Path.startsWith "/" path then none
  else some (split path)

/-- What a path leads to. -/
def find (d : Disk) (path : String) : Except DiskError FileTree :=
  match d.segments? path with
  | none => .error .notFound
  | some segments => d.tree.walk [] segments

/-- Whether a path leads to anything. -/
def contains (d : Disk) (path : String) : Bool := (d.find path).isOk

/-- Whether a path leads to a directory. -/
def isDirectory (d : Disk) (path : String) : Bool :=
  match d.find path with
  | .ok t => t.isDirectory
  | .error _ => false

/-- The text of a file. -/
def read (d : Disk) (path : String) : Except DiskError String := do
  match ← d.find path with
  | .file text => return text
  | .dir _ => throw .isDirectory

/-- Makes a directory and those above it. -/
def makeDirectory (path : String) : DiskAction Unit := do
  let d ← get
  match d.segments? path with
  | none => throw .notFound
  | some segments =>
    let (tree, made) := d.tree.makeDirectories [] segments
    set { d with tree }
    let _ ← MonadExcept.ofExcept made

/-- Writes a text as the file of a path, whose directory must be there. -/
def write (path text : String) : DiskAction Unit := do
  let d ← get
  let segments := (d.segments? path).getD []
  match d.find path, segments.getLast? with
  | .ok (.dir _), _ | _, none | _, some "" => throw .isDirectory
  | .error .notDirectory, _ => throw .notDirectory
  | _, some name =>
    if name == "." || name == ".." then throw .notFound
    let _ ← MonadExcept.ofExcept (d.tree.walk [] segments.dropLast)
    let names ← MonadExcept.ofExcept (d.tree.makeDirectories [] segments.dropLast).2
    set { d with tree := FileTree.put (.file text) (name :: names).reverse d.tree }

/-- The path of an entry of a directory; a path from the root stands for itself. -/
def join (directory name : String) : String :=
  if Path.startsWith "/" name || directory.isEmpty then name
  else if Path.endsWithAny ["/"] directory then directory ++ name
  else directory ++ "/" ++ name

/-- The path with a text for each of its segments but empty ones and dots. -/
def plainSegments (path : String) : List String :=
  (split path).filter fun s => s != "" && s != "."

/-- The path of the directory that a path lies in. -/
def parent (path : String) : String :=
  let front := if Path.startsWith "/" path then "/" else ""
  front ++ "/".intercalate (plainSegments path).dropLast

/-- The path in full, without empty segments and dots; a slash at the end stays. -/
def absolute (d : Disk) (path : String) : String :=
  let isFull := path == d.home || Path.startsWith (d.home ++ "/") path || Path.startsWith "/" path
  let full := if isFull then path else d.home ++ "/" ++ path
  let front := if Path.startsWith "/" full then "/" else ""
  let segments := plainSegments full
  if path.isEmpty then path
  else
    front ++ "/".intercalate segments
      ++ (if Path.endsWithAny ["/"] path && !segments.isEmpty then "/" else "")

end Disk

end ScriptHost
