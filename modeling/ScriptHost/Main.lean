import ScriptHost.Command.Run
/-!
# The command line

The outer layer of the program: it reads the files that a command is about,
runs the command on them, prints what it answers and keeps what it wrote.

- `main`: the program.
-/

namespace ScriptHost

namespace Main

/-- The answer of an action, if it succeeds. -/
def attempt {α : Type} (x : IO α) : IO (Option α) := do
  try return some (← x) catch _ => return none

/-- The directories and files of a path, to a depth; what is no text is left out. -/
def readTree : Nat → String → IO (Option FileTree)
  | 0, _ => return none
  | depth + 1, path => do
    let here : IO.FS.DirEntry := ⟨path, "."⟩
    match ← attempt here.path.readDir with
    | some entries =>
      let trees ← entries.toList.filterMapM fun e => do
        return (← readTree depth (path ++ "/" ++ e.fileName)).map fun t => (e.fileName, t)
      return some (.dir (SortedMap.ofList trees).entries)
    | none => return (← attempt (IO.FS.readFile path)).map .file

/-- How deep directories may lie in one another. -/
def maxDepth : Nat := 64

/-- The disk with what the segments of a path lead to, the last one to a depth. -/
def readPath (depth : Nat) (d : Disk) (front : String) : List String → IO Disk
  | [] => return d
  | s :: rest => do
    let path := front ++ "/" ++ s
    let tree ← readTree (if rest.isEmpty then depth else 1) path
    let names := (Disk.split path).filter (!·.isEmpty)
    let d := match tree, d.find path with
      | some t, .error _ => { d with tree := FileTree.put t names d.tree }
      | some t, .ok _ => if rest.isEmpty then { d with tree := FileTree.put t names d.tree } else d
      | none, _ => d
    readPath depth d path rest

/-- A path from the root on. -/
def fromRoot (home path : String) : String :=
  if path.isEmpty || Path.startsWith "/" path then path else Disk.join home path

/-- A number of milliseconds in seconds with two places. -/
def seconds (ms : Nat) : String :=
  let hundredths := (ms + 5) / 10
  let places := toString (hundredths % 100)
  toString (hundredths / 100) ++ "." ++ (if places.length < 2 then "0" ++ places else places) ++ "s"

/-- Runs a request for a snapshot on the files that it is about. -/
def runOnDisk (line : CommandLine) (input output : Option String) : IO CommandLine.Outcome := do
  let home := toString (← IO.currentDir)
  let start ← IO.monoMsNow
  let disk : Disk := ⟨"", .empty⟩
  let input := input.map (fromRoot home)
  let output := output.map (fromRoot home)
  let disk ← readPath maxDepth disk "" (Disk.plainSegments (input.getD ""))
  let disk ← match disk.find (output.getD "") with
    | .ok _ => pure disk
    | .error _ => readPath 1 disk "" (Disk.plainSegments (output.getD ""))
  let time := seconds ((← IO.monoMsNow) - start)
  let line := { line with request := some (.external input output) }
  let outcome := CommandLine.perform disk time line
  match outcome.code, output.map disk.absolute with
  | 0, some path =>
    match outcome.disk.read path with
    | .ok text =>
      IO.FS.createDirAll (Disk.parent path)
      IO.FS.writeFile path text
    | .error _ => pure ()
  | _, _ => pure ()
  return outcome

end Main

end ScriptHost

open ScriptHost in
/-- Runs a command line; the answer is its exit code. -/
def main (words : List String) : IO UInt32 := do
  let blank : Disk := ⟨"", .empty⟩
  let outcome ← match CommandLine.parse words with
    | .error e => pure (CommandLine.refuse blank e)
    | .ok line =>
      match line.request with
      | some (.external input output) => Main.runOnDisk line input output
      | _ => pure (CommandLine.perform blank "" line)
  IO.print outcome.output
  return outcome.code.toUInt32
