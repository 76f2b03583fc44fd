import ScriptHost.Compile.Basic
import ScriptHost.Snapshot.Collect
/-!
# Keeping snapshots

A snapshot is kept as a file of structured data, from which a compiler can be
set up with it.

- `Snapshot.render`, `Snapshot.parse`: a snapshot as text.
- `Snapshot.save`: collects a snapshot and writes it.
- `Snapshot.load`: reads a snapshot back.
-/

namespace ScriptHost

namespace Snapshot

/-- A snapshot as text, a line for each file. -/
def render (files : SortedMap String) : String :=
  if files.entries.isEmpty then "\x7b\x7d"
  else
    let lines := files.entries.map fun (path, text) =>
      "  " ++ Json.renderText path ++ ": " ++ Json.renderText text
    "\x7b\n" ++ ",\n".intercalate lines ++ "\n\x7d"

/-- The snapshot of a text. -/
def parse (text : String) : Except JsonError (SortedMap String) :=
  (Reader.mapOf Reader.text).run text

/-- Runs an action, whose failure is told of in a text. -/
def telling (text : String) (action : DiskAction Unit) : EStateM Failure Disk Unit :=
  action.adaptExcept fun e => (Failure.ofText e.message).within text

/-- Writes a snapshot, in a directory that is made if it is missing. -/
def write (files : SortedMap String) (output : String) : EStateM Failure Disk Unit := do
  let parent := Disk.parent output
  unless parent.isEmpty do
    telling ("Could not create " ++ parent) (Disk.makeDirectory parent)
  telling ("Could not write " ++ output) (Disk.write output (render files))

/-- Writes the snapshot of a directory and says how many files it holds. -/
def save (input output : String) : EStateM Failure Disk Nat := do
  let files ← MonadExcept.ofExcept (collect (← get) input)
  write files output
  return files.size

/-- The text of a file that something is set up from. -/
def readFor (d : Disk) (path : String) : Except Failure String :=
  match d.read path with
  | .ok text => .ok text
  | .error e => .error (.ofText ("Could not read " ++ path ++ ": " ++ e.message))

/-- The snapshot of a file. -/
def load (d : Disk) (path : String) : Except Failure (SortedMap String) := do
  match parse (← readFor d path) with
  | .ok files => return files
  | .error e => throw (.ofText ("Could not parse " ++ path ++ ": " ++ e.message))

end Snapshot

/-- The compiler for the snapshot of a file. -/
def Compiler.ofSnapshot (d : Disk) (path : String) : Except Failure Compiler := do
  return { external := ← Snapshot.load d path }

/-- The options of a project file. -/
def CompilerOptions.ofProjectFile (d : Disk) (path : String) : Except Failure CompilerOptions := do
  match CompilerOptions.ofProject (← Snapshot.readFor d path) with
  | .ok o => return o
  | .error e => throw (.ofDefect (.badOptions e.message))

end ScriptHost
