import ScriptHost.Emit.File
import ScriptHost.Program.Diagnostics
/-!
# Output of a program

- `Emission`: the files that a program was compiled to.
- `Program.emit`: compiles the files of a program.
-/

namespace ScriptHost

/-- The files that a program was compiled to, in the order in which they were written. -/
structure Emission where
  skipped : Bool := false
  written : List (String × String) := []
deriving Repr, Inhabited

namespace Emission

/-- The texts by path; of two that were written to one path, the later one. -/
def output (e : Emission) : SortedMap String :=
  SortedMap.ofList (e.written.map fun (path, text) => (Path.canonical path, text))

/-- The paths in the order in which they were written. -/
def names (e : Emission) : List String := e.written.map (·.1)

end Emission

namespace Program

/-- Whether nothing is to be emitted. -/
def skipsEmit (p : Program) : Bool :=
  p.options.noEmit || (p.options.noEmitOnError && !p.preEmitErrors.isEmpty)

/-- Compiles files in turn. -/
def emitFiles (p : Program) (t : Transformers) : List SourceFile → Action (List (String × String))
  | [] => return []
  | file :: files => do
    match Path.outputName file.name p.options.allowJs with
    | none => p.emitFiles t files
    | some path =>
      let text ← p.emitFile file t
      return (path, text) :: (← p.emitFiles t files)

/-- Compiles the files of a program. -/
def emit (p : Program) (t : Transformers) : Action Emission := do
  if p.skipsEmit then return { skipped := true }
  return { written := ← p.emitFiles t p.emittable }

end Program

end ScriptHost
