import ScriptHost.Emit.Program
import ScriptHost.Options.Display
import ScriptHost.Result.Basic
/-!
# Compilers

A compiler is set up once and then compiles or rewrites sets of files. Each
call builds its own program, so that no call sees what another was given.

- `Compiler`: what a compiler is set up with.
- `Compiler.files`: the files that a call sees, indexed in some order.
- `Compiler.compile`: the answer to a compilation.
- `Compiler.transform`: the answer to a rewriting.
-/

namespace ScriptHost

/-- What a compiler is set up with. -/
structure Compiler where
  options : CompilerOptions := {}
  external : SortedMap String := .empty
  environment : Environment := {}
  provider : Option Provider := none
  /-- The order in which a call indexes the paths of its files. It is not chosen by the caller, and
  calls may differ in it. -/
  indexing : Indexing := .byPath

/-- A program, in one line. -/
def Program.display (p : Program) : String :=
  Display.record "Program"
    [("root_names", Display.list (p.roots.map Text.quoted)),
     ("files", toString p.files.length)]

namespace Compiler

/-- The settings of a compiler, in one line. -/
def display (c : Compiler) : String :=
  Display.record "EmbedProps"
    [("compiler_options", c.options.display),
     ("external", Text.quoted (toString c.external.size ++ " files")),
     ("transformers", Display.bool c.provider.isSome),
     ("environment", c.environment.display)]

/-- The external files that every program includes. -/
def ambientRoots (c : Compiler) : List String :=
  c.external.keys.filter (Path.endsWithAny [c.environment.ambientEnding])

/-- The compiler in a call that indexes the paths of its files in some order. -/
def indexedBy (c : Compiler) (i : Indexing) : Compiler := { c with indexing := i }

/-- The files that a call sees. -/
def files (c : Compiler) (input : SortedMap String) : VirtualFiles :=
  (VirtualFiles.ofMaps input c.external c.environment).indexedBy c.indexing

/-- The program of a call. -/
def program (c : Compiler) (input : SortedMap String) : Program :=
  Program.load (c.files input).host c.options (input.keys ++ c.ambientRoots)

/-- What a call adds up to: its texts, and the reports that were made. -/
def answer (r : Except Exception (SortedMap String × List Report)) : Answer :=
  match r with
  | .ok (output, reports) => .ofDiagnostics output (reports.map Report.normalize)
  | .error e => .exception e

/-- The factories of a compilation. -/
def transformers (c : Compiler) (p : Program) : Action Transformers :=
  match c.provider with
  | some provider => provider p
  | none => return {}

/-- Compiles a program: the reports of the factories come before the errors of the program. -/
def compileProgram (c : Compiler) (p : Program) : Action (SortedMap String) := do
  let t ← c.transformers p
  let emission ← p.emit t
  Action.reportAll p.preEmitErrors
  return emission.output

/-- The answer to a compilation. -/
def compile (c : Compiler) (input : SortedMap String) : Answer :=
  answer ((c.compileProgram (c.program input)).run [])

/-- The texts of a rewriting: each file as the factory leaves it, with its types. -/
def rewriteFiles (p : Program) (factory : Factory) (cache : SourceCache) :
    List String → Action (List (String × String))
  | [] => return []
  | path :: paths => do
    let (file, cache) := cache.get p.host path
    let module ← factory ⟨file, p.options⟩ file.module.resolve.1
    let text ← Action.print .esNext file.comments module
    return (path, text) :: (← rewriteFiles p factory cache paths)

/-- Rewrites the files of a call. -/
def rewrite (c : Compiler) (input : SortedMap String) : Action (SortedMap String) := do
  match c.provider with
  | none => Action.fail .noTransformers
  | some provider =>
    let p := c.program input
    let t ← provider p
    match t.before with
    | [] => Action.fail .noFactory
    | factory :: _ => return .ofList (← rewriteFiles p factory p.cache input.keys)

/-- The answer to a rewriting. -/
def transform (c : Compiler) (input : SortedMap String) : Answer :=
  answer ((c.rewrite input).run [])

end Compiler

end ScriptHost
