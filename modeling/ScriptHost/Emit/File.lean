import ScriptHost.CommonJS.Module
import ScriptHost.Decorator.Experimental
import ScriptHost.Decorator.Standard
import ScriptHost.Emit.Hygiene
import ScriptHost.Emit.Parens
import ScriptHost.Erase.Module
import ScriptHost.Lower.Edition
import ScriptHost.Helper.Code
import ScriptHost.Printer.Module
import ScriptHost.Transform.Factory
/-!
# Output of one file

- `Node.lowerDecorators`: a module without decorators.
- `Action.print`: writes a module, or stops at one without a text.
- `Program.emitFile`: the text that a file of a program is compiled to.
-/

namespace ScriptHost

/-- The module without decorators, of the kind that options name. -/
def Node.lowerDecorators (o : CompilerOptions) (module : Node) : Lowering Node :=
  if !module.any (fun n => n.form == .decorator) then return module
  else if o.experimentalDecorators then module.lowerExperimental o.emitDecoratorMetadata
  else module.lowerStandard

namespace Action

/-- The text with which the output of a module stops that kept a refused pattern. -/
def refusedPattern : String := "not implemented: emit Pat::Invalid"

/-- The text with which the output of a module stops that cannot be rewritten. -/
def refusedModule : String :=
  "cannot access a scoped thread local variable without calling `set` first"

/-- Writes a module in an edition of the language, with its comments. -/
def print (target : Target) (comments : Comments) (module : Node) : Action String :=
  match module.print? target comments with
  | some text => return text
  | none => stop refusedPattern

section Print

variable {target : Target} {comments : Comments} {module : Node} {before found : List Report}

theorem yields_print {text : String} : (print target comments module).Yields before text found ↔
    module.print? target comments = some text ∧ found = [] := by
  rw [print]
  cases module.print? target comments with
  | none => simp [stop, not_yields_throw]
  | some written => simp [yields_pure]

theorem stops_print {e : Exception} : (print target comments module).Stops before e ↔
    module.print? target comments = none ∧ e = .stopped refusedPattern := by
  rw [print]
  cases module.print? target comments with
  | none => simp [stop, stops_throw, eq_comm]
  | some written => simp [not_stops_pure]

end Print

end Action

namespace Program

/-- Whether a module cannot be rewritten: it has items that only the top level may have, or private
names without a member that older editions would have to keep somewhere. -/
def isRefused (o : CompilerOptions) (isJavaScript : Bool) (module : Node) : Bool :=
  (!isJavaScript && module.hasForeignItems)
    || (o.target.isBelow .es2022 && module.hasClassMembers && module.hasLostPrivate)

/-- Rewrites a module for the edition of options, without types and decorators. -/
def lowering (o : CompilerOptions) (isJavaScript : Bool) (module : Node) : Lowering Node := do
  let module ← module.lowerDecorators o
  let module ← if isJavaScript then pure module else module.eraseTypes
  let module ← module.lowerTo o
  if o.module.isCommonJS then module.toCommonJS (.ofOptions o) else return module

/-- A module of a file, rewritten for the edition of the options. -/
def lowered (p : Program) (file : SourceFile) (module : Node) : Node × LowerState :=
  (lowering p.options file.isJavaScript module).run { nextScope := file.module.resolve.2 }

/-- Rewrites a module of a file, or stops at one that is refused. -/
def lowerFile (p : Program) (file : SourceFile) (module : Node) : Action (Node × LowerState) :=
  if isRefused p.options file.isJavaScript module then Action.stop Action.refusedModule
  else return p.lowered file module

/-- The module of a file as it is written, and its comments. -/
def finished (file : SourceFile) (s : LowerState) (module : Node) : Node × Comments :=
  let (module, _) := module.withHelpers.run s
  let (module, gone) := module.withDistinctNames.reparenFully
  (module, gone.foldl (fun cs (inner, outer) => cs.move outer inner) file.comments)

/-- The text that a file is compiled to. -/
def emitFile (p : Program) (file : SourceFile) (t : Transformers) : Action String := do
  let c : FactoryContext := ⟨file, p.options⟩
  let module ← runFactories t.before c file.module.resolve.1
  let (module, s) ← p.lowerFile file module
  let module ← runFactories t.after c module
  let (module, comments) := finished file s module
  Action.print p.options.target comments module

end Program

end ScriptHost
