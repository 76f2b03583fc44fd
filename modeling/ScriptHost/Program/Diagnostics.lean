import ScriptHost.Check.Imports
import ScriptHost.Check.Names
/-!
# What is wrong with a program

The errors of a program's files before anything is emitted. Errors of the
grammar hide all others.

- `Program.syntaxErrors`, `Program.semanticErrors`: the errors of the checked files.
- `Program.preEmitErrors`: the errors that a compilation reports.
-/

namespace ScriptHost

namespace Program

/-- Whether a file is checked. -/
def isChecked (p : Program) (file : SourceFile) : Bool :=
  !p.host.isLibrary file.name && (!file.isDeclaration || !p.options.skipLibCheck)

/-- The checked files, or the one of that path if it is checked. -/
def checkedFiles (p : Program) (path : Option String) : List SourceFile :=
  let only := path.map p.host.canonicalName
  p.files.filter fun file => (only.all (· == file.name)) && p.isChecked file

/-- The errors of the grammar. -/
def syntaxErrors (p : Program) (path : Option String) : List Report :=
  (p.checkedFiles path).flatMap (·.syntaxErrors)

/-- Whether a diagnostic does not start behind another. -/
def startsBy (a b : Report) : Bool :=
  match a.start, b.start with
  | none, _ => true
  | some _, none => false
  | some m, some n => m ≤ n

/-- The errors about the imports and names of a file, in the order of their places. -/
def fileErrors (p : Program) (file : SourceFile) : List Report :=
  if file.isJavaScript then []
  else (p.checkImports file ++ p.checkNames file).mergeSort startsBy

/-- The errors about imports and names. -/
def semanticErrors (p : Program) (path : Option String) : List Report :=
  (p.checkedFiles path).flatMap p.fileErrors

/-- The errors of the grammar if there are any, and the others if not. -/
def preEmitErrors (p : Program) : List Report :=
  let errors := p.syntaxErrors none
  if errors.isEmpty then p.semanticErrors none else errors

end Program

end ScriptHost
