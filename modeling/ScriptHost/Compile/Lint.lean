import ScriptHost.Compile.Basic
import ScriptHost.Lint.Rules
/-!
# Compilers with a linter

- `Linter`: what looks at the text of a file.
- `LintingCompiler.compile`: the answer to a compilation with what the linter finds.
-/

namespace ScriptHost

/-- What looks at the text of a file of a program and may fail to. -/
abbrev Linter := Program → LintRules → String → String → Option (List LintMessage)

/-- The linter with the rules of this library. -/
def Linter.ofRules : Linter := fun p rules path source => some (p.verify rules path source)

/-- A compiler with a linter. -/
structure LintingCompiler where
  compiler : Compiler
  linter : Linter := Linter.ofRules
  /-- The rules as the caller names them. -/
  rules : LintRules
  /-- What the offsets of a message do that are no machine words. -/
  overflow : Overflow := .stops

namespace LintingCompiler

/-- What the linter finds in a file, unless an offset stops the call. A file that it fails on has
nothing. -/
def lintFile (c : LintingCompiler) (p : Program) (path source : String) :
    Option (List Diagnostic) :=
  match c.linter p c.rules.qualified path source with
  | some messages => messages.mapM fun m => m.diagnostic? c.overflow path source
  | none => some []

/-- What the linter finds in the files of a call, unless an offset stops the call. -/
def lint (c : LintingCompiler) (p : Program) (input : SortedMap String) :
    Option (List Diagnostic) := do
  let found ← input.entries.mapM fun (path, source) => c.lintFile p path source
  return found.flatten

/-- The files of a call with slashes in their paths. -/
def canonicalInput (input : SortedMap String) : SortedMap String :=
  .ofList (input.entries.map fun (path, text) => (Path.canonical path, text))

/-- The answer to a compilation, with what the linter finds. There is none if an offset of what it
finds stops the call. -/
def compile (c : LintingCompiler) (input : SortedMap String) : Option Answer :=
  let input := canonicalInput input
  match c.compiler.compile input with
  | .exception e => some (.exception e)
  | a => (c.lint (c.compiler.program input) input).map a.addLint

end LintingCompiler

end ScriptHost
