import ScriptHost.Json.Basic
/-!
# Failures of whole calls

A call that cannot be answered fails for a cause, around which what was being
done may be told. A piece of code that is run on behalf of a caller may also
stop with a text of its own.

- `Defect`: the causes that have names.
- `Failure`: a cause with what was being done.
- `Exception`: how a call ended that was not answered.
-/

namespace ScriptHost

/-- A cause of failure that has a name. -/
inductive Defect where
  | noTransformers
  | noFactory
  | print (file cause : String)
  | badOptions (cause : String)
  | snapshot (cause : String)
deriving BEq, DecidableEq, Repr, Inhabited

namespace Defect

/-- The name of a cause. -/
def name : Defect → String
  | noTransformers => "MissingTransformers"
  | noFactory => "MissingTransformerFactory"
  | print .. => "PrintError"
  | badOptions _ => "InvalidCompilerOptions"
  | snapshot _ => "ExternalSnapshotError"

/-- The wording of a cause. -/
def message : Defect → String
  | noTransformers => "Transformers are not defined in props."
  | noFactory => "No transformer factory provided in transformers."
  | print file cause => "Could not print " ++ file ++ ": " ++ cause
  | badOptions cause => "Invalid compiler options: " ++ cause
  | snapshot cause => "Could not build the external snapshot: " ++ cause

/-- What caused the cause. -/
def cause? : Defect → Option String
  | print _ cause => some cause
  | _ => none

end Defect

/-- A cause of failure, of a name or not, with what was being done, outermost first. -/
structure Failure where
  context : List String := []
  cause : Defect ⊕ String
deriving BEq, Repr

instance : Inhabited Failure := ⟨{ cause := .inr "" }⟩

namespace Failure

/-- The failure of a named cause. -/
def ofDefect (d : Defect) : Failure := { cause := .inl d }

/-- The failure of a cause without a name. -/
def ofText (text : String) : Failure := { cause := .inr text }

/-- The failure with one more thing that was being done. -/
def within (f : Failure) (doing : String) : Failure := { f with context := doing :: f.context }

/-- The name of the cause. -/
def name (f : Failure) : String :=
  match f.cause with
  | .inl d => d.name
  | .inr _ => "Error"

/-- The wordings from the outermost to the last cause. -/
def chain (f : Failure) : List String :=
  f.context ++
    match f.cause with
    | .inl d => d.message :: d.cause?.toList
    | .inr text => [text]

/-- The outermost wording. -/
def message (f : Failure) : String := f.chain.headD ""

/-- A text with a mark in front of its first line and blanks in front of the others. -/
def indent (mark blanks text : String) : String :=
  mark ++ String.join (text.toList.map fun c => if c == '\n' then "\n" ++ blanks else c.toString)

/-- The causes below the outermost wording, numbered if there are several. -/
def causes : List String → List String
  | [only] => [indent "    " "    " only]
  | all => all.zipIdx.map fun (text, i) =>
      let number := toString i
      let mark := String.ofList (List.replicate (5 - number.length) ' ') ++ number ++ ": "
      indent mark "       " text

/-- The whole failure as text. -/
def report (f : Failure) : String :=
  match f.chain with
  | [] => ""
  | [only] => only
  | first :: rest => first ++ "\n\nCaused by:\n" ++ "\n".intercalate (causes rest)

end Failure

/-- How a call ended that was not answered. -/
inductive Exception where
  | failure (f : Failure)
  /-- Code that was run for the caller stopped with a text. -/
  | stopped (text : String)
deriving BEq, Repr, Inhabited

namespace Exception

/-- The text for code that stopped without one. -/
def unknownStop : String := "unknown panic"

/-- The wording of an exception. -/
def message : Exception → String
  | failure f => f.message
  | stopped text => text

/-- An exception as it is written. -/
def toJson : Exception → Json
  | failure f =>
    .ofMembers [("name", .str f.name), ("message", .str f.message), ("stack", .str f.report)]
  | stopped text => .str text

end Exception

end ScriptHost
