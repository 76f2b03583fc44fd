import ScriptHost.Diagnostic.Reading
import ScriptHost.Result.Failure
/-!
# Answers to calls

- `Answer`: the texts that a call produced, with what is wrong, or an exception.
- `Answer.ofDiagnostics`: an answer is a success exactly if nothing is wrong.
- `Answer.addLint`: an answer with what a linter found.
-/

namespace ScriptHost

/-- The answer to a call that produces texts by path. -/
inductive Answer where
  | success (output : SortedMap String)
  | failure (output : SortedMap String) (diagnostics : List Diagnostic)
  | exception (e : Exception)
deriving Inhabited

namespace Answer

/-- The answer with the given texts and diagnostics. -/
def ofDiagnostics (output : SortedMap String) (diagnostics : List Diagnostic) : Answer :=
  if diagnostics.isEmpty then success output else failure output diagnostics

/-- The answer of what ended well or not. -/
def ofExcept : Except Exception Answer → Answer
  | .ok a => a
  | .error e => exception e

/-- Whether nothing is wrong. -/
def isSuccess : Answer → Bool
  | success _ => true
  | _ => false

/-- The texts, unless the call was not answered. -/
def output? : Answer → Option (SortedMap String)
  | success output => some output
  | failure output _ => some output
  | exception _ => none

/-- What is wrong. -/
def diagnostics : Answer → List Diagnostic
  | failure _ ds => ds
  | _ => []

/-- All that is wrong is in the answer. -/
@[simp] theorem diagnostics_ofDiagnostics (output : SortedMap String)
    (diagnostics : List Diagnostic) :
    (ofDiagnostics output diagnostics).diagnostics = diagnostics := by
  cases diagnostics <;> rfl

/-- The answer with what a linter found. -/
def addLint (a : Answer) (found : List Diagnostic) : Answer :=
  match a with
  | success output => ofDiagnostics output found
  | failure output ds => failure output (ds ++ found)
  | exception e => exception e

/-- With what a linter found, an answer has its texts and all that is wrong. -/
@[simp] theorem addLint_ofDiagnostics (output : SortedMap String)
    (diagnostics found : List Diagnostic) :
    (ofDiagnostics output diagnostics).addLint found =
      ofDiagnostics output (diagnostics ++ found) := by
  cases diagnostics <;> rfl

/-- The answer as it is written, with its texts under a name and in a form. -/
def toJson (name : String) (show_ : SortedMap String → Json) : Answer → Json
  | success output => .ofMembers [("type", .str "success"), (name, show_ output)]
  | failure output ds =>
    .ofMembers [("type", .str "failure"), (name, show_ output),
      ("diagnostics", .ofList Diagnostic.toJson ds)]
  | exception e => .ofMembers [("type", .str "exception"), ("error", e.toJson)]

end Answer

end ScriptHost
