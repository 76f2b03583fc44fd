import ScriptHost.Diagnostic.Message
/-!
# Diagnostics

What a compiler reports about the texts it is given: where, how severe, under
which code and with what message.

- `Report`: a diagnostic as it arises, with a message that may be a chain.
- `Diagnostic`: a diagnostic as it is answered, with its message as text.
- `Report.normalize`: the one from the other.
-/

namespace ScriptHost

/-- How severe a diagnostic is. -/
inductive Category where
  | error | warning | suggestion | message
deriving BEq, DecidableEq, Repr, Inhabited

namespace Category

/-- The name of a category. -/
def name : Category → String
  | error => "error"
  | warning => "warning"
  | suggestion => "suggestion"
  | message => "message"

/-- The category of a name. -/
def ofName? : String → Option Category
  | "error" => some error
  | "warning" => some warning
  | "suggestion" => some suggestion
  | "message" => some message
  | _ => none

/-- The category of a number. -/
def ofNumber? : Int → Option Category
  | 0 => some warning
  | 1 => some error
  | 2 => some suggestion
  | 3 => some message
  | _ => none

end Category

/-- What a diagnostic is known by: a number of the compiler or the name of a rule. -/
inductive DiagnosticCode where
  | number (code : Nat)
  | text (code : String)
deriving BEq, DecidableEq, Repr, Inhabited

/-- How a code is shown. -/
def DiagnosticCode.display : DiagnosticCode → String
  | number code => "TS" ++ toString code
  | text code => code

/-- A diagnostic as it arises. -/
structure Report where
  file : Option String := none
  category : Category := .error
  code : DiagnosticCode
  start : Option Nat := none
  length : Option Nat := none
  message : Message
deriving BEq, Repr, Inhabited

/-- A diagnostic as it is answered. -/
structure Diagnostic where
  file : Option String
  category : Category
  code : DiagnosticCode
  start : Option Nat
  length : Option Nat
  messageText : String
deriving BEq, DecidableEq, Repr, Inhabited

namespace Report

/-- An error about a place in a file. -/
def errorAt (file : Option String) (code : Nat) (range : Option (Nat × Nat)) (message : Message) :
    Report :=
  { file, code := .number code, start := range.map (·.1), length := range.map (·.2), message }

/-- The diagnostic with its message as text. -/
def normalize (r : Report) : Diagnostic :=
  ⟨r.file, r.category, r.code, r.start, r.length, r.message.text⟩

end Report

/-- A diagnostic as one line of text. -/
def Diagnostic.display (d : Diagnostic) : String :=
  let place := match d.file, d.start with
    | some file, some start => file ++ ":" ++ toString start ++ " "
    | some file, none => file ++ " "
    | none, _ => ""
  place ++ d.category.name ++ " " ++ d.code.display ++ ": " ++ d.messageText

end ScriptHost
