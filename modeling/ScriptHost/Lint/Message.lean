import ScriptHost.Diagnostic.Reading
import ScriptHost.Source.Location
/-!
# Messages of a linter

- `LintMessage`: what a linter reports, by line and column.
- `LintMessage.diagnostic?`: the diagnostic of a message.
- `LintMessage.reader`, `LintMessage.toJson`: messages as data.
-/

namespace ScriptHost

/-- A problem that a linter reports. -/
structure LintMessage where
  ruleId : Option String := none
  messageId : Option String := none
  severity : Nat
  message : String
  start : Location
  endLine : Option Nat := none
  endColumn : Option Nat := none
deriving BEq, Repr, Inhabited

namespace LintMessage

/-- The code of messages of no rule. -/
def fallbackCode : String := "eslint"

/-- The place at which the problem ends, if it is known. -/
def stop? (m : LintMessage) : Option Location :=
  match m.endLine, m.endColumn with
  | some line, some column => some ⟨line, column⟩
  | _, _ => none

/-- The offset at which the problem ends, unless the sum for it stops the call. A problem of unknown
end is one byte long. -/
def stopOffset? (o : Overflow) (m : LintMessage) (source : String) (start : Nat) : Option Nat :=
  match m.stop? with
  | some place => place.offset? o source
  | none => o.add start 1

/-- The diagnostic of a message about a file, from one offset to another. -/
def diagnosticAt (m : LintMessage) (file : String) (start stop : Nat) : Diagnostic :=
  { file := some file
    category := if m.severity == 2 then .error else .warning
    code := .text ((m.ruleId.or m.messageId).getD fallbackCode)
    start := some start
    length := some (stop - start)
    messageText := m.message }

/-- The diagnostic of a message about a file, unless the sum for one of its offsets stops the
call. -/
def diagnostic? (o : Overflow) (m : LintMessage) (file source : String) : Option Diagnostic := do
  let start ← m.start.offset? o source
  let stop ← m.stopOffset? o source start
  return m.diagnosticAt file start stop

/-! ## Messages as data -/

/-- The members of a message that were read. -/
structure Parts where
  ruleId : Option String := none
  messageId : Option String := none
  severity : Option Nat := none
  message : Option String := none
  line : Option Nat := none
  column : Option Nat := none
  endLine : Option Nat := none
  endColumn : Option Nat := none

/-- Reads a severity. -/
def severityReader : Reader Nat := Reader.nat "u8" 256

/-- Reads a member. -/
def readMember (d : Reader.Draft Parts) (name : String) : Reader (Reader.Draft Parts) :=
  match name with
  | "ruleId" => d.read name (Reader.optional Reader.text) fun v p => { p with ruleId := v }
  | "messageId" =>
    d.read name (Reader.optional Reader.text) fun v p => { p with messageId := v }
  | "severity" => d.read name severityReader fun v p => { p with severity := some v }
  | "message" => d.read name Reader.text fun v p => { p with message := some v }
  | "line" => d.read name Reader.size fun v p => { p with line := some v }
  | "column" => d.read name Reader.size fun v p => { p with column := some v }
  | "endLine" => d.read name (Reader.optional Reader.size) fun v p => { p with endLine := v }
  | "endColumn" =>
    d.read name (Reader.optional Reader.size) fun v p => { p with endColumn := v }
  | _ => d.skip

/-- Reads the items of an array that stand for the members in order. -/
def readItems : Reader Parts := do
  let item {α : Type} (index : Nat) (r : Reader α) : Reader α :=
    Reader.itemOf "LintMessage" 8 index r
  let ruleId ← item 0 (Reader.optional Reader.text)
  let messageId ← item 1 (Reader.optional Reader.text)
  let severity ← item 2 severityReader
  let message ← item 3 Reader.text
  let line ← item 4 Reader.size
  let column ← item 5 Reader.size
  let endLine ← item 6 (Reader.optional Reader.size)
  let endColumn ← item 7 (Reader.optional Reader.size)
  return ⟨ruleId, messageId, some severity, some message, some line, some column, endLine,
    endColumn⟩

/-- The message of the members that were read. -/
def ofParts (p : Parts) : Reader LintMessage := do
  let severity ← Reader.required "severity" p.severity
  let message ← Reader.required "message" p.message
  let line ← Reader.required "line" p.line
  let column ← Reader.required "column" p.column
  return ⟨p.ruleId, p.messageId, severity, message, ⟨line, column⟩, p.endLine, p.endColumn⟩

/-- Reads a message. -/
def reader : Reader LintMessage := Reader.record "LintMessage" {} readMember readItems ofParts

/-- The message of a value. -/
def ofJson (value : Json) : Except JsonFault LintMessage := Reader.ofValue reader value

/-- A message as it is written. -/
def toJson (m : LintMessage) : Json :=
  .ofMembers
    [("ruleId", .ofText? m.ruleId), ("messageId", .ofText? m.messageId),
      ("severity", .nat m.severity), ("message", .str m.message), ("line", .nat m.start.line),
      ("column", .nat m.start.column), ("endLine", .ofNat? m.endLine),
      ("endColumn", .ofNat? m.endColumn)]

end LintMessage

end ScriptHost
