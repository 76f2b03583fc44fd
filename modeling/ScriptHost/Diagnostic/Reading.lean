import ScriptHost.Json.Read
import ScriptHost.Diagnostic.Basic
/-!
# Diagnostics as data

- `Diagnostic.toJson`: a diagnostic as it is written.
- `Diagnostic.reader`: reads what was written.
-/

namespace ScriptHost

/-- A code as it is written: a number as a number. -/
def DiagnosticCode.toJson : DiagnosticCode → Json
  | number code => .nat code
  | text code => .str code

namespace Category

/-- All categories. -/
def all : List Category := [error, warning, suggestion, message]

/-- The category of a name, or the complaint that it is none. -/
def named (text : String) : Reader Category :=
  match ofName? text with
  | some c => pure c
  | none =>
    Reader.refuse ("unknown variant `" ++ text ++ "`, expected one of "
      ++ ", ".intercalate (all.map fun c => "`" ++ c.name ++ "`"))

/-- Reads a category: its name, or an object whose one member has the name and is null. -/
def reader : Reader Category := do
  match ← Reader.start with
  | '"' =>
    Reader.take
    let text ← Reader.textTail
    Reader.placed (named text)
  | '\x7b' =>
    Reader.enter do
      let text ← Reader.text
      let c ← Reader.placed (named text)
      Reader.colon
      if (← Reader.start) == 'n' then
        let _ ← Reader.scalar 'n'
      else Reader.refuseType "unit"
      match ← Reader.skipBlanks with
      | some '\x7d' =>
        Reader.take
        return c
      | some _ => Reader.failHere .expectedValue
      | none => Reader.failHere .endInObject
  | _ => Reader.failNext .expectedValue

end Category

/-- The complaint about what is no code. -/
def DiagnosticCode.refused : Reader DiagnosticCode :=
  Reader.refuse "data did not match any variant of untagged enum DiagnosticCode"

/-- Reads a code. -/
def DiagnosticCode.reader : Reader DiagnosticCode := do
  match ← Reader.value with
  | .int n =>
    if 0 ≤ n && n < 0x100000000 then return .number n.toNat else refused
  | .str name => return .text name
  | _ => refused

namespace Diagnostic

/-- A diagnostic as it is written: a place that is not known is left out. -/
def toJson (d : Diagnostic) : Json :=
  .ofMembers <|
    [("file", .ofText? d.file), ("category", .str d.category.name), ("code", d.code.toJson),
      ("messageText", .str d.messageText)]
    ++ (d.start.map fun n => ("start", Json.nat n)).toList
    ++ (d.length.map fun n => ("length", Json.nat n)).toList

/-- The members of a diagnostic that were read. -/
structure Parts where
  file : Option String := none
  category : Option Category := none
  code : Option DiagnosticCode := none
  start : Option Nat := none
  length : Option Nat := none
  messageText : Option String := none

/-- Reads a member. -/
def readMember (d : Reader.Draft Parts) (name : String) : Reader (Reader.Draft Parts) :=
  match name with
  | "file" => d.read name (Reader.optional Reader.text) fun v p => { p with file := v }
  | "category" => d.read name Category.reader fun v p => { p with category := some v }
  | "code" => d.read name DiagnosticCode.reader fun v p => { p with code := some v }
  | "start" => d.read name (Reader.optional Reader.size) fun v p => { p with start := v }
  | "length" => d.read name (Reader.optional Reader.size) fun v p => { p with length := v }
  | "messageText" => d.read name Reader.text fun v p => { p with messageText := some v }
  | _ => d.skip

/-- Reads the items of an array that stand for the members in order. -/
def readItems : Reader Parts := do
  let item {α : Type} (index : Nat) (r : Reader α) : Reader α :=
    Reader.itemOf "Diagnostic" 6 index r
  let file ← item 0 (Reader.optional Reader.text)
  let category ← item 1 Category.reader
  let code ← item 2 DiagnosticCode.reader
  let start ← item 3 (Reader.optional Reader.size)
  let length ← item 4 (Reader.optional Reader.size)
  let messageText ← item 5 Reader.text
  return ⟨file, some category, some code, start, length, some messageText⟩

/-- The diagnostic of the members that were read. -/
def ofParts (p : Parts) : Reader Diagnostic := do
  let category ← Reader.required "category" p.category
  let code ← Reader.required "code" p.code
  let messageText ← Reader.required "messageText" p.messageText
  return ⟨p.file, category, code, p.start, p.length, messageText⟩

/-- Reads a diagnostic. -/
def reader : Reader Diagnostic := Reader.record "Diagnostic" {} readMember readItems ofParts

/-- The diagnostic of a text. -/
def parse (text : String) : Except JsonError Diagnostic := reader.run text

end Diagnostic

end ScriptHost
