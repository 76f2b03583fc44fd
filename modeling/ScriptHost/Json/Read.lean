import ScriptHost.Json.Reader
/-!
# Readers of values

A reader of one type refuses values of other types and says what it expected
in place of what it found.

- `Reader.value`: reads any value.
- `Reader.text`, `Reader.bool`, `Reader.nat`, `Reader.optional`: values of one type.
- `Reader.array`, `Reader.mapOf`, `Reader.record`: arrays and objects.
- `Reader.run`: reads a whole text.
-/

namespace ScriptHost

namespace Json

/-- How a value that was not expected is named. -/
def kind : Json → String
  | null => "null"
  | bool b => "boolean `" ++ (if b then "true" else "false") ++ "`"
  | int n => "integer `" ++ toString n ++ "`"
  | float x => "floating point `" ++ dataNumberText x ++ "`"
  | str s => "string " ++ Text.quoted s
  | arr _ => "sequence"
  | obj _ => "map"

end Json

namespace Reader

/-! ## Any value -/

/-- Reads a value that is neither an array nor an object. -/
def scalar (c : Char) : Reader Json := do
  match c with
  | 'n' =>
    take
    word ['u', 'l', 'l']
    return .null
  | 't' =>
    take
    word ['r', 'u', 'e']
    return .bool true
  | 'f' =>
    take
    word ['a', 'l', 's', 'e']
    return .bool false
  | '"' =>
    take
    return .str (← textTail)
  | c => if c == '-' || c.isDigit then number else failNext .expectedValue

/-- The next character of a value, after blanks. -/
def start : Reader Char := do
  match ← skipBlanks with
  | none => failNext .endInValue
  | some c => return c

/-- Reads a value that is nested at most `fuel` deep. -/
def valueWithin : Nat → Reader Json
  | 0 => failNext .tooDeep
  | fuel + 1 => do
    match ← start with
    | '[' =>
      let found ← items [] fun (found : List Json) => do return (← valueWithin fuel) :: found
      return .arr found.reverse
    | '\x7b' =>
      members []
        (fun (found : List (String × Json)) name => do
          colon
          return SortedMap.insertEntry name (← valueWithin fuel) found)
        (fun found => return .obj found)
    | c => scalar c

/-- How deep values may be nested. -/
def depthLimit : Nat := 128

/-- Reads any value. -/
def value : Reader Json := valueWithin depthLimit

/-! ## Values of no interest -/

/-- Skips a number after its sign. -/
def skipUnsigned : Reader Unit := do
  match ← peek with
  | none => failHere .invalidNumber
  | some c =>
    unless c.isDigit do failNext .invalidNumber
    if c == '0' then
      take
      if ((← peek).map Char.isDigit).getD false then failNext .invalidNumber
    let _ ← digits
    if (← peek) == some '.' then
      take
      if (← digits).isEmpty then failNext .invalidNumber
    if (← peek) == some 'e' || (← peek) == some 'E' then
      take
      if (← peek) == some '+' || (← peek) == some '-' then take
      match ← peek with
      | none => failHere .invalidNumber
      | some c =>
        unless c.isDigit do failNext .invalidNumber
        let _ ← digits

/-- Skips a member of an object. -/
def skipMember (value : Reader Unit) : Reader Unit := do
  match ← skipBlanks with
  | none => failNext .endInObject
  | some '"' =>
    take
    skipText
    colon
    value
  | some _ => failNext .keyNotText

/-- Skips parts up to a closing character. -/
def skipRest (fuel : Nat) (part : Reader Unit) (close : Char) (expected ended : JsonFault) :
    Reader Unit :=
  match fuel with
  | 0 => failNext .tooDeep
  | fuel + 1 => do
    part
    match ← skipBlanks with
    | none => failNext ended
    | some ',' =>
      take
      skipRest fuel part close expected ended
    | some c => if c == close then take else failNext expected

/-- Skips a value of at most `fuel` nested values. -/
def skipWithin : Nat → Reader Unit
  | 0 => failNext .tooDeep
  | fuel + 1 => do
    match ← start with
    | '[' =>
      take
      if (← skipBlanks) == some ']' then take
      else skipRest fuel (skipWithin fuel) ']' .expectedListEnd .endInList
    | '\x7b' =>
      take
      match ← skipBlanks with
      | some '\x7d' => take
      | none => failNext .endInObject
      | some _ => skipRest fuel (skipMember (skipWithin fuel)) '\x7d' .expectedObjectEnd .endInObject
    | '"' =>
      take
      skipText
    | '-' =>
      take
      skipUnsigned
    | c => if c.isDigit then skipUnsigned else discard (scalar c)

/-- Skips a value. -/
def skip : Reader Unit := do skipWithin ((← get).rest.length + 1)

/-! ## Values of one type -/

/-- Refuses the value that follows, where something else was expected. -/
def refuseType {α : Type} (expected : String) : Reader α :=
  placed do
    let found ← match ← start with
      | '[' => pure (Json.arr [])
      | '\x7b' => pure (Json.obj [])
      | c => scalar c
    refuse ("invalid type: " ++ found.kind ++ ", expected " ++ expected)

/-- Reads a text. -/
def text : Reader String := do
  if (← start) == '"' then
    take
    textTail
  else refuseType "a string"

/-- Reads a truth value. -/
def bool : Reader Bool := do
  let c ← start
  if c == 't' || c == 'f' then return (← scalar c).bool? == some true
  else refuseType "a boolean"

/-- Reads a value or nothing. -/
def optional {α : Type} (r : Reader α) : Reader (Option α) := do
  if (← skipBlanks) == some 'n' then
    let _ ← scalar 'n'
    return none
  else return some (← r)

/-- Reads a natural number below a limit; `name` is what such numbers are called. -/
def nat (name : String) (limit : Nat) : Reader Nat := do
  let c ← start
  if c == '-' || c.isDigit then
    placed do
      match ← number with
      | .int n =>
        if 0 ≤ n && n < limit then return n.toNat
        else refuse ("invalid value: " ++ (Json.int n).kind ++ ", expected " ++ name)
      | found => refuse ("invalid type: " ++ found.kind ++ ", expected " ++ name)
  else refuseType name

/-- Reads a natural number that counts bytes. -/
def size : Reader Nat := nat "usize" 0x10000000000000000

/-- Reads an array of values of one type. -/
def array {α : Type} (item : Reader α) : Reader (List α) := do
  if (← start) == '[' then
    return (← items [] fun (found : List α) => do return (← item) :: found).reverse
  else refuseType "a sequence"

/-- Reads an object whose members have values of one type. -/
def mapOf {α : Type} (r : Reader α) : Reader (SortedMap α) := do
  if (← start) == '\x7b' then
    members SortedMap.empty
      (fun (m : SortedMap α) name => do
        colon
        return m.insert name (← r))
      (fun m => return m)
  else refuseType "a map"

/-! ## Records -/

/-- What is known of a record: the members that were read and what they say. -/
structure Draft (α : Type) where
  value : α
  seen : List String := []

/-- Reads a member that may stand in a record once. -/
def Draft.read {α β : Type} (d : Draft α) (name : String) (r : Reader β) (put : β → α → α) :
    Reader (Draft α) := do
  if d.seen.contains name then refuse ("duplicate field `" ++ name ++ "`")
  colon
  let b ← r
  return ⟨put b d.value, name :: d.seen⟩

/-- Reads a member of no interest. -/
def Draft.skip {α : Type} (d : Draft α) : Reader (Draft α) := do
  colon
  Reader.skip
  return d

/-- A member that a record must have. -/
def required {α : Type} (name : String) (found : Option α) : Reader α :=
  match found with
  | some a => pure a
  | none => refuse ("missing field `" ++ name ++ "`")

/-- Reads a record from an object, or from an array of its members in order. -/
def record {α β : Type} (name : String) (start : α) (member : Draft α → String → Reader (Draft α))
    (fromItems : Reader α) (finish : α → Reader β) : Reader β := do
  match ← Reader.start with
  | '\x7b' => members ⟨start, []⟩ member fun d => finish d.value
  | '[' => placed (ended (enter (fromItems >>= finish)) endArray)
  | _ => refuseType ("struct " ++ name)

/-- Reads the item of an array that stands for a member of a record. -/
def itemOf {α : Type} (name : String) (count index : Nat) (r : Reader α) : Reader α := do
  if ← hasItem (index == 0) then r
  else refuse ("invalid length " ++ toString index ++ ", expected struct " ++ name ++ " with "
    ++ toString count ++ " elements")

/-! ## Whole texts -/

/-- Reads a whole text. -/
def run {α : Type} (r : Reader α) (text : String) : Except JsonError α :=
  let whole : Reader α := do
    let a ← r
    match ← skipBlanks with
    | none => return a
    | some _ => failNext .trailingCharacters
  match whole ⟨text.toList, ⟨1, 0⟩, depthLimit⟩ with
  | .ok a _ => .ok a
  | .error e _ => .error e

/-- Reads a value as if from its text; the faults have no place. -/
def ofValue {α : Type} (r : Reader α) (value : Json) : Except JsonFault α :=
  match r.run value.render with
  | .ok a => .ok a
  | .error e => .error e.fault

end Reader

/-- Reads a value from a text. -/
def Json.parse (text : String) : Except JsonError Json := Reader.value.run text

end ScriptHost
