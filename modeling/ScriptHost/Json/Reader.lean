import ScriptHost.Source.Location
import ScriptHost.Json.Basic
/-!
# Reading structured data

A reader takes characters from the front of a text and keeps track of the line
and of the column in bytes. What is wrong with a text is a `JsonFault` with
the place where it was noticed; a fault that a member's value causes is placed
where the value's object or array ends.

- `JsonFault`, `JsonError`: what can be wrong, with and without a place.
- `Reader`: reads a value from a text.
- `Reader.number`, `Reader.string`: the parts of the format.
-/

namespace ScriptHost

/-- What can be wrong with structured data. -/
inductive JsonFault where
  | endInList | endInObject | endInString | endInValue
  | expectedColon | expectedListEnd | expectedObjectEnd | expectedIdent | expectedValue
  | invalidEscape | invalidNumber | numberOutOfRange | loneSurrogate | controlCharacter
  | keyNotText | trailingComma | trailingCharacters | endInEscape | tooDeep
  /-- A value is of a type or has a content that its reader does not accept. -/
  | refused (text : String)
deriving BEq, DecidableEq, Repr, Inhabited

/-- The wording of a fault. -/
def JsonFault.message : JsonFault → String
  | endInList => "EOF while parsing a list"
  | endInObject => "EOF while parsing an object"
  | endInString => "EOF while parsing a string"
  | endInValue => "EOF while parsing a value"
  | expectedColon => "expected `:`"
  | expectedListEnd => "expected `,` or `]`"
  | expectedObjectEnd => "expected `,` or `\x7d`"
  | expectedIdent => "expected ident"
  | expectedValue => "expected value"
  | invalidEscape => "invalid escape"
  | invalidNumber => "invalid number"
  | numberOutOfRange => "number out of range"
  | loneSurrogate => "lone leading surrogate in hex escape"
  | controlCharacter => "control character (\\u0000-\\u001F) found while parsing a string"
  | keyNotText => "key must be a string"
  | trailingComma => "trailing comma"
  | trailingCharacters => "trailing characters"
  | endInEscape => "unexpected end of hex escape"
  | tooDeep => "recursion limit exceeded"
  | refused text => text

/-- A fault and the place where it was noticed, with the column counted from zero. -/
structure JsonError where
  fault : JsonFault
  place : Option Location
deriving BEq, Repr, Inhabited

/-- The wording of an error with its place. -/
def JsonError.message (e : JsonError) : String :=
  match e.place with
  | some at_ => e.fault.message ++ " at line " ++ toString at_.line ++ " column "
      ++ toString at_.column
  | none => e.fault.message

/-- Where a reader stands. -/
structure Cursor where
  rest : List Char
  place : Location
  /-- How many more arrays and objects may be entered. -/
  depth : Nat

/-- Computations that read from a text. -/
abbrev Reader := EStateM JsonError Cursor

namespace Reader

/-- The place after a character. -/
def past (c : Char) (at_ : Location) : Location :=
  if c == '\n' then ⟨at_.line + 1, 0⟩ else ⟨at_.line, at_.column + c.utf8Size⟩

/-- The place after so many bytes of a text, which may end inside of a character. -/
def pastBytes : Nat → List Char → Location → Location
  | 0, _, at_ => at_
  | _, [], at_ => at_
  | n + 1, c :: cs, at_ =>
    if n + 1 < c.utf8Size then ⟨at_.line, at_.column + n + 1⟩
    else pastBytes (n + 1 - c.utf8Size) cs (past c at_)

/-- The place after the next byte. -/
def peekPlace (c : Cursor) : Location :=
  match c.rest with
  | [] => c.place
  | '\n' :: _ => ⟨c.place.line + 1, 0⟩
  | _ => ⟨c.place.line, c.place.column + 1⟩

/-! ## Faults -/

/-- Fails where the reader stands. -/
def failHere {α : Type} (fault : JsonFault) : Reader α := do
  throw ⟨fault, some (← get).place⟩

/-- Fails after the byte that follows. -/
def failNext {α : Type} (fault : JsonFault) : Reader α := do
  throw ⟨fault, some (peekPlace (← get))⟩

/-- Refuses what was read; the place is the end of the object or array around it. -/
def refuse {α : Type} (text : String) : Reader α := throw ⟨.refused text, none⟩

/-- Places the faults of a reader that have no place where the reader stands then. -/
def placed {α : Type} (r : Reader α) : Reader α := fun c =>
  match r c with
  | .error e c => .error { e with place := e.place.or (some c.place) } c
  | ok => ok

/-- Runs a reader, then what ends it, and answers the first fault of the two. -/
def ended {α : Type} (r : Reader α) (finish : Reader Unit) : Reader α := fun c =>
  match r c with
  | .ok a c =>
    match finish c with
    | .ok _ c => .ok a c
    | .error e c => .error e c
  | .error e c =>
    match finish c with
    | .ok _ c => .error e c
    | .error _ c => .error e c

/-! ## Characters -/

/-- The next character. -/
def peek : Reader (Option Char) := return (← get).rest.head?

/-- Takes a character. -/
def take : Reader Unit :=
  modify fun c =>
    match c.rest with
    | [] => c
    | x :: rest => { c with rest, place := past x c.place }

/-- Takes characters. -/
def takeAll (count : Nat) : Reader Unit := for _ in List.range count do take

/-- Whether a character may stand between the parts of a text. -/
def isBlank (c : Char) : Bool := c == ' ' || c == '\n' || c == '\t' || c == '\r'

/-- Skips blanks and answers the next character. -/
def skipBlanks : Reader (Option Char) := do
  takeAll ((← get).rest.takeWhile isBlank).length
  peek

/-- Takes the rest of a word. -/
def word : List Char → Reader Unit
  | [] => pure ()
  | expected :: rest => do
    match ← peek with
    | none => failHere .endInValue
    | some c =>
      if c == expected then
        take
        word rest
      else failNext .expectedIdent

/-- Takes the digits that follow. -/
def digits : Reader (List Char) := do
  let ds := (← get).rest.takeWhile Char.isDigit
  takeAll ds.length
  return ds

/-! ## Numbers -/

/-- The value of a digit. -/
def digitValue (c : Char) : Nat := c.toNat - '0'.toNat

/-- The greatest whole number that is kept exactly. -/
def exactLimit : Nat := 0xffffffffffffffff

/-- The greatest power of ten that a number may have in front of its digits. -/
def powerLimit : Nat := 0x7fffffff

/-- As many digits as fit behind a number, and how many are left. -/
def absorb (number : Nat) : List Char → Nat × List Char
  | [] => (number, [])
  | d :: ds =>
    let next := number * 10 + digitValue d
    if next > exactLimit then (number, d :: ds) else absorb next ds

/-- `number · 10 ^ power`, by steps of at most `10 ^ 308`. -/
def scale : Nat → Float → Int → Option Float
  | 0, x, _ => some x
  | fuel + 1, x, power =>
    if power.natAbs ≤ 308 then
      let ten := Float.ofScientific 1 false power.natAbs
      if power ≥ 0 then
        let y := x * ten
        if y.isInf then none else some y
      else some (x / ten)
    else if x == 0 then some x
    else if power ≥ 0 then none
    else scale fuel (x / Float.ofScientific 1 false 308) (power + 308)

/-- A number of a text as the nearest floating-point number. -/
def toFloat (positive : Bool) (number : Nat) (power : Int) : Reader Float :=
  match scale 10 number.toUInt64.toFloat power with
  | some x => pure (if positive then x else -x)
  | none => failHere .numberOutOfRange

/-- The digits of a power up to the first that makes it too great. -/
def upToLimit (power : Nat) : List Char → Nat
  | [] => 0
  | d :: ds =>
    let next := power * 10 + digitValue d
    if next > powerLimit then 1 else 1 + upToLimit next ds

/-- Reads the power of ten that stands behind a number. -/
def exponent (positive : Bool) (number : Nat) (power : Int) : Reader Float := do
  take
  let sign ← peek
  if sign == some '+' || sign == some '-' then take
  let up := sign != some '-'
  match ← peek with
  | none => failHere .endInValue
  | some c =>
    unless c.isDigit do failNext .invalidNumber
    let ds := (← get).rest.takeWhile Char.isDigit
    takeAll (upToLimit 0 ds)
    let value := ds.foldl (fun n d => n * 10 + digitValue d) 0
    if value > powerLimit then
      if number != 0 && up then failHere .numberOutOfRange
      let _ ← digits
      return if positive then 0.0 else -0.0
    toFloat positive number (if up then power + value else power - value)

/-- Reads what follows the digits of a number that is not whole. -/
def fraction (positive : Bool) (number : Nat) (power : Int) : Reader Float := do
  take
  let ds ← digits
  if ds.isEmpty then
    if (← peek).isNone then failNext .endInValue else failNext .invalidNumber
  let (number, left) := absorb number ds
  let power := power - (ds.length - left.length : Nat)
  match ← peek with
  | some 'e' | some 'E' => exponent positive number power
  | _ => toFloat positive number power

/-- Reads a number after its sign. -/
def unsigned (positive : Bool) : Reader Json := do
  match ← peek with
  | none => failHere .endInValue
  | some c =>
    unless c.isDigit do failNext .invalidNumber
    if c == '0' then
      take
      if ((← peek).map Char.isDigit).getD false then failNext .invalidNumber
    let ds ← digits
    let (number, left) := absorb 0 ds
    match ← peek with
    | some '.' => return .float (← fraction positive number left.length)
    | some 'e' | some 'E' => return .float (← exponent positive number left.length)
    | _ =>
      if !left.isEmpty then return .float (← toFloat positive number left.length)
      else if positive then return .int number
      else if 0 < number && number ≤ 0x8000000000000000 then return .int (-number)
      else return .float (-number.toUInt64.toFloat)

/-- Reads a number. -/
def number : Reader Json := do
  if (← peek) == some '-' then
    take
    unsigned false
  else unsigned true

/-! ## Texts -/

/-- The value of a digit in base sixteen. -/
def hexValue? (c : Char) : Option Nat :=
  if c.isDigit then some (c.toNat - '0'.toNat)
  else if 'a' ≤ c && c ≤ 'f' then some (c.toNat - 'a'.toNat + 10)
  else if 'A' ≤ c && c ≤ 'F' then some (c.toNat - 'A'.toNat + 10)
  else none

/-- The value of four digits. -/
def hexValueOf : List Char → Option Nat
  | [] => some 0
  | d :: ds => do return (← hexValue? d) * Nat.pow 16 ds.length + (← hexValueOf ds)

/-- Reads the four digits of a character's number. -/
def fourDigits : Reader Nat := do
  let c ← get
  let ds := c.rest.take 4
  if (String.ofList ds).utf8ByteSize < 4 then
    takeAll ds.length
    failHere .endInString
  match hexValueOf ds with
  | some n =>
    takeAll 4
    return n
  | none =>
    throw ⟨.invalidEscape, some (pastBytes 4 c.rest c.place)⟩

/-- Reads a character that is written by its number. -/
def numbered : Reader Char := do
  let n ← fourDigits
  if 0xd800 ≤ n && n ≤ 0xdbff then
    for expected in ['\\', 'u'] do
      match ← peek with
      | none => failHere .endInString
      | some c => if c == expected then take else failNext .endInEscape
    let low ← fourDigits
    unless 0xdc00 ≤ low && low ≤ 0xdfff do failHere .loneSurrogate
    return Char.ofNat ((n - 0xd800) * 0x400 + (low - 0xdc00) + 0x10000)
  else if 0xdc00 ≤ n && n ≤ 0xdfff then failHere .loneSurrogate
  else return Char.ofNat n

/-- Reads what follows a backslash. -/
def escape : Reader Char := do
  match ← peek with
  | none => failHere .endInString
  | some c =>
    let simple : Option Char := match c with
      | '"' => some '"'
      | '\\' => some '\\'
      | '/' => some '/'
      | 'b' => some '\x08'
      | 'f' => some '\x0c'
      | 'n' => some '\n'
      | 'r' => some '\r'
      | 't' => some '\t'
      | _ => none
    match simple with
    | some x =>
      take
      return x
    | none =>
      if c == 'u' then
        take
        numbered
      else failNext .invalidEscape

/-- Whether a character of a text stands for itself. -/
def isPlain (c : Char) : Bool := c != '"' && c != '\\' && c.toNat ≥ 0x20

/-- Reads a text up to its closing quotation mark, in at most `fuel` pieces. -/
def textPieces (readEscape : Reader Char) : Nat → List (List Char) → Reader (List (List Char))
  | 0, pieces => pure pieces
  | fuel + 1, pieces => do
    let plain := (← get).rest.takeWhile isPlain
    takeAll plain.length
    match ← peek with
    | none => failHere .endInString
    | some '"' =>
      take
      return plain :: pieces
    | some '\\' =>
      take
      let c ← readEscape
      textPieces readEscape fuel ([c] :: plain :: pieces)
    | some _ =>
      take
      failHere .controlCharacter

/-- Reads a text after its opening quotation mark. -/
def textTail : Reader String := do
  let pieces ← textPieces escape ((← get).rest.length + 1) []
  return String.ofList pieces.reverse.flatten

/-- Skips what follows a backslash in a text of no interest. -/
def skipEscape : Reader Char := do
  match ← peek with
  | some 'u' =>
    take
    let _ ← fourDigits
    return 'u'
  | _ => escape

/-- Skips a text after its opening quotation mark. -/
def skipText : Reader Unit := do
  let _ ← textPieces skipEscape ((← get).rest.length + 1) []

/-! ## Arrays and objects -/

/-- Enters an array or an object after checking that it is not too deep. -/
def enter {α : Type} (r : Reader α) : Reader α := fun c =>
  if c.depth ≤ 1 then (failNext .tooDeep : Reader α) { c with depth := 0 }
  else
    match (do take; r : Reader α) { c with depth := c.depth - 1 } with
    | .ok a d => .ok a { d with depth := c.depth }
    | .error e d => .error e { d with depth := c.depth }

/-- Whether an array goes on. -/
def hasItem (first : Bool) : Reader Bool := do
  match ← skipBlanks with
  | none => failNext .endInList
  | some ']' => return false
  | some c =>
    if first then return true
    unless c == ',' do failNext .expectedListEnd
    take
    match ← skipBlanks with
    | none => failNext .endInValue
    | some ']' => failNext .trailingComma
    | some _ => return true

/-- Takes the end of an array. -/
def endArray : Reader Unit := do
  match ← skipBlanks with
  | none => failNext .endInList
  | some ']' => take
  | some ',' =>
    take
    if (← skipBlanks) == some ']' then failNext .trailingComma else failNext .trailingCharacters
  | some _ => failNext .trailingCharacters

/-- Whether an object goes on with the name of a member. -/
def hasMember (first : Bool) : Reader Bool := do
  match ← skipBlanks with
  | none => failNext .endInObject
  | some '\x7d' => return false
  | some c =>
    if first then
      unless c == '"' do failNext .keyNotText
      return true
    unless c == ',' do failNext .expectedObjectEnd
    take
    match ← skipBlanks with
    | none => failNext .endInValue
    | some '"' => return true
    | some '\x7d' => failNext .trailingComma
    | some _ => failNext .keyNotText

/-- Takes the end of an object. -/
def endObject : Reader Unit := do
  match ← skipBlanks with
  | none => failNext .endInObject
  | some '\x7d' => take
  | some ',' => failNext .trailingComma
  | some _ => failNext .trailingCharacters

/-- Takes the colon before the value of a member. -/
def colon : Reader Unit := do
  match ← skipBlanks with
  | none => failNext .endInObject
  | some ':' => take
  | some _ => failNext .expectedColon

/-- Reads the items of an array, at most `fuel` of them. -/
def itemsFrom {σ : Type} (item : σ → Reader σ) : Nat → Bool → σ → Reader σ
  | 0, _, s => pure s
  | fuel + 1, first, s => do
    if ← hasItem first then itemsFrom item fuel false (← item s) else return s

/-- Reads the members of an object, at most `fuel` of them; `member` reads from the colon on. -/
def membersFrom {σ : Type} (member : σ → String → Reader σ) : Nat → Bool → σ → Reader σ
  | 0, _, s => pure s
  | fuel + 1, first, s => do
    if ← hasMember first then
      take
      let name ← textTail
      membersFrom member fuel false (← member s name)
    else return s

/-- Reads an array at its bracket. -/
def items {σ : Type} (start : σ) (item : σ → Reader σ) : Reader σ := do
  let fuel := (← get).rest.length
  placed (ended (enter (itemsFrom item fuel true start)) endArray)

/-- Reads an object at its brace and answers what its members add up to. -/
def members {σ α : Type} (start : σ) (member : σ → String → Reader σ) (finish : σ → Reader α) :
    Reader α := do
  let fuel := (← get).rest.length
  placed (ended (enter (membersFrom member fuel true start >>= finish)) endObject)

end Reader

end ScriptHost
