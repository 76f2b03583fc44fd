import ScriptHost.Data.SortedMap
import ScriptHost.Decimal.Shortest
import ScriptHost.Text.Quoted
/-!
# Structured data

The values that data files hold, and their texts without blanks.

- `Json`: a value.
- `Json.render`: the text of a value.
- `Json.ofMembers`: an object of members in any order.
-/

namespace ScriptHost

/-- A value of a data file. The members of an object stand in the order of their names. -/
inductive Json where
  | null
  | bool (value : Bool)
  | int (value : Int)
  | float (value : Float)
  | str (value : String)
  | arr (items : List Json)
  | obj (members : List (String × Json))
deriving Repr, Inhabited

namespace Json

/-! ## Making values -/

/-- A natural number. -/
def nat (n : Nat) : Json := int n

/-- A text, or nothing. -/
def ofText? (text : Option String) : Json := (text.map str).getD null

/-- A number, or nothing. -/
def ofNat? (n : Option Nat) : Json := (n.map nat).getD null

/-- An array of the values for the elements of a list. -/
def ofList {α : Type} (f : α → Json) (l : List α) : Json := arr (l.map f)

/-- An object of members in any order, where a later member wins. -/
def ofMembers (members : List (String × Json)) : Json := obj (SortedMap.ofList members).entries

/-- An object of the entries of a map. -/
def ofMap {α : Type} (f : α → Json) (m : SortedMap α) : Json := obj (m.mapValues f).entries

/-! ## Looking into values -/

/-- A member of an object. -/
def member? (name : String) : Json → Option Json
  | obj members => members.lookup name
  | _ => none

/-- The text of a text value. -/
def text? : Json → Option String
  | str s => some s
  | _ => none

/-- The truth of a truth value. -/
def bool? : Json → Option Bool
  | bool b => some b
  | _ => none

/-! ## Writing -/

/-- The digits of a character's number in a text. -/
def escapeDigits (c : Char) : String :=
  let digits := Nat.toDigits 16 c.toNat
  String.ofList (List.replicate (4 - digits.length) '0' ++ digits)

/-- How a character is written inside of a text. -/
def renderChar (c : Char) : String :=
  match c with
  | '"' => "\\\""
  | '\\' => "\\\\"
  | '\x08' => "\\b"
  | '\t' => "\\t"
  | '\n' => "\\n"
  | '\x0c' => "\\f"
  | '\r' => "\\r"
  | c => if c.toNat < 0x20 then "\\u" ++ escapeDigits c else c.toString

/-- The text of a text value. -/
def renderText (s : String) : String :=
  "\"" ++ String.join (s.toList.map renderChar) ++ "\""

mutual
/-- The text of a value, without blanks. -/
def render : Json → String
  | null => "null"
  | bool b => if b then "true" else "false"
  | int n => toString n
  | float x => dataNumberText x
  | str s => renderText s
  | arr items => "[" ++ ",".intercalate (renderItems items) ++ "]"
  | obj members => "\x7b" ++ ",".intercalate (renderMembers members) ++ "\x7d"
/-- The texts of values. -/
def renderItems : List Json → List String
  | [] => []
  | v :: vs => v.render :: renderItems vs
/-- The texts of members. -/
def renderMembers : List (String × Json) → List String
  | [] => []
  | (name, v) :: ms => (renderText name ++ ":" ++ v.render) :: renderMembers ms
end

end Json

end ScriptHost
