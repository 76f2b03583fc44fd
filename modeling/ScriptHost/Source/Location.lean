/-!
# Lines and columns

A place in a text is an offset in bytes, or a line and a column that both
count from one. A newline is the last byte of its line.

- `Location.ofOffset`: the line and column of an offset.
- `Location.toOffset`: the offset of a line and column.
- `Overflow`: what becomes of a sum that is no machine word.
- `Location.offset?`: the offset of a line and column as a machine word.
-/

namespace ScriptHost

/-- A place in a text, with line and column counted from one. -/
structure Location where
  line : Nat
  column : Nat
deriving BEq, DecidableEq, Repr, Inhabited

namespace Location

/-- The byte that ends a line. -/
def newline : UInt8 := 10

/-- The bytes of a text. -/
def bytes (text : String) : List UInt8 := text.toUTF8.toList

/-- The place at the end of the bytes before it. -/
def after (before : List UInt8) : Location :=
  ⟨before.count newline + 1, (before.reverse.takeWhile (· != newline)).length + 1⟩

/-- The place of an offset, or the end of the text if the offset is beyond it. -/
def ofOffset (text : String) (offset : Nat) : Location := after ((bytes text).take offset)

/-- The lines of a text without their newlines. -/
def lines : List UInt8 → List (List UInt8)
  | [] => [[]]
  | b :: bs =>
    if b == newline then [] :: lines bs
    else
      match lines bs with
      | [] => [[b]]
      | l :: ls => (b :: l) :: ls

/-- The offset at which a line starts. -/
def lineStart (text : String) (line : Nat) : Nat :=
  let before := (lines (bytes text)).take (line - 1)
  before.foldl (fun n l => n + l.length + 1) 0

/-- The offset of a place. -/
def toOffset (text : String) (place : Location) : Nat :=
  lineStart text place.line + place.column - 1

end Location

/-! ## Machine words -/

/-- What becomes of a sum that is no machine word, which is settled when a program is built. -/
inductive Overflow where
  /-- It stops the call. -/
  | stops
  /-- What is beyond a word is lost. -/
  | wraps
deriving DecidableEq, Repr, Inhabited

namespace Overflow

/-- How many numbers are machine words. -/
def words : Nat := 0x10000000000000000

/-- The sum of two machine words, unless it stops the call. -/
def add (o : Overflow) (a b : Nat) : Option Nat :=
  if a + b < words then some (a + b)
  else
    match o with
    | stops => none
    | wraps => some ((a + b) % words)

end Overflow

/-- The offset of a place as a machine word, unless the sum for it stops the call. -/
def Location.offset? (o : Overflow) (text : String) (place : Location) : Option Nat :=
  (o.add (lineStart text place.line) place.column).map (· - 1)

end ScriptHost
