/-!
# Shortest decimals

The fewest decimal digits that read back as a given binary floating-point
number, and the layouts in which this library writes them.

- `Magnitude`: a positive number `mantissa · 2 ^ exponent`.
- `Magnitude.shortest`: the digits and the power of ten of the shortest decimal.
- `Decimal.positional`, `Decimal.compact`, `Decimal.converted`: the layouts.
-/

namespace ScriptHost

/-- The positive number `mantissa · 2 ^ exponent` of a binary format. -/
structure Magnitude where
  mantissa : Nat
  exponent : Int
  /-- The next number below is half as far away as the next number above. -/
  nearBelow : Bool
deriving BEq, DecidableEq, Repr, Inhabited

/-- The number `digits · 10 ^ power`. -/
structure Decimal where
  digits : Nat
  power : Int
deriving BEq, DecidableEq, Repr, Inhabited

/-- How many decimal digits a number has; zero has one. -/
def digitCount (n : Nat) : Nat := (Nat.toDigits 10 n).length

namespace Magnitude

/-- The magnitude of a finite number other than zero. -/
def ofFloat (x : Float) : Magnitude :=
  let bits := x.toBits.toNat
  let fraction : Nat := bits % Nat.pow 2 52
  let biased : Nat := bits / Nat.pow 2 52 % Nat.pow 2 11
  if biased == 0 then ⟨fraction, -1074, false⟩
  else ⟨fraction + Nat.pow 2 52, Int.ofNat biased - 1075, fraction == 0 && biased > 1⟩

/-- The numerators of the lower end, the number and the upper end of the reals that round to
it, over one denominator. -/
def bounds (x : Magnitude) : Nat × Nat × Nat × Nat :=
  let lo := if x.nearBelow then 4 * x.mantissa - 1 else 4 * x.mantissa - 2
  let v := 4 * x.mantissa
  let hi := 4 * x.mantissa + 2
  let e := x.exponent - 2
  if e ≥ 0 then
    let s := Nat.pow 2 e.toNat
    (lo * s, v * s, hi * s, 1)
  else (lo, v, hi, Nat.pow 2 (-e).toNat)

/-- The greatest power of ten that is not above a positive fraction. -/
def tenPower (num den : Nat) : Int :=
  if num ≥ den then (digitCount (num / den) : Int) - 1
  else -(digitCount ((den + num - 1) / num - 1) : Int)

/-- The better of the two neighbours on the grid of `10 ^ k` that rounds back, if any. -/
def onGrid (x : Magnitude) (k : Int) : Option Decimal :=
  let (lo, v, hi, den) := x.bounds
  let up := if k < 0 then Nat.pow 10 (-k).toNat else 1
  let unit := if k < 0 then den else den * Nat.pow 10 k.toNat
  let (lo, v, hi) := (lo * up, v * up, hi * up)
  let closed := x.mantissa % 2 == 0
  let inside (n : Nat) : Bool := if closed then lo ≤ n && n ≤ hi else lo < n && n < hi
  let d := v / unit
  let below := inside (d * unit)
  let above := inside ((d + 1) * unit)
  let nearerBelow :=
    let down := v - d * unit
    let rise := (d + 1) * unit - v
    down < rise || (down == rise && d % 2 == 0)
  if below && (nearerBelow || !above) then some ⟨d, k⟩
  else if above then some ⟨d + 1, k⟩
  else none

/-- The first hit among the grids of `n`, `n + 1`, … digits. -/
def search (x : Magnitude) (top : Int) (n : Nat) : Nat → Decimal
  | 0 => ⟨0, 0⟩
  | fuel + 1 =>
    match x.onGrid (top - n + 1) with
    | some d => d
    | none => x.search top (n + 1) fuel

/-- The shortest decimal that reads back as the number, without trailing zeros. -/
def shortest (x : Magnitude) : Decimal :=
  let (_, v, _, den) := x.bounds
  let d := x.search (tenPower v den) 1 17
  if d.digits % 10 == 0 && d.digits != 0 then
    ⟨d.digits / 10, d.power + 1⟩
  else d

end Magnitude

namespace Decimal

/-- Digits with a point and no exponent: `0.0000001`, `12.5`, `1000`. -/
def positional (d : Decimal) : String :=
  let s := toString d.digits
  if d.power ≥ 0 then s ++ String.ofList (List.replicate d.power.toNat '0')
  else
    let places := (-d.power).toNat
    let padded := List.replicate (places + 1 - s.length) '0' ++ s.toList
    let whole := padded.take (padded.length - places)
    let part := padded.drop (padded.length - places)
    String.ofList whole ++ "." ++ String.ofList part

/-- Positional from `10^-5` up to `10^16`, with `.0` when whole, and with an exponent beyond. -/
def compact (d : Decimal) : String :=
  let s := toString d.digits
  let point := (s.length : Int) + d.power
  if d.power ≥ 0 && point ≤ 16 then d.positional ++ ".0"
  else if -5 < point && point ≤ 16 then d.positional
  else
    let exponent := toString (point - 1)
    match s.toList with
    | [c] => c.toString ++ "e" ++ exponent
    | c :: cs => c.toString ++ "." ++ String.ofList cs ++ "e" ++ exponent
    | [] => "0"

/-- Positional from `10^-6` up to `10^21`, and with an exponent that has a sign beyond. -/
def converted (d : Decimal) : String :=
  let s := toString d.digits
  let point := (s.length : Int) + d.power
  if -6 < point && point ≤ 21 then d.positional
  else
    let exponent := (if point > 0 then "e+" else "e-") ++ toString (point - 1).natAbs
    match s.toList with
    | [c] => c.toString ++ exponent
    | c :: cs => c.toString ++ "." ++ String.ofList cs ++ exponent
    | [] => "0"

end Decimal

/-- Whether the sign bit of a number is set. -/
def signBit (x : Float) : Bool := x.toBits.toNat / Nat.pow 2 63 == 1

/-- A number as script text: digits without an exponent. -/
def numberText (x : Float) : String :=
  if x.isNaN then "NaN"
  else if x.isInf then (if signBit x then "-Infinity" else "Infinity")
  else if x == 0.0 then (if signBit x then "-0" else "0")
  else (if signBit x then "-" else "") ++ (Magnitude.ofFloat x).shortest.positional

/-- The text that a number is when it is joined to a text: without the sign of zero. -/
def convertedNumberText (x : Float) : String :=
  if x.isNaN || x.isInf then numberText x
  else if x == 0.0 then "0"
  else (if signBit x then "-" else "") ++ (Magnitude.ofFloat x).shortest.converted

/-- A number as data text: always with a point or an exponent. -/
def dataNumberText (x : Float) : String :=
  if x.isNaN || x.isInf then "null"
  else if x == 0.0 then (if signBit x then "-0.0" else "0.0")
  else (if signBit x then "-" else "") ++ (Magnitude.ofFloat x).shortest.compact

end ScriptHost
