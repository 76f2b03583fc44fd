import ScriptHost.Decimal.Shortest
import ScriptHost.Printer.Output
/-!
# Writing literals

A literal that was read is written as it stood in the source text. A made one
gets the shortest spelling of its value.

- `quoteText`: a string between quotes.
- `Print.number`, `Print.string`: literals as they are written.
-/

namespace ScriptHost

/-- The two hexadecimal digits of a small number. -/
def hexByte (n : Nat) : String :=
  let digits := Nat.toDigits 16 n
  String.ofList (List.replicate (2 - digits.length) '0' ++ digits)

/-- The four hexadecimal digits of a number below 65536. -/
def hexWord (n : Nat) : String :=
  let digits := Nat.toDigits 16 n
  String.ofList (List.replicate (4 - digits.length) '0' ++ digits)

/-- Whether what follows a backslash makes it the escape of half a character: `u`, a brace or
none, and four digits from D800 to DFFF. -/
def startsHalf : List Char → Bool
  | 'u' :: cs =>
    let digits := (if cs.head? == some '{' then cs.drop 1 else cs).take 4
    match digits with
    | ['D', a, _, _] | ['d', a, _, _] =>
      "89abcdefABCDEF".toList.contains a
        && digits.all (fun c => c.isDigit || "abcdefABCDEF".toList.contains c)
    | _ => false
  | _ => false

/-- A character inside quotes of the given kind; `after` follows it. -/
def quoteChar (target : Target) (quote c : Char) (after : List Char) : String :=
  let n := c.toNat
  if c == quote then String.ofList ['\\', c]
  else if c == '\\' then (if startsHalf after then "\\" else "\\\\")
  else if n == 0 then
    (if (after.head?.map Char.isDigit).getD false then "\\x00" else "\\0")
  else if n == 8 then "\\b"
  else if n == 10 then "\\n"
  else if n == 11 then "\\v"
  else if n == 12 then "\\f"
  else if n == 13 then "\\r"
  else if n == 9 then "\t"
  else if n < 32 then "\\x" ++ hexByte n
  else if n < 0x7f then c.toString
  else if n ≤ 0xff then
    (if target.isBelow .es2015 then "\\x" ++ hexByte n else c.toString)
  else if n == 0x2028 then "\\u2028"
  else if n == 0x2029 then "\\u2029"
  else if n == 0xfeff then "\\uFEFF"
  else if n ≥ 0x10000 && target.isBelow .es2015 then
    "\\u" ++ hexWord (0xd800 + (n - 0x10000) / 0x400)
      ++ "\\u" ++ hexWord (0xdc00 + (n - 0x10000) % 0x400)
  else c.toString

/-- The characters of a string inside quotes of the given kind. -/
def quoteChars (target : Target) (quote : Char) : List Char → String
  | [] => ""
  | c :: cs => quoteChar target quote c cs ++ quoteChars target quote cs

/-- A string between the quotes that it holds fewer of, double ones if in doubt. -/
def quoteText (target : Target) (s : String) : String :=
  let cs := s.toList
  let quote := if cs.count '"' > cs.count '\'' then '\'' else '"'
  quote.toString ++ quoteChars target quote cs ++ quote.toString

namespace Print

/-- Whether a number is spelled with binary or octal digits. -/
def isBinaryOrOctal (raw : String) : Bool :=
  raw.length > 2 && ["0b", "0B", "0o", "0O"].contains (String.ofList (raw.toList.take 2))

/-- The spelling of a number literal: digits may be grouped from one edition on. -/
def numberSpelling (target : Target) (value : Float) (raw : Option String) : String :=
  match raw with
  | some raw =>
    if target.isBelow .es2015 && isBinaryOrOctal raw then numberText value
    else if target.isBelow .es2021 then String.ofList (raw.toList.filter (· != '_'))
    else raw
  | none => numberText value

/-- Whether a dot after a number would be read as part of it. -/
def swallowsDot (target : Target) (raw : Option String) (spelling : String) : Bool :=
  match raw with
  | some raw =>
    if target.isBelow .es2015 && isBinaryOrOctal raw then !spelling.toList.contains '.'
    else
      let digits := raw.toList.filter (· != '_')
      digits.all Char.isDigit && !(digits.length ≥ 2 && digits.head? == some '0')
  | none => !spelling.toList.any fun c => c == '.' || c == 'e'

/-- Writes a string literal. -/
def string (value : String) (raw : Option String) : Print Unit := do
  match raw with
  | some raw => write raw
  | none => write (quoteText (← get).target value)

/-- Writes a number literal. -/
def number (value : Float) (raw : Option String) : Print Unit := do
  write (numberSpelling (← get).target value raw)

/-- Writes a number literal that a dot and a name follow. -/
def numberBeforeDot (value : Float) (raw : Option String) : Print Unit := do
  let target := (← get).target
  let spelling := numberSpelling target value raw
  write spelling
  if swallowsDot target raw spelling then write "."

end Print

end ScriptHost
