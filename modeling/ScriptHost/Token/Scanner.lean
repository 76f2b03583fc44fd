import ScriptHost.Source.IdentChar
import ScriptHost.Token.Basic
/-!
# Scanning

One token at a time is read from the rest of the source text. What a character
means depends on where it stands: inside a template, inside markup, where an
expression may start. The scanner keeps that knowledge as a stack of brackets.

- `Scanner`: the rest of the text and what is known about the place.
- `Scan`: computations that read from the text.
- `Scanner.next`: the next token, if any is left.
-/

namespace ScriptHost

/-- What the scanner is inside of. -/
inductive Bracket where
  | braceStmt
  | braceExpr
  | hole
  | parenStmt (isFor : Bool)
  | parenExpr
  | template
  | fnExpr
  | classExpr
  | openingTag
  | closingTag
  | markup
deriving BEq, DecidableEq, Repr, Inhabited

/-- Whether a closed bracket was part of an expression. -/
def Bracket.isExpr : Bracket → Bool
  | .braceExpr | .hole | .parenExpr | .template | .fnExpr | .classExpr | .markup => true
  | _ => false

/-- Whether blanks are part of the text inside the bracket. -/
def Bracket.keepsBlanks : Bracket → Bool
  | .template | .markup => true
  | _ => false

/-- What the parser tells the scanner about the place it reads at. -/
structure ScanMode where
  dialect : Dialect
  inType : Bool
  operatorsInType : Bool
  inPropertyName : Bool
  ignoreErrors : Bool
deriving Inhabited

/-- The rest of a source text and what the scanner knows about the place. -/
structure Scanner where
  rest : List Char
  pos : Pos
  /-- The number of characters of the whole text. -/
  size : Nat
  /-- The brackets around the place, innermost first. -/
  brackets : List Bracket := [.braceStmt]
  exprAllowed : Bool := true
  /-- Where a slash stands that is to be read again as a regular expression. -/
  regexAt : Option (List Char × Pos) := none
  lineBreak : Bool := false
  isFirst : Bool := true
  prevEnd : Pos := 1
  /-- The last token, once there is one. -/
  last : Option Token := none
  templateStart : Pos := 1
  /-- Where the token being read starts. -/
  tokenStart : Pos := 1
  /-- Comments that will stand before the next token. -/
  pending : List Comment := []
  /-- Comments that have found their place: whether before it, the place, the comment. -/
  placed : List (Bool × Pos × Comment) := []
  /-- Errors that do not stop the scanner. -/
  issues : List Issue := []
  /-- Comments handed over when the text has ended. -/
  delivered : List (Bool × Pos × Comment) := []
deriving Inhabited

/-- Computations that read from a source text and may find that it holds no token. -/
abbrev Scan := EStateM Issue Scanner

namespace Scan

/-! ## Characters -/

/-- The next character. -/
def peek : Scan (Option Char) := return (← get).rest.head?

/-- The character after `n` others. -/
def peekAt (n : Nat) : Scan (Option Char) := return (← get).rest[n]?

/-- Whether the next character is this one. -/
def isNext (c : Char) : Scan Bool := return (← peek) == some c

/-- Whether the rest of the text starts with these characters. -/
def isText (s : String) : Scan Bool := return s.toList.isPrefixOf (← get).rest

/-- Passes one character. -/
def skip : Scan Unit :=
  modify fun s =>
    match s.rest with
    | [] => s
    | c :: cs => { s with rest := cs, pos := s.pos + c.utf8Size }

/-- Passes `n` characters. -/
def skipMany : Nat → Scan Unit
  | 0 => pure ()
  | n + 1 => do skip; skipMany n

/-- Passes the character if it is next. -/
def accept (c : Char) : Scan Bool := do
  if ← isNext c then
    skip
    return true
  return false

/-- The length in bytes of a list of characters. -/
def byteLength (cs : List Char) : Nat := cs.foldl (fun n c => n + c.utf8Size) 0

/-- Passes and returns the longest run of characters with a property. -/
def takeWhile (p : Char → Bool) : Scan (List Char) := do
  let s ← get
  let run := s.rest.takeWhile p
  set { s with rest := s.rest.dropWhile p, pos := s.pos + byteLength run }
  return run

/-- The first characters that fill `n` bytes. -/
def takeBytes : Nat → List Char → List Char
  | 0, _ => []
  | _, [] => []
  | n + 1, c :: cs => c :: takeBytes (n + 1 - c.utf8Size) cs

/-- The source text from `start`, which begins at `startPos`, to the place. -/
def since (start : List Char) (startPos : Pos) : Scan String := do
  return String.ofList (takeBytes ((← get).pos - startPos) start)

/-- Repeats a step until it answers; a step that does not answer has passed a character, so
the length of the text bounds the number of steps. -/
def loopWith {σ α : Type} (step : σ → Scan (σ ⊕ α)) : Nat → σ → Scan α
  | 0, _ => do throw ⟨.at_ (← get).pos, .unexpectedEnd⟩
  | fuel + 1, acc => do
    match ← step acc with
    | .inl acc => loopWith step fuel acc
    | .inr a => return a

/-- Repeats a step, each of which passes a character, until it answers. -/
def repeatUntil {σ α : Type} (acc : σ) (step : σ → Scan (σ ⊕ α)) : Scan α := do
  loopWith step ((← get).size + 1) acc

/-! ## Errors -/

/-- The span from a position to the place. -/
def spanFrom (start : Pos) : Scan Span := return ⟨start, (← get).pos⟩

/-- Fails with an error about the text from a position on. -/
def fail {α : Type} (start : Pos) (e : SyntaxError) : Scan α := do
  throw ⟨← spanFrom start, e⟩

/-- Notes an error that does not stop the scanner. -/
def noteAt (m : ScanMode) (span : Span) (e : SyntaxError) : Scan Unit := do
  unless m.ignoreErrors do
    modify fun s => { s with issues := s.issues ++ [⟨span, e⟩] }

/-- Notes an error about the text from a position on. -/
def note (m : ScanMode) (start : Pos) (e : SyntaxError) : Scan Unit := do
  noteAt m (← spanFrom start) e

/-! ## Blanks and comments -/

/-- Whether a line comment may belong to the token before it. -/
def mayTrailLine : Option Token → Bool
  | some t => !t.isBinary
  | none => true

/-- Whether a block comment may belong to the token before it. -/
def mayTrail : Option Token → Bool
  | some (.punct t) => [";", "\x7b", "$\x7b", "\x7d"].contains t
  | some (.num ..) | some (.str ..) | some (.ident _) | some (.regex ..) | some (.bigint _)
  | some (.jsxText _) => true
  | _ => false

/-- Keeps a comment for the next token or gives it to the one before. -/
def placeComment (forNext : Bool) (c : Comment) : Scan Unit :=
  modify fun s =>
    if forNext then { s with pending := s.pending ++ [c] }
    else { s with placed := s.placed ++ [(false, s.prevEnd, c)] }

/-- Passes a line comment whose mark has `n` characters. -/
def lineComment (n : Nat) : Scan Unit := do
  let start := (← get).pos
  skipMany n
  let s ← get
  let forNext := s.lineBreak || !mayTrailLine s.last
  let text ← takeWhile (fun c => !isLineEnd c)
  placeComment forNext ⟨false, ⟨start, (← get).pos⟩, String.ofList text⟩

/-- Passes blanks and line ends. -/
def blanks : Scan Unit := do
  let run ← takeWhile (fun c => isBlank c || isLineEnd c)
  if run.any isLineEnd then modify fun s => { s with lineBreak := true }

/-- Passes a block comment. -/
def blockComment (m : ScanMode) : Scan Unit := do
  let start := (← get).pos
  skipMany 2
  let s ← get
  let forNext := s.lineBreak || !mayTrail s.last
  let inside := s.rest
  let insidePos := s.pos
  let closed ← repeatUntil () fun _ => do
    match ← peek with
    | none => return .inr false
    | some c =>
      if c == '*' && (← peekAt 1) == some '/' then
        return .inr true
      if isLineEnd c then modify fun s => { s with lineBreak := true }
      skip
      return .inl ()
  let text ← since inside insidePos
  if closed then
    skipMany 2
    let stop := (← get).pos
    blanks
    let forNext := forNext && !(← isNext ';')
    placeComment forNext ⟨true, ⟨start, stop⟩, text⟩
  else
    note m start .unterminatedBlockComment

/-- Passes everything before the next token. -/
def skipSpace (m : ScanMode) : Scan Unit :=
  repeatUntil () fun _ => do
    blanks
    if ← isText "//" then
      lineComment 2
      return .inl ()
    else if ← isText "/*" then
      blockComment m
      return .inl ()
    else return .inr ()

/-- Gives the comments that no token follows to the end of the text. -/
def flushComments : Scan Unit :=
  modify fun s =>
    let atStart := s.prevEnd == 1 && s.last.isNone
    let tail := s.pending.map fun c => (atStart, s.prevEnd, c)
    { s with pending := [], placed := [], delivered := s.delivered ++ s.placed ++ tail }

/-! ## Words -/

/-- The value of a digit in a radix up to sixteen. -/
def digitValue? (radix : Nat) (c : Char) : Option Nat :=
  let v :=
    if c.isDigit then some (c.toNat - '0'.toNat)
    else if 'a' ≤ c && c ≤ 'f' then some (c.toNat - 'a'.toNat + 10)
    else if 'A' ≤ c && c ≤ 'F' then some (c.toNat - 'A'.toNat + 10)
    else none
  v.filter (· < radix)

/-- The number written by a list of digits, other characters left out. -/
def digitsValue (radix : Nat) (cs : List Char) : Nat :=
  cs.foldl (fun n c => match digitValue? radix c with | some d => n * radix + d | none => n) 0

/-- Passes a separator between the digits of a number, after the digit `prev`; `start` is where
the digits begin. -/
def separator (m : ScanMode) (radix : Nat) (start : Pos) (prev : Option Char) : Scan Unit := do
  let forbidden (c : Option Char) : Bool :=
    match c with
    | some c =>
      if radix == 16 then ['.', 'X', '_', 'x'].contains c
      else ['.', 'B', 'E', 'O', '_', 'b', 'e', 'o'].contains c
    | none => false
  let next ← peekAt 1
  let allowed := match next with
    | some c => (digitValue? radix c).isSome
    | none => false
  if !allowed || forbidden prev || forbidden next then note m start .numericSeparator
  skip

/-- Reads the number of an escape: `count` digits, or any number of them where `count` is zero.
Separators may stand between the digits. There is no number when digits are missing or when it
fills more than four bytes. -/
def escapeNumber (m : ScanMode) (count : Nat) : Scan (Option Nat) := do
  let start := (← get).pos
  let (read, value) ← repeatUntil ((0, 0), (none : Option Char)) fun ((read, value), prev) => do
    match ← peek with
    | some '_' =>
      separator m 16 start prev
      return .inl ((read, value), prev)
    | some c =>
      match digitValue? 16 c with
      | some d =>
        skip
        let value := value * 16 + d
        if read + 1 == count || value ≥ 0x100000000 then return .inr (read + 1, value)
        return .inl ((read + 1, value), some c)
      | none => return .inr (read, value)
    | none => return .inr (read, value)
  let isShort := if count == 0 then read == 0 else read != count
  return if isShort || value ≥ 0x100000000 then none else some value

/-- Reads what follows `\u`: four digits, or digits in braces. Half of a character cannot be
held in a text, so an escape that stands for one is kept as it is written. -/
def unicodeEscape (m : ScanMode) (start : Pos) : Scan (List Char) := do
  let braces ← accept '{'
  let inside := (← get).rest
  let place := (← get).pos
  let n ← match ← escapeNumber m (if braces then 0 else 4) with
    | some n => pure n
    | none => fail start (.badEscape (if braces then "1-6 hex characters" else "4 hex characters"))
  if n > 0x10ffff then fail start (.badEscape "1-6 hex characters in the range 0 to 10FFFF.")
  let isHalf := 0xd800 ≤ n && n ≤ 0xdfff
  let text := if braces then (inside.take 9).takeWhile (· != '}') else inside.take 4
  if isHalf then
    modify fun s => { s with rest := inside.drop text.length, pos := place + byteLength text }
  if braces then
    unless ← accept '}' do fail start .invalidUnicodeEscape
  if isHalf then
    return if braces then ['\\', 'u', '{'] ++ text ++ ['}'] else ['\\', 'u'] ++ text
  return [Char.ofNat n]

/-- Reads the rest of a word; tells whether an escape was used. -/
def wordText (m : ScanMode) (isPart : Char → Bool) : Scan (String × Bool) :=
  repeatUntil ([], false) fun (acc, escaped) => do
    match ← peek with
    | some c =>
      if isPart c then
        let run ← takeWhile isPart
        return .inl (acc ++ run, escaped)
      else if c == '\\' then
        let start := (← get).pos
        skip
        unless ← accept 'u' do
          throw ⟨.at_ start, .expectedUnicodeEscape⟩
        let cs ← unicodeEscape m start
        let valid := match cs with
          | ch :: _ => if acc.isEmpty then isIdentStart ch else isPart ch
          | [] => true
        unless valid do fail start .invalidIdentChar
        return .inl (acc ++ cs, true)
      else return .inr (String.ofList acc, escaped)
    | none => return .inr (String.ofList acc, escaped)

/-- The words that are never identifiers, since every text follows the strict rules. -/
def isReservedWord (w : String) : Bool :=
  keywords.contains w || literalWords.contains w
    || ["enum", "implements", "package", "protected", "interface", "private", "public"].contains w

/-- Reads a word. -/
def word (m : ScanMode) : Scan Token := do
  let start := (← get).pos
  let (text, escaped) ← wordText m isIdentPart
  if escaped && isReservedWord text then
    fail start (.escapeInReservedWord text)
  if keywords.contains text || literalWords.contains text then return .keyword text
  return .ident text

/-! ## Numbers -/

/-- Passes digits of a radix with separators between them. -/
def digits (m : ScanMode) (radix : Nat) : Scan (List Char) := do
  let start := (← get).pos
  repeatUntil ([], (none : Option Char)) fun (acc, prev) => do
    match ← peek with
    | some '_' =>
      separator m radix start prev
      return .inl (acc, prev)
    | some c =>
      if (digitValue? radix c).isSome then
        skip
        return .inl (acc ++ [c], some c)
      else return .inr acc
    | none => return .inr acc

/-- Refuses a letter right after a number. -/
def noIdentAfter : Scan Unit := do
  match ← peek with
  | some c => if isIdentStart c then throw ⟨.at_ (← get).pos, .identAfterNumber⟩
  | none => pure ()

/-- Reads a number whose radix is written after a zero. -/
def radixNumber (m : ScanMode) (radix : Nat) (start : List Char) : Scan Token := do
  let startPos := (← get).pos
  skipMany 2
  let ds ← digits m radix
  if ds.isEmpty then fail startPos (.expectedDigit radix)
  if ← accept 'n' then return .bigint (← since start startPos)
  noIdentAfter
  return .num (digitsValue radix ds).toFloat (← since start startPos)

/-- Reads a decimal number, or one with an old-style leading zero. -/
def decimalNumber (m : ScanMode) : Scan Token := do
  let startPos := (← get).pos
  let start := (← get).rest
  let whole ← if ← isNext '.' then pure [] else digits m 10
  let leadingZero := whole.length > 1 && whole.head? == some '0'
  if !leadingZero && !whole.isEmpty && (← accept 'n') then
    return .bigint (← since start startPos)
  if leadingZero then
    if whole.all (fun c => (digitValue? 8 c).isSome) then
      noIdentAfter
      if m.dialect.typed then note m startPos .octalLiteral
      note m startPos .legacyOctal
      return .num (digitsValue 8 whole).toFloat (← since start startPos)
    else note m startPos .legacyDecimal
  let part ←
    if ← accept '.' then digits m 10 else pure []
  let power ←
    if (← isNext 'e') || (← isNext 'E') then do
      skip
      match ← peek with
      | none => fail startPos .exponentWithoutDigits
      | some _ =>
        let negative ← if ← accept '-' then pure true else do
          let _ ← accept '+'
          pure false
        let ds ← digits m 10
        if ds.isEmpty then fail startPos (.expectedDigit 10)
        let n : Int := digitsValue 10 ds
        pure (if negative then -n else n)
    else pure 0
  noIdentAfter
  let mantissa := digitsValue 10 (whole ++ part)
  let shift : Int := power - part.length
  -- beyond every magnitude a double can hold, the exact power no longer matters
  let shift := max (min shift 5000) (-5000)
  let value :=
    if shift ≥ 0 then
      if mantissa == 0 then 0.0 else Float.ofScientific mantissa false shift.toNat
    else Float.ofScientific mantissa true (-shift).toNat
  return .num value (← since start startPos)

/-! ## Strings, templates and regular expressions -/

/-- Reads an escape; a line continuation stands for nothing. -/
def escape (m : ScanMode) (inTemplate : Bool) : Scan (List Char) := do
  let start := (← get).pos
  skip
  match ← peek with
  | none => throw ⟨.at_ start, .invalidStringEscape⟩
  | some c =>
    match c with
    | 'n' => skip; return ['\n']
    | 'r' => skip; return ['\r']
    | 't' => skip; return ['\t']
    | 'b' => skip; return [Char.ofNat 8]
    | 'v' => skip; return [Char.ofNat 11]
    | 'f' => skip; return [Char.ofNat 12]
    | '\r' =>
      skip
      let _ ← accept '\n'
      return []
    | 'x' =>
      skip
      match ← escapeNumber m 2 with
      | some n => return [Char.ofNat n]
      | none => fail start (.badEscape "2 hex characters")
    | 'u' =>
      skip
      unicodeEscape m start
    | _ =>
      if isLineEnd c then
        skip
        return []
      match digitValue? 8 c with
      | none =>
        skip
        return [c]
      | some first =>
        skip
        let isOctal (o : Option Char) : Bool :=
          match o with
          | some d => (digitValue? 8 d).isSome
          | none => false
        if first == 0 && !isOctal (← peek) then return [Char.ofNat 0]
        if inTemplate then fail start .legacyOctal
        note m start .legacyOctal
        let mut value := first
        if let some d := (← peek).bind (digitValue? 8) then
          value := value * 8 + d
          skip
          if let some e := (← peek).bind (digitValue? 8) then
            if value * 8 + e < 256 then
              value := value * 8 + e
              skip
        return [Char.ofNat value]

/-- Reads a string literal. -/
def stringLit (m : ScanMode) (quote : Char) : Scan Token := do
  let startPos := (← get).pos
  let start := (← get).rest
  skip
  repeatUntil [] fun acc => do
    match ← peek with
    | some c =>
      if c == quote then
        skip
        return .inr (.str (String.ofList acc) (← since start startPos))
      else if c == '\\' then
        return .inl (acc ++ (← escape m false))
      else if c == '\n' || c == '\r' then
        note m startPos .unterminatedString
        return .inr (.str (String.ofList acc) (← since start startPos))
      else
        let run ← takeWhile (fun d => d != quote && d != '\\' && d != '\n' && d != '\r')
        return .inl (acc ++ run)
    | none =>
      note m startPos .unterminatedString
      return .inr (.str (String.ofList acc) (← since start startPos))

/-- Reads a piece of a template, or the mark that ends it. -/
def templatePiece (m : ScanMode) : Scan Token := do
  let startPos := (← get).pos
  let start := (← get).rest
  let afterPiece := match (← get).last with
    | some (.template ..) => true
    | _ => false
  let templateStart := (← get).templateStart
  repeatUntil (Except.ok [] : Except Issue (List Char)) fun acc => do
    let extend (cs : List Char) : Except Issue (List Char) := acc.map (· ++ cs)
    match ← peek with
    | none => fail templateStart .unterminatedTemplate
    | some c =>
      let isHole := c == '$' && (← peekAt 1) == some '{'
      if c == Char.ofNat 0x60 || isHole then
        if (← get).pos == startPos && afterPiece then
          if isHole then
            skipMany 2
            return .inr (.punct "$\x7b")
          skip
          return .inr (.punct "`")
        return .inr (.template (acc.map String.ofList) (← since start startPos))
      else if c == '\\' then
        let before ← get
        match (escape m true).run before with
        | .ok cs s =>
          set s
          return .inl (extend cs)
        | .error e s =>
          set s
          return .inl (.error e)
      else if isLineEnd c then
        if c == '\r' && (← peekAt 1) == some '\n' then skip
        skip
        return .inl (extend [if c == '\r' then '\n' else c])
      else
        let run ← takeWhile (fun d =>
          d != '\\' && d != '$' && d != Char.ofNat 0x60 && !isLineEnd d)
        if run.isEmpty then
          skip
          return .inl (extend [c])
        return .inl (extend run)

/-- Reads a regular expression. -/
def regex (m : ScanMode) : Scan Token := do
  let startPos := (← get).pos
  skip
  let inside := (← get).rest
  let insidePos := (← get).pos
  repeatUntil (false, false) fun (escaped, inClass) => do
    match ← peek with
    | none => fail startPos .unterminatedRegex
    | some c =>
      if isLineEnd c then fail startPos .unterminatedRegex
      if !escaped && c == '/' && !inClass then return .inr ()
      skip
      if escaped then return .inl (false, inClass)
      return .inl (c == '\\', if c == '[' then true else if c == ']' then false else inClass)
  let pattern ← since inside insidePos
  skip
  let (flags, _) ← match ← peek with
    | some c => if isIdentStart c then wordText m isIdentPart else pure ("", false)
    | none => pure ("", false)
  return .regex pattern flags

/-! ## Punctuation -/

/-- The spellings of punctuation, the longest first. -/
def punctuation : List String :=
  [">>>=", "...", "===", "!==", "**=", "<<=", ">>=", ">>>", "&&=", "||=", "??=", "=>", "==", "!=",
   "<=", ">=", "&&", "||", "??", "++", "--", "+=", "-=", "*=", "/=", "%=", "&=", "|=", "^=", "<<",
   ">>", "**", "(", ")", "[", "]", "\x7b", "\x7d", ";", ",", ":", "~", "@", "?", "#", ".", "!", "=",
   "+", "-", "*", "/", "%", "&", "|", "^", "<", ">", "`"]

/-- Reads one of the given punctuation marks. -/
def oneOf (marks : List String) : Scan (Option Token) := do
  let rest := (← get).rest
  match marks.find? (fun p => p.toList.isPrefixOf rest) with
  | some p =>
    skipMany p.length
    return some (.punct p)
  | none => return none

/-- Whether the line at the place is a marker left by a merge. -/
def mergeMarker : Scan Bool := do
  let s ← get
  unless s.lineBreak do return false
  if (← isText "<<<<<<< ") || (← isText ">>>>>>> ") || (← isText "||||||| ") then return true
  isText "======="

/-- Reads a token outside templates and markup. -/
def plainToken (m : ScanMode) : Scan (Option Token) :=
  repeatUntil () fun _ => do
    let startPos := (← get).pos
    let start := (← get).rest
    match ← peek with
    | none =>
      flushComments
      return .inr none
    | some c =>
      if ← mergeMarker then
        noteAt m ⟨startPos, startPos + 7⟩ .mergeConflict
        lineComment 7
        skipSpace m
        modify fun s => { s with tokenStart := s.pos }
        return .inl ()
      if (← isText "<!--") && !(m.inType && !m.operatorsInType) then
        lineComment 4
        skipSpace m
        note m startPos .legacyComment
        modify fun s => { s with tokenStart := s.pos }
        return .inl ()
      if (← isText "-->") && (← get).lineBreak then
        noteAt m ⟨startPos, startPos + 3⟩ .legacyComment
        lineComment 3
        skipSpace m
        modify fun s => { s with tokenStart := s.pos }
        return .inl ()
      if isIdentStart c || c == '\\' then return .inr (some (← word m))
      if c == '"' || c == '\'' then return .inr (some (← stringLit m c))
      if c == '0' then
        match ← peekAt 1 with
        | some 'x' | some 'X' => return .inr (some (← radixNumber m 16 start))
        | some 'o' | some 'O' => return .inr (some (← radixNumber m 8 start))
        | some 'b' | some 'B' => return .inr (some (← radixNumber m 2 start))
        | _ => return .inr (some (← decimalNumber m))
      if c.isDigit then return .inr (some (← decimalNumber m))
      if c == '.' then
        match ← peekAt 1 with
        | some d => if d.isDigit then return .inr (some (← decimalNumber m))
        | none => pure ()
      if (c == '<' || c == '>') && m.inType && !m.operatorsInType then
        skip
        return .inr (some (.punct c.toString))
      match ← oneOf punctuation with
      | some t => return .inr (some t)
      | none =>
        skip
        throw ⟨.at_ startPos, .unexpectedChar c⟩

/-! ## Markup -/

/-- Reads text between tags, or the mark that ends it. -/
def markupText (m : ScanMode) : Scan (Option Token) := do
  let start := (← get).rest
  let startPos := (← get).pos
  let tokenStart := (← get).tokenStart
  repeatUntil () fun _ => do
    match ← peek with
    | none => fail tokenStart .unterminatedMarkup
    | some c =>
      let here := (← get).pos
      if c == '<' || c == '{' then
        if here == startPos then
          if c == '<' && (← get).exprAllowed then
            skip
            return .inr (some .jsxTagStart)
          return .inr (← plainToken m)
        return .inr (some (.jsxText (← since start startPos)))
      else if c == '>' then
        note m here (.markupSuggestion "`\x7b'>'\x7d` or `&gt;`")
        skip
        return .inl ()
      else if c == '}' then
        note m here (.markupSuggestion "`\x7b'\x7d'\x7d` or `&rbrace;`")
        skip
        return .inl ()
      else
        if isLineEnd c then modify fun s => { s with lineBreak := true }
        skip
        return .inl ()

/-- Reads the value of an attribute. -/
def markupString (quote : Char) : Scan Token := do
  let startPos := (← get).pos
  let start := (← get).rest
  skip
  let value ← takeWhile (· != quote)
  if (← peek).isNone then fail startPos .unterminatedString
  skip
  return .str (String.ofList value) (← since start startPos)

/-! ## One token -/

/-- Reads what stands at the place, with the brackets around it in view. -/
def tokenHere (m : ScanMode) : Scan (Option Token) := do
  let s ← get
  if s.rest.isEmpty then
    flushComments
    return none
  modify fun s => { s with tokenStart := s.pos }
  if m.dialect.markup && !m.inPropertyName && !m.inType then
    if s.brackets.head? == some .markup then return ← markupText m
    if let some c ← peek then
      let inOpening := s.brackets.head? == some .openingTag
      let inClosing := s.brackets.head? == some .closingTag
      if inOpening || inClosing then
        if isIdentStart c then
          let name ← takeWhile (fun d => isIdentPart d || d == '-')
          return some (.jsxName (String.ofList name))
        if c == '>' then
          skip
          return some .jsxTagEnd
        if (c == '\'' || c == '"') && inOpening then return some (← markupString c)
      if c == '<' && s.exprAllowed && (← peekAt 1) != some '!' then
        skip
        return some .jsxTagStart
  if s.brackets.head? == some .template then return some (← templatePiece m)
  plainToken m

/-- Skips what separates tokens and reads one. -/
def tokenAt (m : ScanMode) : Scan (Pos × List Char × Option Token) := do
  let s ← get
  if let some (rest, pos) := s.regexAt then
    let place := (s.pos, s.rest)
    set { s with rest, pos }
    return (place.1, place.2, some (← regex m))
  if s.isFirst then
    if ← isText "#!" then
      skipMany 2
      let text ← takeWhile (fun c => !isLineEnd c)
      modify fun s => { s with isFirst := false }
      return (s.pos, s.rest, some (.shebang (String.ofList text)))
  modify fun s => { s with lineBreak := s.isFirst, isFirst := false }
  unless (s.brackets.head?.map Bracket.keepsBlanks).getD false do skipSpace m
  let t ← get
  return (t.pos, t.rest, ← tokenHere m)

end Scan

/-! ## The stack of brackets -/

namespace Scanner

/-- Whether a brace at the place opens a block of statements. -/
def isBraceBlock (s : Scanner) : Bool :=
  let byDefault := !s.exprAllowed
  match s.last with
  | none => true
  | some (.punct ":") =>
    match s.brackets.head? with
    | some .braceStmt => true
    | some .braceExpr => false
    | _ => byDefault
  | some (.keyword "return") | some (.keyword "yield") => s.lineBreak
  | some (.keyword "else") | some (.punct ";") | some (.punct ")") => true
  | some (.punct "\x7b") =>
    match s.brackets with
    | .braceExpr :: .openingTag :: _ => true
    | b :: _ => b == .braceStmt
    | [] => false
  | some (.punct "<") | some (.punct ">") | some (.punct "=>") => true
  | _ => byDefault

/-- The brackets around the place and whether an expression may start after a token. -/
def afterToken (s : Scanner) (markup : Bool) (t : Token) : List Bracket × Bool :=
  let prev := s.last
  let bs := s.brackets
  let opens (b : Bracket) : List Bracket × Bool := (b :: bs, true)
  let closes : List Bracket × Bool :=
    match bs with
    | [b] => ([b], true)
    | .braceStmt :: .fnExpr :: rest => (rest, false)
    | .braceStmt :: .classExpr :: rest => (rest, false)
    | .hole :: rest => (rest, rest.head? != some .template)
    | b :: rest => (rest, !b.isExpr)
    | [] => ([], true)
  match t with
  | .keyword w =>
    if (match prev with | some (.punct ".") => true | _ => false) && !literalWords.contains w then
      (bs, false)
    else if w == "function" then
      (if s.exprAllowed && !s.isBraceBlock then .fnExpr :: bs else bs, false)
    else if w == "class" then
      (if s.exprAllowed && !s.isBraceBlock then .classExpr :: bs else bs, false)
    else if s.lineBreak && (match prev with
        | some (.keyword "let") | some (.keyword "const") | some (.keyword "var") => true
        | _ => false) then (bs, true)
    else (bs, t.beforeExpr)
  | .ident w =>
    if w == "of" && bs.head? == some (.parenStmt true) then
      (bs, !((prev.map Token.beforeExpr).getD false))
    else if s.lineBreak && (match prev with
        | some (.keyword "let") | some (.keyword "const") | some (.keyword "var") => true
        | _ => false) then (bs, true)
    else (bs, false)
  | .punct ")" => closes
  | .punct "\x7d" => closes
  | .punct ":" =>
    match bs with
    | .fnExpr :: rest => (rest, true)
    | .classExpr :: rest => (rest, true)
    | _ => (bs, true)
  | .punct "\x7b" =>
    if markup && bs.head? == some .openingTag then opens .braceExpr
    else if markup && bs.head? == some .markup then opens .hole
    else opens (if s.isBraceBlock then .braceStmt else .braceExpr)
  | .punct "/" =>
    if markup && (match prev with | some .jsxTagStart => true | _ => false) then
      (.closingTag :: bs.drop 2, false)
    else (bs, true)
  | .punct "$\x7b" => opens .hole
  | .punct "(" =>
    match prev with
    | some (.keyword "if") | some (.keyword "with") | some (.keyword "while") =>
      opens (.parenStmt false)
    | some (.keyword "for") => opens (.parenStmt true)
    | _ => opens .parenExpr
  | .punct "++" => (bs, s.exprAllowed)
  | .punct "--" => (bs, s.exprAllowed)
  | .punct "`" =>
    if bs.head? == some .template then (bs.drop 1, false) else (.template :: bs, false)
  | .jsxTagStart => (.openingTag :: .markup :: bs, false)
  | .jsxTagEnd =>
    let out := bs.head?
    let rest := bs.drop 1
    if (out == some .openingTag && (match prev with | some (.punct "/") => true | _ => false))
        || out == some .closingTag then
      (rest.drop 1, rest.drop 1 |>.head? |> (· == some .markup))
    else (rest, true)
  | _ => (bs, t.beforeExpr)

/-- The scanner before the first character of a text. -/
def ofText (text : String) : Scanner :=
  { rest := text.toList, pos := 1, size := text.length }

/-- The next token, if any is left. -/
def next (m : ScanMode) (s : Scanner) : Option TokenAt × Scanner :=
  let (start, source, token, s) :=
    match (Scan.tokenAt m).run s with
    | .ok (start, source, token) s => (start, source, token, s)
    | .error e t => (if s.regexAt.isSome then s.pos else t.tokenStart, [], some (.error e), t)
  match token with
  | none => (none, s)
  | some t =>
    let placed := s.placed ++ s.pending.map fun c => (true, start, c)
    let (brackets, exprAllowed) := s.afterToken m.dialect.markup t
    let templateStart := match t with
      | .punct "`" => start
      | _ => s.templateStart
    (some ⟨t, ⟨start, s.pos⟩, s.lineBreak, source⟩,
      { s with brackets, exprAllowed, placed, pending := [], last := some t, prevEnd := s.pos
               templateStart })

end Scanner

end ScriptHost
