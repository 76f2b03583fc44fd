import ScriptHost.Token.Scanner
import ScriptHost.Tree.Node
/-!
# The state of a parser

A parser looks at the current token and at most one beyond it. Tokens are read
only when they are looked at, because what a token is depends on the place.
A reading that turns out wrong is taken back, except that the errors it noted
in the text stay noted.

- `Place`: what the parser is inside of.
- `Parse`: computations of the parser; a thrown `Issue` gives up the text.
- `Parse.attempt`: a reading that may be taken back.
- `Nonterminal`, `Descend`: how the rules of the grammar refer to each other.
-/

namespace ScriptHost

/-- What the parser is inside of. -/
structure Place where
  /-- `in` is an operator here. -/
  includeIn : Bool := false
  inAsync : Bool := false
  inGenerator : Bool := false
  inCondition : Bool := false
  /-- A `:` after an expression belongs to a conditional expression. -/
  expectsColon : Bool := false
  inClass : Bool := false
  inClassField : Bool := false
  inFunction : Bool := false
  inStaticBlock : Bool := false
  /-- Inside of a function that is not an arrow function. -/
  inPlainFunction : Bool := false
  inParams : Bool := false
  hasSuperClass : Bool := false
  inPropertyName : Bool := false
  superAllowed : Bool := false
  /-- `extends` inside a type does not start a conditional type. -/
  noConditionalTypes : Bool := false
  inDeclare : Bool := false
  inType : Bool := false
  operatorsInType : Bool := false
  ignoreErrors : Bool := false
  breakAllowed : Bool := false
  continueAllowed : Bool := false
  /-- Imports and exports are allowed. -/
  atTop : Bool := false
  usingAllowed : Bool := false
  loopInit : Bool := false
  awaitLoopInit : Bool := false
deriving Inhabited

/-- The state of a parser. -/
structure ParseState where
  dialect : Dialect
  scanner : Scanner
  current : Option TokenAt := none
  ahead : Option TokenAt := none
  prevSpan : Span := ⟨1, 1⟩
  place : Place := {}
  /-- Where an arrow function may start. -/
  arrowStart : Option Pos := none
  labels : List String := []
  /-- The commas that end the object and array literals that start at a position. -/
  trailingCommas : List (Pos × Span) := []
  issues : Array Issue := #[]
  comments : Comments := {}
deriving Inhabited

/-- Computations of the parser. -/
abbrev Parse := EStateM Issue ParseState

namespace Parse

/-! ## Reading tokens -/

/-- Reads one token from the text. -/
def scan : Parse (Option TokenAt) := do
  let s ← get
  let p := s.place
  let (t, scanner) := s.scanner.next
    ⟨s.dialect, p.inType, p.operatorsInType, p.inPropertyName, p.ignoreErrors⟩
  let comments := scanner.delivered.foldl (fun (cs : Comments) (before, pos, c) =>
    if before then cs.addLeading pos c else cs.addTrailing pos c) s.comments
  set { s with
    scanner := { scanner with issues := [], delivered := [] }
    issues := s.issues ++ scanner.issues.toArray
    comments }
  return t

/-- The current token, read if need be; none at the end of the text. -/
def current : Parse (Option TokenAt) := do
  let s ← get
  match s.current with
  | some t => return some t
  | none =>
    match s.ahead with
    | some t =>
      set { s with current := some t, ahead := none }
      return some t
    | none =>
      let t ← scan
      modify fun s => { s with current := t }
      return t

/-- The token after the current one. -/
def ahead : Parse (Option TokenAt) := do
  let _ ← current
  let s ← get
  match s.ahead with
  | some t => return some t
  | none =>
    let t ← scan
    modify fun s => { s with ahead := t }
    return t

/-- Passes the current token. -/
def bump : Parse Token := do
  match ← current with
  | some t =>
    modify fun s => { s with current := none, prevSpan := t.span }
    return t.token
  | none => return .punct ""

/-- Whether the text has ended. -/
def atEnd : Parse Bool := return (← current).isNone

/-- The span of the current token, or of the one before if it is not read yet. -/
def currentSpan : Parse Span := do
  let s ← get
  return (s.current.map (·.span)).getD s.prevSpan

/-- The span of the token before the current one. -/
def prevSpan : Parse Span := return (← get).prevSpan

/-- Where the current token starts. -/
def pos : Parse Pos := do
  match ← current with
  | some t => return t.span.lo
  | none => return (← get).prevSpan.hi

/-- The span from a position to the end of the last token passed. -/
def spanFrom (start : Pos) : Parse Span := do
  return ⟨start, max start (← prevSpan).hi⟩

/-- Whether a line ends before the current token; true at the end of the text. -/
def lineBreak : Parse Bool := return ((← current).map (·.lineBreak)).getD true

/-- Whether a line ends between the current token and the next. -/
def lineBreakAhead : Parse Bool := return ((← ahead).map (·.lineBreak)).getD true

/-- Whether the text has types. -/
def typed : Parse Bool := return (← get).dialect.typed

/-- Whether the text has markup. -/
def markup : Parse Bool := return (← get).dialect.markup

/-- What the parser is inside of. -/
def place : Parse Place := return (← get).place

/-- A node whose text starts at a position and ends with the last token passed. -/
def node (start : Pos) (form : Form) (children : List Node) : Parse Node := do
  return .mk form (← spanFrom start) children

/-- Runs a computation inside of something else. -/
def within {α : Type} (f : Place → Place) (op : Parse α) : Parse α := do
  let old := (← get).place
  modify fun s => { s with place := f old }
  let a ← op
  modify fun s => { s with place := old }
  return a

/-! ## Errors -/

/-- Adds an error to those noted. -/
def addIssue (i : Issue) : Parse Unit :=
  modify fun s => { s with issues := s.issues.push i }

/-- Notes an error, and before it the one of a token that is none. -/
def noteIssue (i : Issue) : Parse Unit := do
  unless (← place).ignoreErrors do
    if let some t ← current then
      if let .error e := t.token then
        let _ ← bump
        addIssue e
    addIssue i

/-- Notes an error about a span. -/
def note (span : Span) (e : SyntaxError) : Parse Unit := noteIssue ⟨span, e⟩

/-- Notes an error of a text that is read by the strict rules. It says nothing about the token
that follows, which may not be read yet. -/
def noteStrict (span : Span) (e : SyntaxError) : Parse Unit := do
  unless (← place).ignoreErrors do addIssue ⟨span, e⟩

/-- Notes an error about the current token. -/
def noteHere (e : SyntaxError) : Parse Unit := do note (← currentSpan) e

/-- Gives up the text because of an error about a span. -/
def failAt {α : Type} (span : Span) (e : SyntaxError) : Parse α := do
  if let some t ← current then
    if let .error inner := t.token then
      let _ ← bump
      noteIssue inner
  throw ⟨span, e⟩

/-- Gives up the text because of an error about the current token, or about the one before if
the current token is not read yet. -/
def fail {α : Type} (e : SyntaxError) : Parse α := do
  failAt (← currentSpan) e

/-- Gives up the text because it has ended. -/
def failAtEnd {α : Type} : Parse α := do
  failAt (.at_ (← prevSpan).hi) .unexpectedEnd

/-- How the current token is named in an error message. -/
def currentDisplay : Parse String := do
  match ← current with
  | some t => return t.token.display
  | none => return "<eof>"

/-- Gives up the text because the current token is not one of those expected. -/
def unexpected {α : Type} (expected : String) : Parse α := do
  let got ← currentDisplay
  fail (.unexpected got expected)

/-- The current token, which must be there and must be a token. -/
def required : Parse TokenAt := do
  match ← current with
  | some t =>
    match t.token with
    | .error e =>
      let _ ← bump
      throw e
    | _ => return t
  | none => failAtEnd

/-! ## Tests and expectations -/

/-- Whether the current token is this punctuation or word. -/
def is (text : String) : Parse Bool :=
  return ((← current).map (·.token.is text)).getD false

/-- Whether the current token is one of these. -/
def isOneOf (texts : List String) : Parse Bool := do
  match ← current with
  | some t => return texts.any t.token.is
  | none => return false

/-- Whether the token after the current one is this punctuation or word. -/
def aheadIs (text : String) : Parse Bool :=
  return ((← ahead).map (·.token.is text)).getD false

/-- Passes the current token if it is this one. -/
def eat (text : String) : Parse Bool := do
  if ← is text then
    let _ ← bump
    return true
  return false

/-- Passes the current token, which must be this one. -/
def expect (text : String) : Parse Unit := do
  unless ← eat text do
    if ← atEnd then failAtEnd
    fail (.expectedToken text (← currentDisplay))

/-- Whether a statement may end here. -/
def isSemi : Parse Bool := do
  match ← current with
  | none => return true
  | some t => return t.token.is ";" || t.token.is "\x7d" || t.lineBreak

/-- Ends a statement if it may end here. -/
def eatSemi : Parse Bool := do
  if ← eat ";" then return true
  isSemi

/-- Ends a statement, which must end here. -/
def expectSemi : Parse Unit := do
  unless ← eatSemi do
    fail (.expectedToken ";" (← currentDisplay))

/-- The words that cannot be identifiers. -/
def isReserved (w : String) : Bool := Scan.isReservedWord w

/-- Whether a token may be an identifier. -/
def isIdentToken : Token → Bool
  | .ident w => !isReserved w
  | _ => false

/-- Whether the current token may be an identifier. -/
def isIdent : Parse Bool := return ((← current).map (isIdentToken ·.token)).getD false

/-- Whether the token after the current one may be an identifier. -/
def aheadIsIdent : Parse Bool := return ((← ahead).map (isIdentToken ·.token)).getD false

/-- Whether the current token is a word. -/
def isWord : Parse Bool := return ((← current).map (·.token.isWord)).getD false

/-- Whether the token after the current one is a word. -/
def aheadIsWord : Parse Bool := return ((← ahead).map (·.token.isWord)).getD false

/-- Whether the current token is a string. -/
def isString : Parse Bool := do
  match ← current with
  | some ⟨.str .., _, _, _⟩ => return true
  | _ => return false

/-- Whether the current token is a binary operator. -/
def isBinaryOp : Parse Bool := return ((← current).map (·.token.isBinary)).getD false

/-! ## Readings that may be taken back -/

/-- Keeps the errors and comments that a taken-back reading has left in the text. -/
def takeBack (old new : ParseState) : ParseState :=
  { old with issues := new.issues, comments := new.comments }

/-- Tries a reading of a typed text, quietly; takes it back unless it answers. -/
def attempt {α : Type} (op : Parse (Option α)) : Parse (Option α) := fun s =>
  if !s.dialect.typed then .ok none s
  else
    let quiet := s.place.ignoreErrors
    match op { s with place := { s.place with ignoreErrors := true } } with
    | .ok (some a) t => .ok (some a) { t with place := { t.place with ignoreErrors := quiet } }
    | .ok none t => .ok none (takeBack s t)
    | .error _ t => .ok none (takeBack s t)

/-- Looks at the text ahead and takes the reading back; a failure answers `none`. -/
def lookAhead {α : Type} (op : Parse α) : Parse (Option α) := fun s =>
  match op { s with place := { s.place with ignoreErrors := true } } with
  | .ok a t => .ok (some a) (takeBack s t)
  | .error _ t => .ok none (takeBack s t)

/-- Runs a computation and answers its error instead of giving up. -/
def orError {α : Type} (op : Parse α) : Parse (Except Issue α) := fun s =>
  match op s with
  | .ok a t => .ok (.ok a) t
  | .error e t => .ok (.error e) { t with place := s.place, labels := s.labels }

/-- Repeats a step until it answers. Every step passes a token, so the length of the text
bounds their number. -/
def loopWith {σ α : Type} (step : σ → Parse (σ ⊕ α)) : Nat → σ → Parse α
  | 0, _ => failAtEnd
  | fuel + 1, acc => do
    match ← step acc with
    | .inl acc => loopWith step fuel acc
    | .inr a => return a

/-- Repeats a step that passes a token until it answers. -/
def repeatUntil {σ α : Type} (acc : σ) (step : σ → Parse (σ ⊕ α)) : Parse α := do
  loopWith step (2 * (← get).scanner.size + 4) acc

/-- The bracket that encloses the place, for the scanner. -/
def brackets : Parse (List Bracket) := return (← get).scanner.brackets

/-- Changes the brackets that enclose the place. -/
def setBrackets (bs : List Bracket) : Parse Unit :=
  modify fun s => { s with scanner := { s.scanner with brackets := bs } }

/-- Tells the scanner whether an expression may start. -/
def setExprAllowed (b : Bool) : Parse Unit :=
  modify fun s => { s with scanner := { s.scanner with exprAllowed := b } }

/-- Replaces a current `<<` by its second half. -/
def cutShift : Parse Unit :=
  modify fun s =>
    match s.current with
    | some t =>
      let half :=
        { t with token := .punct "<", span := ⟨t.span.lo + 1, t.span.hi⟩, lineBreak := false }
      { s with current := some half }
    | none => s

/-- Joins a current `<` or `>` with what follows it without a gap. -/
def joinAngles : Parse Unit := do
  if ← isOneOf ["<", ">"] then
    let next ← ahead
    modify fun s =>
      match s.current, next with
      | some a, some b =>
        let joined := match a.token, b.token with
          | .punct x, .punct y =>
            if a.span.hi == b.span.lo
                && [">>", ">=", ">>>", ">>=", ">>>=", "<<", "<=", "<<="].contains (x ++ y) then
              some (x ++ y)
            else none
          | _, _ => none
        match joined with
        | some text =>
          { s with
            current := some { a with token := .punct text, span := ⟨a.span.lo, b.span.hi⟩ }
            ahead := none }
        | none => s
      | _, _ => s

end Parse

/-! ## Rules -/

/-- The rules that refer to each other in a circle. -/
inductive Nonterminal where
  | expr
  | assign
  | unary
  /-- An operand with the calls and accesses after it. -/
  | operand
  /-- What may follow an operand, for operators that bind more than `minimum`. -/
  | binaryTail (left : Node) (minimum : Nat)
  /-- An operand without calls, or the part of `new` up to its arguments. -/
  | memberOrNew (isNew : Bool)
  | statement (declares : Bool)
  | moduleItem
  | block
  | binding
  | type
  | params
  | object
  | decorators
  | element (start : Pos)
  | namespaceTail (start : Pos)

/-- How a rule hands over to another. -/
abbrev Descend := Nonterminal → Parse Node

end ScriptHost
