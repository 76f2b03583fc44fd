import ScriptHost.Parser.State
/-!
# Names and literals

What names a thing: identifiers, which must not be reserved words, and the
names of properties, members and exports, which may be. Literals and templates
stand here too, because they may be names of properties.
-/

namespace ScriptHost

namespace Parse

/-! ## Names -/

/-- Reads any word. -/
def word : Parse String := do
  let t ← required
  match t.token.word? with
  | some w =>
    let _ ← bump
    return w
  | none => fail .expectedIdent

/-- Reads a name that may be any word. -/
def anyName : Parse Node := do
  let start ← pos
  let w ← word
  node start (.name w) []

/-- Reads the name of something that is declared or referred to by any word. -/
def anyIdent : Parse Node := do
  let start ← pos
  let w ← word
  node start (.ident w 0 false) []

/-- The words that only old programs may use as names. -/
def strictWords : List String :=
  ["static", "implements", "interface", "let", "package", "private", "protected", "public",
   "yield", "enum"]

/-- Reads an identifier; `yield` and `await` count as one if asked for. -/
def ident (allowYield allowAwait : Bool) : Parse Node := do
  let start ← pos
  let t ← required
  let some w := t.token.word? | fail .expectedIdent
  let _ ← bump
  let span ← prevSpan
  if strictWords.contains w then noteStrict span (.reservedInStrict w)
  let here ← place
  match t.token with
  | .ident _ =>
    if w == "arguments" && here.inClassField then note span .argumentsInClassField
  | _ =>
    if w == "await" then
      unless here.inDeclare do
        if here.inStaticBlock then failAt span .expectedIdent
        failAt span .awaitAsIdent
    else if w == "this" && (← typed) then pure ()
    else if w == "let" then pure ()
    else if w == "yield" && allowYield then pure ()
    else if w == "await" && allowAwait then pure ()
    else failAt span .expectedIdent
  node start (.ident w 0 false) []

/-- The identifiers that may not be bound. -/
def isUnbindable (name : String) : Bool := name == "eval" || name == "arguments"

/-- Reads an identifier that is bound here. -/
def bindingIdent (refuseLet : Bool) : Parse Node := do
  if refuseLet then
    if ← is "let" then unexpected "let is reserved in const, let, class declaration"
  let id ← ident true true
  let name := id.identName?.getD ""
  if isUnbindable name then noteStrict id.span .evalOrArguments
  let here ← place
  if (here.inAsync || here.inStaticBlock) && name == "await" then note id.span .expectedIdent
  if here.inGenerator && name == "yield" then note id.span .expectedIdent
  return id

/-- Reads the name of a function or class, which may be left out unless it is needed. -/
def declaredIdent (isNeeded refuseLet : Bool) : Parse Node := do
  if isNeeded then bindingIdent refuseLet
  else if ← isIdent then bindingIdent refuseLet
  else return .none

/-- Reads a private name. -/
def privateName : Parse Node := do
  let start ← pos
  let _ ← bump
  let w ← word
  node start (.privateName w 0) []

/-- Reads a name that may be private. -/
def memberName : Parse Node := do
  if ← is "#" then privateName else anyName

/-! ## Literals -/

/-- Reads a literal, which must be there. -/
def literal : Parse Node := do
  let start ← pos
  let t ← required
  let make (f : Form) : Parse Node := do
    let _ ← bump
    node start f []
  match t.token with
  | .keyword "null" => make .null
  | .keyword "true" => make (.bool true)
  | .keyword "false" => make (.bool false)
  | .str v raw => make (.str v (some raw))
  | .num v raw => make (.num v (some raw))
  | .bigint raw => make (.bigint raw)
  | _ => fail .expectedExpression

/-- Reads a piece of a template and tells whether the template ends there. -/
def quasi (isTagged : Bool) : Parse (Node × Bool) := do
  let start ← pos
  let t ← required
  match t.token with
  | .template cooked raw =>
    let _ ← bump
    let value ← match cooked with
      | .ok v => pure (some v)
      | .error e => if isTagged then pure none else throw e
    let isLast ← is "`"
    return (← node start (.quasi value raw) [], isLast)
  | _ => unexpected "template token"

/-- Reads a template whose holes are read by `hole`. -/
def templateOf (form : Form) (isTagged : Bool) (hole : Parse Node) : Parse Node := do
  let start ← pos
  let _ ← bump
  let (first, isLast) ← quasi isTagged
  let (quasis, holes) ← repeatUntil ([first], ([] : List Node), isLast)
    fun (quasis, holes, isLast) => do
      if isLast then return .inr (quasis, holes)
      expect "$\x7b"
      let h ← hole
      expect "\x7d"
      let (q, isLast) ← quasi isTagged
      return .inl (quasis ++ [q], holes ++ [h], isLast)
  expect "`"
  node start form [.ofList quasis, .ofList holes]

/-! ## Names of properties -/

/-- Whether a word may follow a modifier, so that the modifier is none of the names itself. -/
def canFollowModifier : Parse Bool := do
  if ← lineBreak then return false
  if ← isOneOf ["[", "\x7b", "*", "...", "#"] then return true
  if ← isWord then return true
  match ← current with
  | some ⟨.str .., _, _, _⟩ => return true
  | some ⟨.num .., _, _, _⟩ => return true
  | _ => return false

/-- Reads one of the given modifiers if the current word is one. -/
def modifier (allowed : List String) (stopAtStaticBlock : Bool) : Parse (Option String) := do
  unless ← typed do return none
  let t ← required
  let name := match t.token with
    | .ident w => some w
    | .keyword "in" => some "in"
    | .keyword "const" => some "const"
    | _ => none
  match name with
  | none => return none
  | some w =>
    unless allowed.contains w do return none
    if stopAtStaticBlock && w == "static" then
      if ← aheadIs "\x7b" then return none
    attempt do
      let _ ← bump
      if ← canFollowModifier then return some w
      return none

/-- Passes a modifier of a parameter where it does not belong. -/
def strayModifier : Parse Bool := do
  unless ← typed do return false
  if ← isOneOf ["public", "protected", "private", "readonly"] then
    if ← (aheadIsWord <||> aheadIs "\x7b" <||> aheadIs "[") then
      let _ ← bump
      return true
  return false

/-- Reads the name of a property. -/
def propName (p : Descend) : Parse Node :=
  within ({ · with inPropertyName := true }) do
    let start ← pos
    let t ← required
    match t.token with
    | .str v raw =>
      let _ ← bump
      node start (.str v (some raw)) []
    | .num v raw =>
      let _ ← bump
      node start (.num v (some raw)) []
    | .bigint raw =>
      let _ ← bump
      node start (.bigint raw) []
    | .punct "[" =>
      let _ ← bump
      let innerStart ← pos
      let first ← within ({ · with includeIn := true }) (p .assign)
      let key ←
        if (← typed) && (← is ",") then do
          let parts ← repeatUntil [first] fun acc => do
            unless ← eat "," do return .inr acc
            return .inl (acc ++ [← within ({ · with includeIn := true }) (p .assign)])
          note (← spanFrom innerStart) .commaInComputedKey
          node innerStart .seq parts
        else pure first
      expect "]"
      node start .computed [key]
    | other =>
      match other.word? with
      | some w =>
        let _ ← bump
        node start (.name w) []
      | none => unexpected "identifier, string literal, numeric literal or [ for the computed key"

/-- Reads a name by which a module exports something. -/
def exportName : Parse Node := do
  let t ← required
  match t.token with
  | .str v raw =>
    let start ← pos
    let _ ← bump
    node start (.str v (some raw)) []
  | other => if other.isWord then anyIdent else unexpected "identifier or string"

end Parse

end ScriptHost
