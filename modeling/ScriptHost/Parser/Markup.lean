import ScriptHost.Parser.Type
/-!
# Markup in expressions

Elements `<name …>…</name>` and fragments `<>…</>` inside expressions, read
when the scanner says that a tag starts.
-/

namespace ScriptHost

namespace Parse

/-! ## Names -/

/-- Whether the current token starts a tag. -/
def atTagStart : Parse Bool := do
  match ← current with
  | some ⟨.jsxTagStart, _, _, _⟩ => return true
  | _ => return false

/-- Passes the end of a tag if it is here. -/
def eatTagEnd : Parse Bool := do
  match ← current with
  | some ⟨.jsxTagEnd, _, _, _⟩ =>
    let _ ← bump
    return true
  | _ => return false

/-- Reads a name in a tag. -/
def tagIdent : Parse Node := do
  let t ← required
  match t.token with
  | .jsxName w =>
    let _ ← bump
    return .mk (.ident w 0 false) t.span []
  | _ => unexpected "jsx identifier"

/-- The same node as a property name. -/
def asName (id : Node) : Node := .mk (.name (id.identName?.getD "")) id.span []

/-- Reads a name in a tag with an optional space of names. -/
def tagNamespaced : Parse Node := do
  let start ← pos
  let first ← tagIdent
  unless ← eat ":" do return first
  let name ← tagIdent
  node start .jsxNamespaced [asName first, asName name]

/-- Reads the name of an element. -/
def tagName : Parse Node := do
  let start ← pos
  let first ← tagNamespaced
  if first.form matches .jsxNamespaced then return first
  repeatUntil first fun left => do
    unless ← eat "." do return .inr left
    let name ← tagIdent
    return .inl (← node start .jsxMember [left, asName name])

/-- The text of the name of an element. -/
def tagText : Node → String
  | .mk (.ident name _ _) _ _ => name
  | .mk (.name text) _ _ => text
  | .mk .jsxNamespaced _ [a, b] => tagText a ++ ":" ++ tagText b
  | .mk .jsxMember _ [a, b] => tagText a ++ "." ++ tagText b
  | _ => ""

/-! ## Parts -/

/-- Reads `{…}` with an expression or nothing in it. -/
def markupContainer (p : Descend) : Parse Node := do
  let start ← pos
  let _ ← bump
  let inner ←
    if ← is "\x7d" then do
      let here := (← prevSpan).hi
      let stop ← pos
      pure (Node.mk .jsxEmpty ⟨here, stop⟩ [])
    else p .expr
  expect "\x7d"
  node start .jsxContainer [inner]

/-- Reads an attribute. -/
def markupAttribute (p : Descend) : Parse Node := do
  let start ← pos
  if ← eat "\x7b" then
    expect "..."
    let e ← p .assign
    expect "\x7d"
    return ← node start .spread [e]
  let name ← tagNamespaced
  let name := if name.form matches .ident .. then asName name else name
  let value ←
    if ← eat "=" then
      within ({ · with inCondition := false, expectsColon := false }) do
        let valueStart ← pos
        let t ← required
        match t.token with
        | .punct "\x7b" =>
          let c ← markupContainer p
          if (c.child 0).form matches .jsxEmpty then
            failAt (← spanFrom valueStart) .emptyAttribute
          return c
        | .str .. => literal
        | .jsxTagStart => p (.element valueStart)
        | _ => fail .invalidAttributeValue
    else pure .none
  node start .jsxAttr [name, value]

/-- Reads what a tag holds after `<`: the name and attributes of an element, or nothing. -/
def openingTag (p : Descend) (start : Pos) (isForced : Bool) : Parse (Option Node) := do
  if ← eatTagEnd then return none
  let name ← tagName
  let args ←
    if (← typed) && (← is "<") then do
      let args ← attempt (do return some (← typeArgs p))
      pure (Node.ofOption args)
    else pure .none
  let attrs ← repeatUntil [] fun acc => do
    if (← atEnd) || (← is "/") then return .inr acc
    if let some ⟨.jsxTagEnd, _, _, _⟩ ← current then return .inr acc
    return .inl (acc ++ [← markupAttribute p])
  let selfClosing ← eat "/"
  unless ← eatTagEnd do
    unless ← (pure isForced <&&> eat ">") do unexpected "> (jsx closing tag)"
  return some (← node start (.jsxOpening selfClosing) [name, .ofList attrs, args])

/-- Reads a closing tag after `</`. -/
def closingTag (start : Pos) : Parse Node := do
  if ← eatTagEnd then return ← node start .jsxClosing [.none]
  let name ← tagName
  unless ← eatTagEnd do
    if ← atEnd then failAtEnd
    let got ← currentDisplay
    fail (.expectedToken "> (jsx tag end)" got)
  node start .jsxClosing [name]

/-- Reads what stands between tags up to the closing tag. -/
def elementChildren (p : Descend) : Parse (List Node × Node) :=
  repeatUntil [] fun acc => do
    let t ← required
    let start := t.span.lo
    match t.token with
    | .jsxTagStart =>
      if ← aheadIs "/" then
        let _ ← bump
        let _ ← current
        let _ ← bump
        let closing ← closingTag start
        return .inr (acc, closing)
      return .inl (acc ++ [← p (.element start)])
    | .jsxText raw =>
      let _ ← bump
      return .inl (acc ++ [.mk (.jsxText raw) t.span []])
    | .punct "\x7b" =>
      if ← aheadIs "..." then
        let _ ← bump
        let _ ← bump
        let e ← p .expr
        expect "\x7d"
        return .inl (acc ++ [← node start .jsxSpreadChild [e]])
      return .inl (acc ++ [← markupContainer p])
    | _ => unexpected "< (jsx tag start), jsx text or \x7b"

/-- Reads an element or fragment from its first tag on. -/
def element (p : Descend) (start : Pos) : Parse Node := do
  let isForced ← is "<"
  let _ ← bump
  within ({ · with operatorsInType := false }) do
    match ← openingTag p start isForced with
    | none =>
      let (children, closing) ← elementChildren p
      if (closing.child 0).isSome then failAt closing.span .expectedClosingFragment
      node start .jsxFragment [.ofList children]
    | some opening =>
      if opening.form matches .jsxOpening true then
        return ← node start .jsxElement [opening, .ofList [], .none]
      let (children, closing) ← elementChildren p
      let name := tagText (opening.child 0)
      if tagText (closing.child 0) != name then failAt closing.span (.expectedClosingTag name)
      node start .jsxElement [opening, .ofList children, closing]

end Parse

end ScriptHost
