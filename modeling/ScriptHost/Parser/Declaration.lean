import ScriptHost.Parser.Expression
/-!
# Typed declarations

The rules for interfaces, type aliases, enums and namespaces, and for
declarations that only say what exists elsewhere.
-/

namespace ScriptHost

namespace Node

/-- The same declaration marked as one of something that exists elsewhere. -/
def asDeclare (d : Node) : Node :=
  match d.form with
  | .fnDecl _ => d.withForm (.fnDecl true)
  | .classDecl _ => d.withForm (.classDecl true)
  | .varDecl kind _ => d.withForm (.varDecl kind true)
  | .interfaceDecl _ => d.withForm (.interfaceDecl true)
  | .typeAlias _ => d.withForm (.typeAlias true)
  | .enumDecl _ isConst => d.withForm (.enumDecl true isConst)
  | .moduleDecl _ isGlobal => d.withForm (.moduleDecl true isGlobal)
  | _ => d

end Node

namespace Parse

/-! ## Variables -/

/-- Reads one variable with its type and value. -/
def declarator (p : Descend) (inLoop : Bool) (kind : VarKind) : Parse Node := do
  let start ← pos
  let pat ← binding p (kind != .var)
  let isDefinite ←
    if (← typed) && (pat.form matches .ident ..) then eat "!" else pure false
  let pat := pat.withTypeAnn (← optionalTypeAnn p)
  let init ←
    if !inLoop || !(← isOneOf ["in", "of"]) then do
      if ← eat "=" then p .assign
      else if (← place).inDeclare then pure .none
      else if kind == .const then
        note (← spanFrom start) .constWithoutInit
        pure .none
      else
        unless pat.form matches .ident .. do failAt (← spanFrom start) .patternWithoutInit
        pure .none
    else pure .none
  node start (.declarator isDefinite) [pat, init]

/-- Passes what follows a declaration that does not end where it should. -/
def skipToSemi (p : Descend) : Parse Unit := do
  noteHere .expectedSemicolon
  let _ ← orError (p .expr)
  repeatUntil () fun _ => do
    if ← eatSemi then return .inr ()
    let _ ← bump
    return .inl ()

/-- Reads a declaration of variables. -/
def varDecl (p : Descend) (inLoop : Bool) : Parse Node := do
  let start ← pos
  let keyword ← bump
  let kind : VarKind :=
    if keyword.is "const" then .const else if keyword.is "let" then .lexical else .var
  let keywordSpan ← spanFrom start
  let isBare ←
    if (← typed) && inLoop && (← isOneOf ["in", "of"]) then do
      let found ← lookAhead do
        unless ← (eat "of" <||> eat "in") do return false
        let _ ← p .assign
        expect ")"
        return true
      pure (found.getD false)
    else pure false
  if isBare then
    note (.at_ keywordSpan.hi) .emptyDeclarationList
    return ← node start (.varDecl kind false) []
  let includes := kind != .var || !inLoop
  let one : Parse Node :=
    within (fun here => if includes then { here with includeIn := true } else here)
      (declarator p inLoop kind)
  let vars ← repeatUntil [] fun acc => do
    if ← isSemi then
      let prev ← prevSpan
      note (if prev == keywordSpan then .at_ prev.hi else prev) .trailingComma
      return .inr acc
    let v ← one
    if ← eat "," then return .inl (acc ++ [v])
    return .inr (acc ++ [v])
  unless inLoop do
    unless ← eatSemi do skipToSemi p
  node start (.varDecl kind false) vars

/-! ## Interfaces, aliases and enums -/

/-- Reads an interface after its keyword. -/
def interfaceTail (p : Descend) (start : Pos) : Parse Node := do
  let id ← anyIdent
  if reservedTypeNames.contains (id.identName?.getD "") then note id.span .invalidInterfaceName
  let params ← optionalTypeParams p true false
  let bases ← if ← eat "extends" then heritage p else pure []
  if ← is "extends" then
    noteHere .extendsSeen
    repeatUntil () fun _ => do
      if (← atEnd) || (← is "\x7b") then return .inr ()
      let _ ← bump
      return .inl ()
  let members ← inType (typeMembers p)
  node start (.interfaceDecl false) [id, params, .ofList bases, .ofList members]

/-- Reads a type alias after its keyword. -/
def aliasTail (p : Descend) (start : Pos) : Parse Node := do
  let id ← anyIdent
  let params ← optionalTypeParams p true false
  let t ← typeAfterRequired p "="
  expectSemi
  node start (.typeAlias false) [id, params, t]

/-- Reads the name of a member of an enum. -/
def enumKey (p : Descend) : Parse Node := do
  let start ← pos
  let t ← required
  match t.token with
  | .str .. => literal
  | .num v raw =>
    let _ ← bump
    let span ← spanFrom start
    note span .numericEnumMember
    return .mk (.str (numberText v) (some ("\"" ++ raw ++ "\""))) span []
  | .punct "[" =>
    let _ ← bump
    let e ← p .expr
    let span ← spanFrom start
    let _ ← bump
    match e.form with
    | .str .. => return e
    | .template =>
      note span .computedEnumMember
      match (e.child 0).items with
      | [q] =>
        match q.form with
        | .quasi cooked _ => return .mk (.str (cooked.getD "") none) q.span []
        | _ => return e
      | _ => return .mk (.ident "" 0 false) span []
    | _ =>
      note span .computedEnumMember
      return .mk (.ident "" 0 false) span []
  | _ => anyIdent

/-- Reads a member of an enum. -/
def enumMember (p : Descend) : Parse Node := do
  let start ← pos
  let key ← enumKey p
  let init ←
    if ← eat "=" then p .assign
    else if (← is ",") || (← is "\x7d") then pure .none
    else do
      let here ← pos
      let _ ← bump
      modify fun s =>
        { s with current := some ⟨.punct ",", ⟨here, here⟩, false, []⟩ }
      note (.at_ here) .expectedSemicolon
      pure .none
  node start .enumMember [key, init]

/-- Reads an enum after its keyword. -/
def enumTail (p : Descend) (start : Pos) (isConst : Bool) : Parse Node := do
  let id ← anyIdent
  expect "\x7b"
  let members ← delimited .enumMembers (enumMember p)
  expect "\x7d"
  node start (.enumDecl false isConst) [id, .ofList members]

/-! ## Namespaces -/

/-- Reads items up to a closing brace, which is passed. -/
def itemsUntilBrace (item : Parse Node) : Parse (List Node) :=
  repeatUntil [] fun acc => do
    if ← atEnd then
      noteHere (.expectedToken "\x7d" "<eof>")
      return .inr acc
    if ← eat "\x7d" then return .inr acc
    return .inl (acc ++ [← item])

/-- Reads the block of a namespace. -/
def namespaceBlock (p : Descend) : Parse Node := do
  let start ← pos
  expect "\x7b"
  let items ← within ({ · with atTop := true }) (itemsUntilBrace (p .moduleItem))
  node start .moduleBlock items

/-- Reads a namespace after its keyword. -/
def namespaceTail (p : Descend) (start : Pos) : Parse Node := do
  let id ← anyIdent
  let body ←
    if ← eat "." then do
      let here ← pos
      let inner ← p (.namespaceTail here)
      pure (Node.mk (.nestedNamespace false false) inner.span inner.children)
    else namespaceBlock p
  node start (.moduleDecl false false) [id, body]

/-- Reads `global` or the name of a module with what it declares. -/
def ambientModule (p : Descend) (start : Pos) : Parse Node := do
  let (id, isGlobal) ←
    if ← is "global" then pure (← anyIdent, true)
    else do
      let t ← required
      match t.token with
      | .str .. => pure (← literal, false)
      | _ => unexpected "global or a string literal"
  let body ←
    if ← is "\x7b" then namespaceBlock p
    else do
      expectSemi
      pure .none
  node start (.moduleDecl false isGlobal) [id, body]

/-! ## Declarations that start with a word -/

/-- Reads the declaration that a word starts, if any; `isCurrent` tells that the word is the
current token and not passed yet. -/
def typedDecl? (p : Descend) (start : Pos) (decorators : List Node) (name : String)
    (isCurrent : Bool) : Parse (Option Node) := do
  let pass : Parse Unit := do
    if isCurrent then
      let _ ← bump
  match name with
  | "abstract" =>
    if isCurrent || ((← is "class") && !(← lineBreak)) then
      pass
      return some (← classDecl p start decorators true)
    return none
  | "enum" =>
    if isCurrent || (← isIdent) then
      pass
      return some (← enumTail p start false)
    return none
  | "interface" =>
    if isCurrent || (← isIdent) then
      pass
      return some (← interfaceTail p start)
    return none
  | "module" =>
    if ← lineBreak then return none
    pass
    if ← isString then return some (← ambientModule p start)
    if isCurrent || (← isIdent) then return some (← namespaceTail p start)
    return none
  | "namespace" =>
    if isCurrent || (← isIdent) then
      pass
      return some (← namespaceTail p start)
    return none
  | "type" =>
    if isCurrent || (!(← lineBreak) && (← isIdent)) then
      pass
      return some (← aliasTail p start)
    return none
  | _ => return none

/-- Reads what `declare` declares, if anything. -/
def declared? (p : Descend) (start : Pos) (decorators : List Node) : Parse (Option Node) := do
  if (← place).inDeclare && !(← get).dialect.ambient then
    note (← spanFrom start) .declareInAmbient
  let found ← within ({ · with inDeclare := true }) do
    if ← is "function" then return some (← functionDecl p decorators none)
    if ← is "class" then return some (← classDecl p start decorators false)
    if ← (is "const" <&&> aheadIs "enum") then
      let _ ← bump
      let _ ← bump
      return some (← enumTail p start true)
    if ← isOneOf ["const", "var", "let"] then return some (← varDecl p false)
    if ← is "global" then return some (← ambientModule p start)
    match (← current).bind (·.token.word?) with
    | some w => typedDecl? p start decorators w true
    | none => return none
  return found.map fun d => (d.asDeclare).withSpan ⟨start, d.span.hi⟩

/-- Reads the declaration that an expression statement turns out to start, if any. -/
def declAfterIdent? (p : Descend) (decorators : List Node) (id : Node) : Parse (Option Node) := do
  let start := id.span.lo
  match id.identName? with
  | some "declare" => declared? p start decorators
  | some "global" =>
    if ← is "\x7b" then
      let body ← namespaceBlock p
      return some (← node start (.moduleDecl false true) [id, body])
    return none
  | some name => typedDecl? p start decorators name false
  | none => return none

end Parse

end ScriptHost
