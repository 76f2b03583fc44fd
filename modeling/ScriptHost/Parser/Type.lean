import ScriptHost.Parser.Name
/-!
# Types

The rules for types, their parameters and arguments, and the members of
interfaces. A type reads `<` and `>` as single marks, so the tokens after a
type are looked at with the place marked as inside of one.
-/

namespace ScriptHost

namespace Parse

/-- Reads inside of a type. -/
def inType {α : Type} (op : Parse α) : Parse α := within ({ · with inType := true }) op

/-! ## Lists -/

/-- The lists that separators and a last mark delimit. -/
inductive ListKind where
  | enumMembers | heritage | tuple | typeList
deriving BEq

/-- Whether a list ends at the current token. -/
def ListKind.ends : ListKind → Parse Bool
  | .enumMembers => is "\x7d"
  | .heritage => isOneOf ["\x7b", "implements", "extends"]
  | .tuple => is "]"
  | .typeList => is ">"

/-- Reads a list with commas between its elements. -/
def delimited (kind : ListKind) (element : Parse Node) : Parse (List Node) :=
  repeatUntil [] fun acc => do
    if ← kind.ends then return .inr acc
    let e ← element
    let acc := acc ++ [e]
    if ← eat "," then return .inl acc
    if ← kind.ends then return .inr acc
    if kind == .enumMembers then
      let got ← currentDisplay
      noteHere (.expectedToken "," got)
      return .inl acc
    expect ","
    return .inl acc

/-- Reads without regard to the brackets around the place. -/
def outsideBrackets {α : Type} (op : Parse α) : Parse α := do
  let saved ← brackets
  setBrackets (saved.getLast?.toList)
  let a ← op
  setBrackets saved
  return a

/-- Reads type arguments from `<` on. -/
def typeArgs (p : Descend) : Parse Node := do
  let start ← pos
  let args ← inType do
    outsideBrackets do
      if ← is "<<" then cutShift else expect "<"
      delimited .typeList (p .type)
  setExprAllowed false
  expect ">"
  let span ← spanFrom start
  if args.isEmpty then note span .emptyTypeArgs
  return .mk .typeArgs span args

/-- Reads `: type`, or a type where the colon is passed already. -/
def typeAnn (p : Descend) (eatColon : Bool) (start : Pos) : Parse Node :=
  inType do
    if eatColon then
      let _ ← bump
    let t ← p .type
    node start .typeAnn [t]

/-- Reads `: type` if it is there. -/
def optionalTypeAnn (p : Descend) : Parse Node := do
  if (← typed) && (← is ":") then
    let start ← pos
    typeAnn p true start
  else return .none

/-- Reads a mark and the type after it if the mark is there. -/
def typeAfter (p : Descend) (mark : String) : Parse Node :=
  inType do
    if ← eat mark then p .type else return .none

/-- How the current token is named where a mark of a type is missing. -/
def optionalDisplay : Parse String := do
  match ← current with
  | some t => return "Some(" ++ t.token.display ++ ")"
  | none => return "None"

/-- Reads a mark, which must be there, and the type after it. -/
def typeAfterRequired (p : Descend) (mark : String) : Parse Node :=
  inType do
    unless ← eat mark do
      let got ← optionalDisplay
      fail (.unexpected got mark)
    p .type

/-- Reads the type that a function returns, which may say what a parameter is. -/
def returnType (p : Descend) (mark : String) : Parse Node :=
  inType do
    let start ← pos
    unless ← eat mark do
      let got ← optionalDisplay
      fail (.expectedToken mark got)
    let predStart ← pos
    let asserts ← is "asserts" <&&> aheadIsIdent
    if asserts then
      let _ ← bump
      let _ ← current
    let isPredicate ← isIdent <&&> aheadIs "is" <&&> notM lineBreakAhead
    unless asserts || isPredicate do return ← typeAnn p false start
    let name ← anyIdent
    let ann ←
      if isPredicate then do
        let _ ← bump
        let here ← pos
        typeAnn p false here
      else pure .none
    let pred ← node predStart (.typePredicate asserts) [name, ann]
    node start .typeAnn [pred]

/-! ## Type parameters -/

/-- Reads one type parameter. -/
def typeParam (p : Descend) (variance constant : Bool) : Parse Node := do
  let start ← pos
  let (isIn, isOut, isConst) ← repeatUntil (false, false, false) fun (isIn, isOut, isConst) => do
    match ← modifier ["public", "private", "protected", "readonly", "abstract", "const",
        "override", "in", "out"] false with
    | none => return .inr (isIn, isOut, isConst)
    | some "const" =>
      unless constant do note (← prevSpan) (.constTypeParamNotHere "const")
      return .inl (isIn, isOut, true)
    | some "in" =>
      if !variance then note (← prevSpan) (.varianceNotHere "in")
      else if isIn then note (← prevSpan) (.modifierSeen "in")
      else if isOut then note (← prevSpan) (.modifierOrder "in" "out")
      return .inl (true, isOut, isConst)
    | some "out" =>
      if !variance then note (← prevSpan) (.varianceNotHere "out")
      else if isOut then note (← prevSpan) (.modifierSeen "out")
      return .inl (isIn, true, isConst)
    | some other =>
      note (← prevSpan) (.modifierOnTypeParam other)
      return .inl (isIn, isOut, isConst)
  let name ← inType anyIdent
  let constraint ← typeAfter p "extends"
  let default ← typeAfter p "="
  node start (.typeParam isIn isOut isConst) [name, constraint, default]

/-- Whether type parameters start here. -/
def atTypeParams : Parse Bool := do
  if ← is "<" then return true
  match ← current with
  | some ⟨.jsxTagStart, _, _, _⟩ => return true
  | _ => return false

/-- Reads type parameters from `<` on. -/
def typeParams (p : Descend) (variance constant : Bool) : Parse Node :=
  inType do
    outsideBrackets do
      let start ← pos
      unless ← atTypeParams do unexpected "< (jsx tag start)"
      let _ ← bump
      let params ← delimited .typeList (typeParam p variance constant)
      expect ">"
      node start .typeParams params

/-- Reads type parameters if they are there. -/
def optionalTypeParams (p : Descend) (variance constant : Bool) : Parse Node := do
  if ← is "<" then typeParams p variance constant else return .none

/-! ## Names of types -/

/-- Reads the rest of a dotted name. -/
def dotted (anyWord : Bool) (first : Node) : Parse Node :=
  repeatUntil first fun left => do
    unless ← eat "." do return .inr left
    let dot ← pos
    unless (← is "#") || (← isWord) do
      note (.at_ dot) .expectedIdentifier
      return .inr left
    let right ← if anyWord then anyName else do
      let id ← ident false false
      pure (.mk (.name (id.identName?.getD "")) id.span [])
    return .inl (← node left.span.lo .qualified [left, right])

/-- Reads a dotted name. -/
def entityName (anyWord : Bool) : Parse Node := do
  let first ← anyIdent
  dotted anyWord first

/-- Reads a type by name. -/
def typeRef (p : Descend) : Parse Node := do
  let start ← pos
  let stray ← strayModifier
  let name ← entityName true
  let args ←
    if !(← lineBreak) && (← isOneOf ["<", "<<"]) then typeArgs p else pure .none
  if stray then note (← spanFrom start) .paramPropOutsideConstructor
  node start .typeRef [name, args]

/-- Reads the type of an imported module. -/
def importType (p : Descend) : Parse Node := do
  let start ← pos
  let _ ← bump
  expect "("
  let t ← required
  let argSpan := t.span
  let arg ← match t.token with
    | .str v raw => do
      let _ ← bump
      pure (Node.mk (.str v (some raw)) argSpan [])
    | _ => do
      let _ ← bump
      note argSpan .expectedString
      pure (Node.mk (.str "" none) argSpan [])
  let attributes ←
    if (← eat ",") && (← is "\x7b") then p .object else pure .none
  expect ")"
  let qualifier ← if ← eat "." then entityName false else pure .none
  let args ← if ← is "<" then typeArgs p else pure .none
  node start .importType [arg, attributes, qualifier, args]

/-- Reads `typeof x` as a type. -/
def typeQuery (p : Descend) : Parse Node := do
  let start ← pos
  let _ ← bump
  let name ← if ← is "import" then importType p else entityName true
  let args ←
    if !(← lineBreak) && (← is "<") then
      within ({ · with operatorsInType := false }) (typeArgs p)
    else pure .none
  node start .typeQuery [name, args]

/-! ## Members of object types -/

/-- Ends a member. -/
def memberEnd : Parse Unit := do
  unless ← eat "," do expectSemi

/-- Whether a pattern may be a parameter of a signature. -/
def isSignatureParam (pat : Node) : Bool :=
  match pat.form with
  | .ident .. | .arrayPat _ | .objectPat _ | .restPat => true
  | _ => false

/-- Reads the parameters of a signature with the closing parenthesis. -/
def signatureParams (p : Descend) : Parse Node := do
  let list ← p .params
  let patterns := list.items.map (·.child 1)
  unless patterns.all isSignatureParam do
    unexpected
      "an identifier, [ for an array pattern, \x7b for an object pattern or ... for a rest pattern"
  expect ")"
  return .ofList patterns

/-- Reads the return type of a signature if it is there. -/
def signatureResult (p : Descend) : Parse Node := do
  if ← is ":" then returnType p ":" else return .none

/-- Reads a member that can be called. -/
def callableMember (p : Descend) (form : Form) : Parse Node := do
  let start ← pos
  if form == .ctorSig then expect "new"
  let params ← optionalTypeParams p false true
  expect "("
  let args ← signatureParams p
  let result ← signatureResult p
  memberEnd
  node start form [args, result, params]

/-- Whether an index signature starts here. -/
def atIndexSignature : Parse Bool := do
  unless ← is "[" do return false
  let found ← lookAhead do
    let _ ← bump
    unless ← isWord do return false
    let _ ← bump
    isOneOf [":", ","]
  return found.getD false

/-- Reads an index signature if it is there. -/
def indexSignature? (p : Descend) (start : Pos) (isReadonly isStatic : Bool) :
    Parse (Option Node) := do
  unless ← atIndexSignature do return none
  expect "["
  let nameStart ← pos
  let id ← anyIdent
  let annStart ← pos
  if ← eat "," then note id.span .indexSignatureParams else expect ":"
  let ann ← typeAnn p false annStart
  let param := Node.mk id.form (← spanFrom nameStart) [ann]
  expect "]"
  let result ← optionalTypeAnn p
  memberEnd
  return some (← node start (.indexSignature { isReadonly, isStatic }) [.ofList [param], result])

/-- Reads the name of a member and tells whether it is computed. -/
def memberKey (p : Descend) : Parse (Node × Bool) := do
  if ← eat "[" then
    let key ← p .assign
    expect "]"
    return (key, true)
  within ({ · with inPropertyName := true }) do
    let t ← required
    match t.token with
    | .num .. => return (← literal, false)
    | .str .. => return (← literal, false)
    | _ =>
      let key ← memberName
      if key.form matches .privateName .. then note key.span .privateNameInInterface
      return (key, false)

/-- Reads a member of an object type. -/
def typeMember (p : Descend) : Parse Node := do
  if ← isOneOf ["(", "<"] then return ← callableMember p .callSig
  if ← is "new" then
    let found ← lookAhead do
      let _ ← bump
      isOneOf ["(", "<"]
    if found.getD false then return ← callableMember p .ctorSig
  let start ← pos
  let isReadonly := (← modifier ["readonly"] false).isSome
  if let some m ← indexSignature? p start isReadonly false then return m
  let accessor ← attempt do
    let start ← pos
    if isReadonly then return none
    let isGet ← eat "get"
    unless isGet do expect "set"
    let (key, isComputed) ← memberKey p
    expect "("
    if isGet then
      expect ")"
      let ann ← optionalTypeAnn p
      memberEnd
      return some (← node start (.getSig isComputed) [key, ann])
    let params ← signatureParams p
    match params.items with
    | [] => return none
    | first :: _ =>
      memberEnd
      return some (← node start (.setSig isComputed) [key, first])
  if let some m := accessor then return m
  let (key, isComputed) ← memberKey p
  let isOptional ← eat "?"
  if ← isOneOf ["(", "<"] then
    if isReadonly then fail .readonlyMethod
    let params ← optionalTypeParams p false true
    expect "("
    let args ← signatureParams p
    let result ← signatureResult p
    memberEnd
    node start (.methodSig isComputed isOptional) [key, args, result, params]
  else
    let ann ← optionalTypeAnn p
    memberEnd
    node start (.propSig isReadonly isComputed isOptional) [key, ann]

/-- Reads the members of an object type with the braces around them. -/
def typeMembers (p : Descend) : Parse (List Node) := do
  expect "\x7b"
  let members ← repeatUntil [] fun acc => do
    if ← is "\x7d" then return .inr acc
    return .inl (acc ++ [← typeMember p])
  expect "\x7d"
  return members

/-! ## Types -/

/-- Whether a mapped type starts here. -/
def atMappedType : Parse Bool := do
  let found ← lookAhead do
    let _ ← bump
    if ← isOneOf ["+", "-"] then
      let _ ← bump
      return ← is "readonly"
    if ← is "readonly" then
      let _ ← bump
    unless ← is "[" do return false
    let _ ← bump
    unless ← isIdent do return false
    let _ ← bump
    is "in"
  return found.getD false

/-- Reads a mark of a mapped type. -/
def mappedMark (name : String) : Parse MappedMark := do
  if ← isOneOf ["+", "-"] then
    let isAdded ← is "+"
    let _ ← bump
    expect name
    return if isAdded then .added else .removed
  else if ← eat name then return .bare
  else return .absent

/-- Reads a mapped type. -/
def mappedType (p : Descend) : Parse Node := do
  let start ← pos
  expect "\x7b"
  let readonlyMark ← mappedMark "readonly"
  expect "["
  let paramStart ← pos
  let name ← anyIdent
  let constraint ← typeAfterRequired p "in"
  let param ← node paramStart (.typeParam false false false) [name, constraint, .none]
  let nameType ← if ← eat "as" then p .type else pure .none
  expect "]"
  let optionalMark ← mappedMark "?"
  let value ← typeAfter p ":"
  expectSemi
  expect "\x7d"
  node start (.mappedType readonlyMark optionalMark) [param, nameType, value]

/-- Reads an element of a tuple type. -/
def tupleElement (p : Descend) : Parse Node := do
  let start ← pos
  let label ← attempt do
    let start ← pos
    let isRest ← eat "..."
    let nameStart ← pos
    let w ← word
    let nameSpan ← spanFrom nameStart
    let isOptional ← eat "?"
    let stop := (← prevSpan).hi
    let nameSpan : Span := if isOptional then ⟨nameSpan.lo, stop⟩ else nameSpan
    expect ":"
    let id := Node.mk (.ident w 0 isOptional) nameSpan []
    if isRest then return some (← node start .restPat [id, .none])
    return some id
  let label := Node.ofOption label
  if ← eat "..." then
    let t ← p .type
    let rest ← node start .restType [t]
    return ← node start .tupleElement [label, rest]
  let t ← p .type
  if ← eat "?" then
    let opt ← node start .optionalType [t]
    return ← node start .tupleElement [label, opt]
  node start .tupleElement [label, t]

/-- Reads a tuple type. -/
def tupleType (p : Descend) : Parse Node := do
  let start ← pos
  expect "["
  let elems ← delimited .tuple (tupleElement p)
  expect "]"
  let (_, misplaced) := elems.foldl (fun (seen, bad) e =>
    match (e.child 1).form with
    | .restType => (seen, bad)
    | .optionalType => (true, bad)
    | _ => (seen, bad || seen)) (false, false)
  if misplaced then failAt (← spanFrom start) .requiredAfterOptional
  node start .tupleType elems

/-- The words that are types by themselves. -/
def typeWords : List String :=
  ["void", "null", "any", "boolean", "bigint", "never", "number", "object", "string", "symbol",
   "unknown", "undefined", "intrinsic"]

/-- Reads `this` in a type, which may say what `this` is. -/
def thisType (p : Descend) (start : Pos) (asserts : Bool) : Parse Node := do
  let thisStart ← pos
  let _ ← bump
  let this ← node thisStart .thisType []
  let isPredicate := !(← lineBreak) && (← is "is")
  if asserts || isPredicate then
    let ann ←
      if ← eat "is" then do
        let here ← pos
        typeAnn p false here
      else pure .none
    node start (.typePredicate asserts) [this, ann]
  else return this

/-- Reads a negative number in a type. -/
def negativeLiteral : Parse Node := do
  let start ← pos
  let _ ← bump
  let t ← required
  match t.token with
  | .num v raw =>
    let numStart ← pos
    let _ ← bump
    let lit ← node numStart (.num (-v) (some ("-" ++ raw))) []
    node start .litType [lit]
  | .bigint raw =>
    let numStart ← pos
    let _ ← bump
    let lit ← node numStart (.bigint ("-" ++ raw)) []
    node start .litType [lit]
  | _ => unexpected "numeric literal or bigint literal"

/-- Reads a type that no operator or bracket follows. -/
def simpleType (p : Descend) : Parse Node := do
  let start ← pos
  let t ← required
  let literalType : Parse Node := do
    let lit ← literal
    node start .litType [lit]
  let named : Parse Node := do
    if ← (is "asserts" <&&> aheadIs "this") then
      let _ ← bump
      return ← thisType p start true
    let isWordType := match t.token.word? with
      | some w => typeWords.contains w
      | none => false
    if ← (pure isWordType <&&> notM (aheadIs ".")) then
      let _ ← bump
      return ← node start (.typeKeyword (t.token.word?.getD "")) []
    typeRef p
  match t.token with
  | .ident _ | .keyword "void" | .keyword "yield" | .keyword "null" | .keyword "await"
  | .keyword "break" => named
  | .bigint _ | .str .. | .num .. | .keyword "true" | .keyword "false" => literalType
  | .punct "`" =>
    let lit ← templateOf .templateType false (p .type)
    node start .litType [lit]
  | .punct "-" => negativeLiteral
  | .keyword "import" => importType p
  | .keyword "this" => thisType p start false
  | .keyword "typeof" => typeQuery p
  | .punct "\x7b" =>
    if ← atMappedType then mappedType p
    else
      let members ← typeMembers p
      node start .typeLit members
  | .punct "[" => tupleType p
  | .punct "(" =>
    let _ ← bump
    let inner ← p .type
    expect ")"
    node start .parenType [inner]
  | _ =>
    unexpected ("an identifier, void, yield, null, await, break, a string literal, " ++
      "a numeric literal, true, false, `, -, import, this, typeof, \x7b, [, (")

/-- Reads a type with the brackets after it. -/
def bracketType (p : Descend) : Parse Node := do
  let _ ← modifier ["readonly"] false
  let base ← simpleType p
  repeatUntil base fun t => do
    if (← lineBreak) then return .inr t
    unless ← eat "[" do return .inr t
    if ← eat "]" then return .inl (← node t.span.lo .arrayType [t])
    let index ← p .type
    expect "]"
    return .inl (← node t.span.lo .indexedAccess [t, index])

/-- Whether a function type starts here for certain. -/
def atFunctionType (p : Descend) : Parse Bool := do
  if ← is "<" then return true
  unless ← is "(" do return false
  let found ← lookAhead do
    let _ ← bump
    if ← isOneOf [")", "..."] then return true
    let _ ← strayModifier
    let isParam ←
      if ← isWord then do
        let _ ← bump
        pure true
      else if ← isOneOf ["\x7b", "["] then
        match ← orError (p .binding) with
        | .ok _ => pure true
        | .error _ => pure false
      else pure false
    unless isParam do return false
    if ← isOneOf [":", ",", "?", "="] then return true
    if ← eat ")" then return ← is "=>"
    return false
  return found.getD false

/-- Reads the type of a function or constructor. -/
def functionType (p : Descend) (isFunction : Bool) : Parse Node := do
  let start ← pos
  let isAbstract ← if isFunction then pure false else eat "abstract"
  unless isFunction do expect "new"
  let params ← optionalTypeParams p false true
  expect "("
  let args ← signatureParams p
  let result ← returnType p "=>"
  node start (if isFunction then .fnType else .ctorType isAbstract) [args, params, result]

/-- Reads what `infer` introduces. -/
def inferType (nonConditional : Parse Node) : Parse Node := do
  let start ← pos
  let _ ← bump
  let name ← anyIdent
  let constraint ← attempt do
    expect "extends"
    let c ← nonConditional
    if (← place).noConditionalTypes || !(← is "?") then return some c
    return none
  let param ← node name.span.lo (.typeParam false false false)
    [name, .ofOption constraint, .none]
  node start .inferType [param.withSpan name.span]

/-- Reads the operators before a type. -/
def operatorType (p : Descend) (nonConditional : Parse Node) : Nat → Parse Node
  | 0 => failAtEnd
  | fuel + 1 => do
    let start ← pos
    let op ←
      if ← is "keyof" then pure (some TypeOp.keyOf)
      else if ← is "unique" then pure (some TypeOp.unique)
      else if ← is "readonly" then pure (some TypeOp.readonly)
      else pure none
    match op with
    | some op =>
      let _ ← bump
      let inner ← operatorType p nonConditional fuel
      node start (.typeOp op) [inner]
    | none => if ← is "infer" then inferType nonConditional else bracketType p

/-- Reads types joined by an operator. -/
def joinedType (form : Form) (mark : String) (part : Parse Node) : Parse Node := do
  let start ← pos
  let _ ← eat mark
  let first ← part
  unless ← is mark do return first
  let parts ← repeatUntil [first] fun acc => do
    unless ← eat mark do return .inr acc
    return .inl (acc ++ [← part])
  node start form parts

/-- Reads a type that is not conditional, with `fuel` for its nesting. -/
def plainTypeWith (p : Descend) : Nat → Parse Node
  | 0 => failAtEnd
  | fuel + 1 => do
    if ← atFunctionType p then return ← functionType p true
    if ← (is "abstract" <&&> aheadIs "new" <||> is "new") then
      return ← functionType p false
    let nested : Parse Node := plainTypeWith p fuel
    let size := (← get).scanner.size + 1
    joinedType .unionType "|" (joinedType .intersectionType "&" (operatorType p nested size))

/-- Reads a type that is not conditional. -/
def plainType (p : Descend) : Parse Node := do
  plainTypeWith p ((← get).scanner.size + 1)

/-- Reads a type. -/
def typeExpr (p : Descend) : Parse Node := do
  let start ← pos
  within ({ · with noConditionalTypes := false }) do
    let checked ← plainType p
    if (← lineBreak) then return checked
    unless ← eat "extends" do return checked
    let extended ← within ({ · with noConditionalTypes := true }) (plainType p)
    expect "?"
    let yes ← p .type
    expect ":"
    let no ← p .type
    node start .condType [checked, extended, yes, no]

end Parse

end ScriptHost
