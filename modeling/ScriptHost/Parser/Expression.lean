import ScriptHost.Parser.Function
import ScriptHost.Parser.Markup
/-!
# Expressions

The rules for expressions, from operands over accesses and calls to operators
and assignments. What stands in parentheses may be an expression or the
parameters of an arrow function; it is read as expressions and, when the arrow
comes, read anew as patterns.
-/

namespace ScriptHost

namespace Node

/-- Whether an expression is an optional chain, perhaps asserted not to be null. -/
def isChain : Node → Bool
  | mk (.optMember _) _ _ => true
  | mk (.optCall _) _ _ => true
  | mk .nonNull _ [e] => e.isChain
  | _ => false

end Node

namespace Parse

/-! ## Literals of objects and arrays -/

/-- Reads an expression, or one behind dots that stands for several. -/
def exprOrSpread (p : Descend) : Parse Node := do
  let start ← pos
  if ← eat "..." then
    let e ← assignWithIn p
    node start .spread [e]
  else p .assign

/-- Remembers the comma that ends a literal. -/
def rememberComma (start : Pos) (comma : Span) : Parse Unit :=
  modify fun s => { s with trailingCommas := (start, comma) :: s.trailingCommas }

/-- Reads an array literal. -/
def arrayLiteral (p : Descend) : Parse Node := do
  let start ← pos
  let _ ← bump
  let elems ← repeatUntil [] fun acc => do
    if (← atEnd) || (← is "]") then return .inr acc
    if ← eat "," then return .inl (acc ++ [.none])
    let e ← within ({ · with includeIn := true }) (exprOrSpread p)
    unless ← is "]" do
      expect ","
      if ← is "]" then rememberComma start (← prevSpan)
    return .inl (acc ++ [e])
  expect "]"
  node start .array elems

/-- Reads an accessor or `async` method of an object literal after its first word. -/
def objectAccessor (p : Descend) (start : Pos) (first : String) : Parse Node := do
  let isGenerator ← if first == "async" then eat "*" else pure false
  let key ← propName p
  within ({ · with superAllowed := true, inClassField := false }) do
    match first with
    | "get" =>
      let f ← functionTail p [] start false false (checkGetter key.span)
      node start (.method .getter) [key, f]
    | "set" =>
      let f ← functionTail p [] start false false (checkSetter key.span)
      if !(f.child 1).items.isEmpty then return ← node start (.method .setter) [key, f]
      note key.span .setterParams
      let refused : Node := .made .param [.ofList [], .made .invalidPat []]
      node start (.method .setter) [key, f.setChild 1 (.ofList [refused])]
    | _ =>
      let f ← plainFunction p [] start true isGenerator
      node start (.method .method) [key, f]

/-- Whether the current token may follow the name of a property in an object literal. -/
def canFollowKey (key : Node) : Parse Bool := do
  if ← isOneOf ["(", "[", ":", ",", "?", "=", "*", "<"] then return true
  if ← isWord then return true
  if (← is "\x7d") && (key.form matches .name _) then return true
  match ← current with
  | some ⟨.str .., _, _, _⟩ => return true
  | some ⟨.num .., _, _, _⟩ => return true
  | _ => return false

/-- Reads a property of an object literal. -/
def objectProp (p : Descend) : Parse Node := do
  let start ← pos
  if ← eat "..." then
    let e ← assignWithIn p
    return ← node start .spread [e]
  if ← eat "*" then
    let key ← propName p
    let f ← within ({ · with superAllowed := true, inClassField := false })
      (plainFunction p [] start false true)
    return ← node start (.method .method) [key, f]
  let stray ← strayModifier
  let straySpan ← prevSpan
  let key ← propName p
  if (← typed) && !(← canFollowKey key) then
    let _ ← current
    noteHere .expectedSemicolon
    let invalid ← node start .invalid []
    return ← node start .keyValue [key, invalid]
  if ← eat ":" then
    let value ← assignWithIn p
    return ← node start .keyValue [key, value]
  if ((← typed) && (← is "<")) || (← is "(") then
    let f ← within ({ · with superAllowed := true, inClassField := false })
      (plainFunction p [] start false false)
    return ← node start (.method .method) [key, f]
  match key.form with
  | .name text =>
    if ← eat "?" then note (← prevSpan) .optionalObjectMember
    let id := Node.mk (.ident text 0 false) key.span []
    if ← isOneOf ["=", ",", "\x7d"] then
      if isReserved text then note key.span .reservedShorthand
      if ← eat "=" then
        let value ← assignWithIn p
        return ← node start .assignProp [id, value]
      return id
    if ["get", "set", "async"].contains text then
      if stray then note straySpan .modifierOnAccessor
      return ← objectAccessor p start text
    if ← typed then
      unexpected ("... , *,  (, [, :, , ?, =, an identifier, public, protected, private, " ++
        "readonly, <.")
    else unexpected "... , *,  (, [, :, , ?, = or an identifier"
  | _ => unexpected "identifier"

/-- Reads an object literal. -/
def objectLiteral (p : Descend) : Parse Node :=
  within ({ · with expectsColon := false }) do
    let start ← pos
    let _ ← bump
    let (props, trailing) ← repeatUntil (([] : List Node), (none : Option Span))
      fun (acc, trailing) => do
        if ← eat "\x7d" then return .inr (acc, trailing)
        let prop ← objectProp p
        if ← is "\x7d" then return .inl (acc ++ [prop], none)
        expect ","
        let comma ← prevSpan
        return .inl (acc ++ [prop], if ← is "\x7d" then some comma else none)
    if let some comma := trailing then rememberComma start comma
    node start .object props

/-! ## Arguments and parentheses -/

/-- Reads arguments with the parentheses around them. -/
def arguments (p : Descend) (isImport : Bool) : Parse Node :=
  within ({ · with expectsColon := false }) do
    let start ← pos
    expect "("
    let (args, _) ← repeatUntil (([] : List Node), true) fun (acc, isFirst) => do
      if (← atEnd) || (← is ")") then return .inr (acc, isFirst)
      unless isFirst do
        expect ","
        if ← is ")" then
          if isImport && !(← typed) then failAt (← spanFrom start) .trailingCommaInImport
          return .inr (acc, isFirst)
      let e ← within ({ · with includeIn := true }) (exprOrSpread p)
      return .inl (acc ++ [e], false)
    expect ")"
    return .ofList args

/-- Reads an assignment after its target if there is one. -/
def assignTail (p : Descend) (start : Pos) (left : Node) : Parse Node := do
  let op := match ← current with
    | some ⟨.punct text, _, _, _⟩ => AssignOp.ofText? text
    | _ => none
  match op with
  | none => return left
  | some op =>
    let target ←
      if op == .plain then toPattern .assignment left
      else do
        let isTyped ← typed
        unless left.isAssignable do
          note left.span (if isTyped then .assignTargetNotReference else .notSimpleAssign)
        if isTyped then
          if let some name := left.identName? then
            if isUnbindable name then note left.span .argumentsInStrict
        pure left
    match target.form with
    | .ident .. | .member | .optMember _ | .optCall _ | .paren | .asType | .satisfies | .nonNull
    | .typeAssertion | .instantiation | .invalid => pure ()
    | .arrayPat _ | .objectPat _ => pure ()
    | _ => failAt target.span .invalidAssignTarget
    let _ ← bump
    let right ← p .assign
    node start (.assign op) [target, right]

/-- An item of a parenthesised list as a pattern: patterns stay, expressions become patterns. -/
def asPattern (item : Node) : Parse Node :=
  match item.form with
  | .arrayPat _ | .objectPat _ | .assignPat | .restPat | .invalidPat => pure item
  | .ident .. => pure item
  | _ => toPattern .binding item

/-- The parameters that a parenthesised list stands for before an arrow. -/
def asParams (items : List Node) (trailing : Option Span) : Parse (List Node) := do
  let count := items.length
  let mut out : List Node := []
  for (i, item) in (List.range count).zip items do
    if i + 1 != count then
      match item.form with
      | .spread | .restPat => note item.span .restParamNotLast
      | _ => out := out ++ [← asPattern item]
    else
      match item.form with
      | .spread =>
        let inner := item.child 0
        if inner.form matches .assign _ then note item.span .restInitializer
        if let some comma := trailing then note comma .commaAfterRest
        let arg ← toPattern .binding inner
        out := out ++ [.mk .restPat inner.span [arg, .none]]
      | .restPat =>
        if let some comma := trailing then note comma .commaAfterRest
        out := out ++ [item]
      | _ => out := out ++ [← asPattern item]
  for pat in out do checkBound pat
  return out

/-- Whether an item of a parenthesised list can only be a parameter. -/
def isParamOnly (item : Node) : Bool :=
  match item.form with
  | .arrayPat _ | .objectPat _ | .assignPat | .restPat => true
  | .ident _ _ isOptional => isOptional || !item.children.isEmpty
  | _ => false

/-- Reads an item of a parenthesised list. -/
def parenItem (p : Descend) : Parse (List Node) := do
  let isAsync ← (do
    if ← is "async" then
      return ← (aheadIs "(" <||> aheadIs "function" <||> aheadIsWord)
    return false)
  let start ← pos
  modify fun s => { s with arrowStart := some start }
  let stray ← strayModifier
  let patStart ← pos
  let dotsBeforeIdent ← is "..." <&&> aheadIsIdent
  let arg ←
    if (← typed) && ((← isIdent) || dotsBeforeIdent) then do
      let spreadStart ← pos
      if ← eat "..." then
        let left ← within ({ · with includeIn := true }) (p .unary)
        let e ← within ({ · with includeIn := true }) (p (.binaryTail left 0))
        node spreadStart .spread [e]
      else
        let left ← p .unary
        let e ← if left.form matches .arrow .. then pure left else p (.binaryTail left 0)
        assignTail p start e
    else within ({ · with includeIn := true }) (exprOrSpread p)
  let isSpread := arg.form matches .spread
  let (arg, isOptional) ←
    if (← typed) && (← is "?") then do
      if ← (aheadIs "," <||> aheadIs ":" <||> aheadIs ")" <||> aheadIs "=") then
        let _ ← bump
        let _ ← current
        if isSpread then note (← prevSpan) .restOptional
        let inner := if isSpread then arg.child 0 else arg
        unless inner.form matches .ident .. do failAt arg.span .optionalBindingPattern
        pure (arg, true)
      else if !isSpread then
        let _ ← bump
        let yes ← within ({ · with inCondition := true, expectsColon := true, includeIn := true })
          (p .assign)
        expect ":"
        let no ← within ({ · with inCondition := true, expectsColon := false }) (p .assign)
        pure (Node.mk .cond ⟨start, no.span.hi⟩ [arg, yes, no], false)
      else pure (arg, false)
    else pure (arg, false)
  let item ←
    if isOptional || ((← typed) && (← is ":")) then do
      let inner := if isSpread then arg.child 0 else arg
      let pat ← toPattern .binding inner
      let pat := if isOptional then pat.asOptional.getD pat else pat
      let pat ← if isSpread then node patStart .restPat [pat, .none] else pure pat
      let pat ←
        match pat.form with
        | .assignPat | .invalidPat => pure pat
        | _ => do
          let ann ← optionalTypeAnn p
          if ann.isSome then
            pure ((pat.withTypeAnn ann).withSpan ⟨patStart, (← prevSpan).hi⟩)
          else pure pat
      if ← eat "=" then
        let right ← p .assign
        node patStart .assignPat [pat, right]
      else pure pat
    else pure arg
  if stray then note (← spanFrom start) .paramPropOutsideConstructor
  if ← eat "=>" then
    if item.form matches .ident .. then
      let params ← asParams [item] none
      let body ← arrowBody p false (Node.areSimpleParams params)
      let arrow ← node start (.arrow isAsync false) [.ofList params, body, .none, .none]
      return [item, arrow]
  return [item]

/-- Reads a parenthesised list and answers the comma that ends it. -/
def parenItems (p : Descend) : Parse (List Node × Option Span) :=
  within ({ · with expectsColon := false }) do
    expect "("
    let (items, trailing) ← repeatUntil (([] : List Node), (none : Option Span))
      fun (acc, trailing) => do
        if (← atEnd) || (← is ")") then return .inr (acc, trailing)
        let new ← parenItem p
        unless ← is ")" do
          expect ","
          if ← is ")" then return .inl (acc ++ new, some (← prevSpan))
        return .inl (acc ++ new, none)
    expect ")"
    return (items, trailing)

/-- Reads what follows an arrow whose block is followed by an operator. -/
def arrowInOperator (p : Descend) (arrow : Node) : Parse Node := do
  if (arrow.child 1).form matches .block then
    if ← isBinaryOp then
      noteHere .expectedSemicolon
      let e ← p (.binaryTail arrow 0)
      unless ← isSemi do noteHere .expectedSemicolon
      return e
  return arrow

/-- Reads a parenthesised expression, an arrow function or, after `async`, a call. -/
def parenOrArrow (p : Descend) (canBeArrow : Bool) (asyncSpan : Option Span) : Parse Node := do
  let here ← pos
  let start := (asyncSpan.map (·.lo)).getD here
  let isAsync := asyncSpan.isSome
  let (items, trailing) ← within ({ · with includeIn := true, expectsColon := false })
    (parenItems p)
  let hasPattern := items.any isParamOnly
  let expectsColon := (← place).expectsColon
  if (← typed) && (← place).inCondition && (← is ":") then
    let arrow ← attempt do
      let result ← returnType p ":"
      expect "=>"
      let params ← asParams items none
      let body ← arrowBody p isAsync (Node.areSimpleParams params)
      if expectsColon && !(← is ":") then return none
      return some (← node start (.arrow isAsync false) [.ofList params, body, .none, result])
    if let some a := arrow then return a
  let result ←
    if !expectsColon && (← typed) && (← is ":") then
      attempt do
        let result ← returnType p ":"
        unless ← is "=>" do return none
        return some result
    else pure none
  if hasPattern || result.isSome || (← is "=>") then
    if ← lineBreak then failAt (← spanFrom start) .lineBreakBeforeArrow
    unless canBeArrow do failAt (← spanFrom start) .arrowNotAllowed
    expect "=>"
    let params ← asParams items trailing
    let body ← arrowBody p isAsync (Node.areSimpleParams params)
    let arrow ← node start (.arrow isAsync false)
      [.ofList params, body, .none, .ofOption result]
    return ← arrowInOperator p arrow
  for item in items do
    if item.form matches .object then
      for prop in item.children do
        if prop.form matches .assignProp then note prop.span .assignProperty
  if let some span := asyncSpan then
    let callee := Node.mk (.ident "async" 0 false) span []
    return ← node start .call [callee, .none, .ofList items]
  match items with
  | [] => failAt ⟨start, (← prevSpan).hi⟩ .emptyParens
  | [e] =>
    if e.form matches .spread then failAt (e.child 0).span .spreadInParens
    node start .paren [e]
  | e :: rest =>
    for item in items do
      if item.form matches .spread then failAt (item.child 0).span .spreadInParens
    let stop := (rest.getLast?.map (·.span.hi)).getD e.span.hi
    node start .paren [.mk .seq ⟨e.span.lo, stop⟩ items]

/-! ## Accesses and calls -/

/-- Reads an asynchronous arrow function with type parameters after `async`. -/
def genericAsyncArrow? (p : Descend) (start : Pos) : Parse (Option Node) := do
  unless ← atTypeParams do return none
  let head ← attempt do
    let tparams ← typeParams p false false
    expect "("
    let params ← formalParams p
    expect ")"
    let result ← if ← is ":" then returnType p ":" else pure .none
    expect "=>"
    return some (tparams, params.map (·.child 1), result)
  match head with
  | none => return none
  | some (tparams, params, result) =>
    within ({ · with inAsync := true, inGenerator := false }) do
      let body ← arrowBody p true (Node.areSimpleParams params)
      return some (← node start (.arrow true false) [.ofList params, body, tparams, result])

/-- Reads a template with a tag. -/
def taggedTemplate (p : Descend) (tag args : Node) : Parse Node := do
  let template ← templateOf .template true (within ({ · with includeIn := true }) (p .expr))
  let span ← spanFrom tag.span.lo
  if tag.form matches .optMember _ | .optCall _ then note span .taggedInOptionalChain
  return .mk .tagged span [tag, args, template]

/-- A call, which belongs to an optional chain if its callee does. -/
def callNode (start : Pos) (callee typeArgs args : Node) (direct : Bool) : Parse Node := do
  if direct || callee.isChain then node start (.optCall direct) [callee, typeArgs, args]
  else node start .call [callee, typeArgs, args]

/-- Reads what `<` after an expression may start; the second part tells whether more may follow. -/
def typeArgsSuffix? (p : Descend) (start : Pos) (base : Node) (noCall : Bool) :
    Parse (Option (Node × Bool)) :=
  within ({ · with operatorsInType := false }) do
    attempt do
      if !noCall && base.identName? == some "async" then
        if let some arrow ← genericAsyncArrow? p start then return some (arrow, true)
      let targs ← typeArgs p
      if !noCall && (← is "(") then
        let args ← arguments p (base.form matches .importRef)
        return some (← callNode start base targs args false, true)
      if ← is "`" then return some (← taggedTemplate p base targs, true)
      if ← isOneOf ["=", "as", "satisfies"] then
        return some (← node start .instantiation [base, targs], false)
      return none

/-- What may be accessed through `super`. -/
def checkSuper (isOptional noCall : Bool) : Parse Unit := do
  unless (← place).superAllowed do fail .invalidSuper
  if isOptional then
    if noCall then fail .invalidSuperCall
    fail .invalidSuper

/-- Reads one access or call after an expression, if any, and tells whether there was one. -/
def subscript (p : Descend) (start : Pos) (base : Node) (noCall noIndex : Bool) :
    Parse (Node × Bool) := do
  let _ ← current
  let isSuper := base.form matches .superRef
  let isImport := base.form matches .importRef
  if ← typed then
    if !(← lineBreak) && (← is "!") then
      setExprAllowed false
      let _ ← bump
      if isSuper then fail (.nonNullNotAllowed "super")
      if isImport then fail (.nonNullNotAllowed "import")
      return (← node start .nonNull [base], true)
    if !isSuper && !isImport && (← isOneOf ["<", "<<"]) then
      if let some r ← typeArgsSuffix? p start base noCall then return r
  let isOptional ←
    if ← (is "?" <&&> aheadIs ".") then do
      let _ ← bump
      pure true
    else pure false
  let atIndex ←
    if noIndex then pure false
    else if ← (pure isOptional <&&> is "." <&&> aheadIs "[") then do
      let _ ← bump
      eat "["
    else eat "["
  if atIndex then
    let bracket := (← prevSpan).lo
    let key ← within ({ · with includeIn := true }) (p .expr)
    expect "]"
    let key ← node bracket .computed [key]
    if isSuper then
      checkSuper isOptional noCall
      return (← node start .member [base, key], true)
    if isOptional || base.isChain then
      return (← node start (.optMember isOptional) [base, key], true)
    return (← node start .member [base, key], true)
  let atOptionalCall ←
    if isOptional && (← is ".") then do
      if ← (aheadIs "(" <||> typed <&&> aheadIs "<") then eat "."
      else pure false
    else pure false
  if atOptionalCall || (!noCall && (← is "(")) then
    let targs ← if (← typed) && (← is "<") then typeArgs p else pure .none
    let args ← arguments p isImport
    if isOptional && (isSuper || isImport) then fail .superCallOptional
    return (← callNode start base targs args isOptional, true)
  if ← eat "." then
    let name ← memberName
    let span ← spanFrom base.span.lo
    if isSuper then
      checkSuper isOptional noCall
      if name.form matches .privateName .. then fail .superPrivateName
      return (.mk .member span [base, name], true)
    if isOptional || base.isChain then
      return (.mk (.optMember isOptional) span [base, name], true)
    return (.mk .member span [base, name], true)
  if isSuper then
    if noCall then fail .invalidSuperCall
    fail .invalidSuper
  if isImport then fail .expectedExpression
  if ← is "`" then return (← taggedTemplate p base .none, true)
  return (base, false)

/-- Reads the accesses and calls after an expression. -/
def subscripts (p : Descend) (base : Node) (noCall noIndex : Bool) : Parse Node := do
  let start := base.span.lo
  repeatUntil base fun base => do
    let (e, more) ← subscript p start base noCall noIndex
    return if more then .inl e else .inr e

/-- Whether an expression may start here. -/
def atExprStart : Parse Bool := do
  if ← isOneOf ["this", "super", "null", "true", "false", "`", "(", "[", "\x7b", "function",
      "class", "new", "+", "-", "~", "!", "delete", "typeof", "void", "++", "--", "<", "await", "yield",
      "#"] then return true
  if ← isIdent then return true
  if ← is "import" then return ← (aheadIs "(" <||> aheadIs "<" <||> aheadIs ".")
  match ← current with
  | some t =>
    match t.token with
    | .num .. | .bigint _ | .str .. | .regex .. => return true
    | _ => return false
  | none => return false

/-- Reads type arguments of an expression that is not called. -/
def instantiationArgs? (p : Descend) : Parse (Option Node) :=
  attempt do
    let args ← typeArgs p
    if ← isOneOf ["<", ">", "+", "-", "(", "`"] then return none
    if (← lineBreak) || (← isBinaryOp) || !(← atExprStart) then return some args
    return none

/-- Reads a dynamic import or `import.meta`. -/
def importExpr (p : Descend) (noCall : Bool) : Parse Node := do
  let start ← pos
  let _ ← bump
  if ← eat "." then
    let w ← word
    unless w == "meta" do unexpected "meta"
    let meta_ ← node start .importMeta []
    subscripts p meta_ noCall false
  else
    let ref ← node start .importRef []
    subscripts p ref noCall false

/-! ## Operands -/

/-- The letters that may be flags of a regular expression. -/
def regexFlags : List Char := ['d', 'g', 'i', 'm', 's', 'u', 'v', 'y']

/-- Reads a slash again as a regular expression. -/
def regexLiteral? : Parse (Option Node) := do
  let some t ← current | return none
  let start := t.span.lo
  let _ ← bump
  modify fun s =>
    { s with scanner := { s.scanner with regexAt := some (t.source, start) }, ahead := none }
  match ← current with
  | some ⟨.regex pattern flags, _, _, _⟩ =>
    modify fun s => { s with scanner := { s.scanner with regexAt := none } }
    let _ ← bump
    let span ← spanFrom start
    let letters := flags.toList
    if letters.any (!regexFlags.contains ·) then note span .unknownRegexFlags
    if let some c := letters.find? (letters.count · > 1) then note span (.duplicatedRegexFlags c)
    return some (.mk (.regex pattern flags) span [])
  | _ => return none

/-- Reads an arrow function with one parameter without parentheses, or a name. -/
def identOrArrow (p : Descend) (start : Pos) (canBeArrow : Bool) : Parse Node := do
  let here ← place
  let id ← ident (!here.inGenerator) (!here.inAsync)
  let name := id.identName?.getD ""
  -- as an operand the word is refused once more
  if name == "let" then noteStrict id.span (.reservedInStrict name)
  if canBeArrow && name == "async" && !(← lineBreak) && (← isIdent) then
    if ← (pure here.loopInit <&&> is "of" <&&> notM (aheadIs "=>")) then
      unless here.awaitLoopInit do note (← prevSpan) .asyncInForOf
      return id
    let param ← bindingIdent false
    if (← typed) && param.identName? == some "as" && !(← is "=>") then
      let t ← inType (p .type)
      return ← node start .asType [id, t]
    expect "=>"
    let body ← arrowBody p true true
    node start (.arrow true false) [.ofList [param], body, .none, .none]
  else if ← (pure canBeArrow <&&> notM lineBreak <&&> eat "=>") then
    if isUnbindable name then noteStrict id.span .evalOrArguments
    let body ← arrowBody p false true
    node start (.arrow false false) [.ofList [id], body, .none, .none]
  else return id

/-- Reads `async` as the start of a function if it is one. -/
def asyncStart? (p : Descend) (start : Pos) (canBeArrow : Bool) : Parse (Option Node) := do
  if ← (aheadIs "function" <&&> notM lineBreakAhead) then
    let _ ← bump
    return some (← functionExpr p (some start))
  if ← (pure canBeArrow <&&> typed <&&> aheadIs "<") then
    let arrow ← attempt do
      let _ ← bump
      genericAsyncArrow? p start
    if let some a := arrow then return some a
  if ← (pure canBeArrow <&&> aheadIs "(" <&&> notM lineBreakAhead) then
    let t ← current
    let _ ← bump
    return some (← parenOrArrow p canBeArrow (t.map (·.span)))
  return none

/-- Reads an operand. -/
def primary (p : Descend) : Parse Node := do
  let t ← current
  let start ← pos
  let canBeArrow := (← get).arrowStart == some start
  let plain {α : Type} (op : Parse α) : Parse α := within ({ · with expectsColon := false }) op
  let token : Option Token := t.map (·.token)
  match token with
  | some (.keyword "this") =>
    let _ ← bump
    return ← node start .this []
  | some (.ident "async") =>
    if let some e ← asyncStart? p start canBeArrow then return e
  | some (.punct "[") => return ← plain (arrayLiteral p)
  | some (.punct "\x7b") => return ← plain (objectLiteral p)
  | some (.keyword "function") => return ← functionExpr p none
  | some (.keyword "null") | some (.keyword "true") | some (.keyword "false") | some (.num ..)
  | some (.bigint _) | some (.str ..) => return ← literal
  | some (.punct "/") | some (.punct "/=") =>
    if let some e ← regexLiteral? then return e
  | some (.punct "`") =>
    return ← plain (templateOf .template false (within ({ · with includeIn := true }) (p .expr)))
  | some (.punct "(") => return ← parenOrArrow p canBeArrow none
  | _ => pure ()
  let decorators := (← p .decorators).items
  if ← is "class" then return ← classExpr p start decorators
  if (← is "let") || (← isIdent) then return ← identOrArrow p start canBeArrow
  if ← is "#" then return ← privateName
  fail .expectedExpression

/-- Refuses an optional chain after `new`. -/
def checkNewCallee (callee : Node) : Parse Unit := do
  match callee.form with
  | .optMember _ | .optCall _ => failAt callee.span .chainAfterNew
  | .member =>
    let object := callee.child 0
    if object.form matches .optMember _ | .optCall _ then failAt object.span .chainAfterNew
  | _ => pure ()

/-- Reads an operand without calls, or the part of `new` up to its arguments. -/
def memberOrNew (p : Descend) (isNew : Bool) : Parse Node :=
  within ({ · with operatorsInType := true }) do
    let start ← pos
    if ← eat "new" then
      if ← eat "." then
        unless ← eat "target" do unexpected "target"
        let target ← node start .newTarget []
        let here ← place
        if !here.inPlainFunction && !here.inParams && !here.inClass then
          note target.span .invalidNewTarget
        return ← subscripts p target true false
      let callee ← p (.memberOrNew isNew)
      if callee.form matches .arrow .. then return callee
      if isNew then checkNewCallee callee
      let targs ←
        if (← typed) && (← isOneOf ["<", "<<"]) then
          attempt do
            let args ← within ({ · with operatorsInType := false }) (typeArgs p)
            unless ← is "(" do return none
            return some args
        else pure none
      let targs := Node.ofOption targs
      if !isNew || (← is "(") then
        let args ← arguments p false
        let e ← node start .new [callee, targs, args]
        return ← subscripts p e true false
      return ← node start .new [callee, targs, .none]
    if ← eat "super" then
      let base ← node start .superRef []
      return ← subscripts p base true false
    if ← is "import" then return ← importExpr p true
    let object ← primary p
    if object.form matches .arrow .. then return object
    let targs ← if (← typed) && (← is "<") then instantiationArgs? p else pure none
    let object ← match targs with
      | some args => node start .instantiation [object, args]
      | none => pure object
    subscripts p object true false

/-- Reads an operand with the calls and accesses after it. -/
def operand (p : Descend) : Parse Node := do
  let start ← pos
  if ← markup then
    let t ← required
    match t.token with
    | .jsxText raw =>
      let _ ← bump
      return .mk (.jsxText raw) t.span []
    | .jsxTagStart => return ← p (.element start)
    | _ => pure ()
    if ← (is "<" <&&> notM (aheadIs "!")) then return ← p (.element start)
  if ← is "super" then
    let _ ← bump
    let base ← node start .superRef []
    return ← subscripts p base false false
  if ← is "import" then return ← importExpr p false
  let callee ← p (.memberOrNew true)
  if callee.form matches .arrow .. then return callee
  let targs ←
    if (← typed) && (← isOneOf ["<", "<<"]) then
      attempt do
        let args ← typeArgs p
        if ← is "(" then return some args
        return none
    else pure none
  if callee.form matches .new && (callee.child 2).isNone then
    return match targs with
      | some args => callee.setChild 1 args
      | none => callee
  if ← is "(" then
    let args ← arguments p false
    let call ← callNode start callee (.ofOption targs) args false
    return ← subscripts p call false false
  if targs.isSome then expect "("
  return callee

/-! ## Decorators -/

/-- Reads a decorator. -/
def decorator (p : Descend) : Parse Node := do
  let start ← pos
  let _ ← bump
  let e ←
    if ← eat "(" then do
      let e ← p .expr
      expect ")"
      pure e
    else do
      let id ← ident false false
      subscripts p id false true
  node start .decorator [e]

/-- Reads the decorators that stand here. -/
def decorators (p : Descend) (beforeExport : Bool) : Parse (List Node) := do
  let found ← repeatUntil [] fun acc => do
    unless ← is "@" do return .inr acc
    return .inl (acc ++ [← decorator p])
  if found.isEmpty then return []
  if ← is "export" then
    let here ← place
    if !here.inClass && !here.inFunction && !beforeExport then fail .exportNotHere
    if !here.inClass && !here.inFunction && !(← typed) then
      failAt (← spanFrom (found.head?.map (·.span.lo) |>.getD 1)) .decoratorOnExport
  return found

/-! ## Operators -/

/-- Reads `await` after its keyword. -/
def awaitTail (p : Descend) (start : Pos) : Parse Node := do
  if ← is "*" then fail .awaitStar
  let here ← place
  let span ← spanFrom start
  if !here.inAsync && ((← isOneOf [")", "]", ","]) || (← isSemi)) then
    note span .awaitAsIdent
    return .mk (.ident "await" 0 false) span []
  if here.inFunction && !here.inAsync then noteHere .awaitInFunction
  if here.inParams && !here.inFunction then note span .awaitInParams
  let e ← p .unary
  node start .await [e]

/-- The operators that stand before an operand, other than those that change it. -/
def unaryOp? : Token → Option UnaryOp
  | .keyword "delete" => some .delete
  | .keyword "void" => some .void
  | .keyword "typeof" => some .typeOf
  | .punct "+" => some .plus
  | .punct "-" => some .minus
  | .punct "~" => some .bitNot
  | .punct "!" => some .not
  | _ => none

/-- Notes what may not be deleted. -/
def checkDelete (e : Node) : Parse Unit := do
  if e.form matches .ident .. then noteStrict e.span .deleteIdent
  if ← typed then
    let inner := e.unparen
    match inner.form with
    | .member | .optMember _ => pure ()
    | _ => note inner.span .deleteNotReference

/-- Reads a unary operator with its operand. -/
def unaryTail (p : Descend) (start : Pos) (op : UnaryOp) : Parse Node := do
  let _ ← bump
  let argStart := (← pos) - 1
  let e ← match ← orError (p .unary) with
    | .ok e => pure e
    | .error issue => do
      noteIssue issue
      pure (Node.mk .invalid (.at_ argStart) [])
  if op == .delete then checkDelete e
  return .mk (.unary op) ⟨start, e.span.hi⟩ [e]

/-- The update operator of a token. -/
def updateOp? : Token → Option UpdateOp
  | .punct "++" => some .increment
  | .punct "--" => some .decrement
  | _ => none

/-- Reads an operand with the operators that have only one. -/
def unary (p : Descend) : Parse Node := do
  let start ← pos
  if ← (notM markup <&&> typed <&&> eat "<") then
    if ← eat "const" then
      expect ">"
      let e ← p .unary
      return ← node start .asConst [e]
    let t ← inType (p .type)
    expect ">"
    let e ← p .unary
    return ← node start .typeAssertion [t, e]
  match (← current).map (·.token) with
  | some t =>
    if let some op := updateOp? t then
      let _ ← bump
      let e ← p .unary
      checkAssignTarget e false
      return .mk (.update op true) ⟨start, e.span.hi⟩ [e]
    if let some op := unaryOp? t then return ← unaryTail p start op
    if t.is "await" then
      let _ ← bump
      return ← awaitTail p start
  | none => pure ()
  let e ← operand p
  if e.form matches .arrow .. then return e
  if ← lineBreak then return e
  match ((← current).map (·.token)).bind updateOp? with
  | some op =>
    checkAssignTarget e false
    let _ ← bump
    node e.span.lo (.update op false) [e]
  | none => return e

/-- Reads `as` and `satisfies` with their types after an expression. -/
def typedTail (p : Descend) (left : Node) (minimum : Nat) : Parse Node :=
  repeatUntil left fun left => do
    unless (← typed) && !(← lineBreak) do return .inr left
    let start := left.span.lo
    let e ←
      if minimum < BinaryOp.lt.precedence && (← is "as") then
        if ← aheadIs "const" then do
          let _ ← bump
          let _ ← bump
          node start .asConst [left]
        else do
          let t ← inType do
            let _ ← bump
            p .type
          node start .asType [left, t]
      else if minimum < BinaryOp.lt.precedence && (← is "satisfies") then do
        let t ← inType do
          let _ ← bump
          p .type
        node start .satisfies [left, t]
      else return .inr left
    joinAngles
    return .inl e

/-- Whether an expression is `&&` or `||` without parentheses. -/
def isLogical (e : Node) : Bool :=
  e.form == .binary .and || e.form == .binary .or

/-- Reads binary operators that bind more than `minimum` with what follows them. -/
def binaryTail (p : Descend) (left : Node) (minimum : Nat) : Parse Node :=
  repeatUntil left fun left => do
    let left ← typedTail p left minimum
    let op := match (← current).map (·.token) with
      | some (.keyword "in") => some BinaryOp.isIn
      | some (.keyword "instanceof") => some BinaryOp.instanceOf
      | some (.punct text) => BinaryOp.ofText? text
      | _ => none
    let op := if op == some .isIn && !(← place).includeIn then none else op
    match op with
    | none => return .inr left
    | some op =>
      if op.precedence ≤ minimum then return .inr left
      let _ ← bump
      if op == .pow then
        match left.form with
        | .unary _ | .await => fail .unaryBeforePow
        | _ => pure ()
      let first ← p .unary
      let right ← p (.binaryTail first (if op == .pow then op.precedence - 1 else op.precedence))
      if op == .nullish then
        if isLogical left then note left.span .nullishMixed
        if isLogical right then note right.span .nullishMixed
      let e := Node.mk (.binary op) ⟨left.span.lo, right.span.hi⟩ [left, right]
      if isLogical e && (left.form matches .binary .nullish) then note e.span .nullishMixed
      return .inl e

/-- Reads an expression with binary operators. -/
def binaryExpr (p : Descend) : Parse Node := do
  match ← orError (p .unary) with
  | .ok e => if e.form matches .arrow .. then return e else p (.binaryTail e 0)
  | .error issue =>
    let t ← required
    let includeIn := (← place).includeIn
    let isOp := match t.token with
      | .keyword "in" => includeIn
      | .keyword "instanceof" => true
      | t => t.isBinary
    unless isOp do throw issue
    noteHere .expectedExpression
    p (.binaryTail (.mk .invalid issue.span []) 0)

/-- Reads a conditional expression. -/
def condExpr (p : Descend) : Parse Node := do
  let start ← pos
  let test ← binaryExpr p
  if test.form matches .arrow .. then return test
  unless ← eat "?" do return test
  let yes ← within ({ · with inCondition := true, expectsColon := true, includeIn := true })
    (p .assign)
  expect ":"
  let no ← within ({ · with inCondition := true, expectsColon := false }) (p .assign)
  return .mk .cond ⟨start, no.span.hi⟩ [test, yes, no]

/-- Reads `yield`. -/
def yieldExpr (p : Descend) : Parse Node := do
  let start ← pos
  let _ ← bump
  if (← place).inParams && !(← place).inFunction then failAt (← prevSpan) .yieldInParams
  if (← isSemi) || !((← is "*") || (← is "/") || (← atExprStart) || (← is "@")) then
    return ← node start (.yield false) [.none]
  let delegates ← eat "*"
  let e ← p .assign
  node start (.yield delegates) [e]

/-- Reads an assignment, or an expression that is none. -/
def plainAssign (p : Descend) : Parse Node := do
  if (← place).inGenerator && (← is "yield") then return ← yieldExpr p
  let t ← required
  let start := t.span.lo
  let canStartArrow := match t.token with
    | .ident _ => true
    | .punct "(" => true
    | .keyword "yield" => true
    | _ => false
  modify fun s => { s with arrowStart := if canStartArrow then some start else none }
  let e ← condExpr p
  match e.form with
  | .arrow .. | .cond | .binary _ | .unary _ | .update .. => return e
  | _ => assignTail p start e

/-- Reads an assignment, or an arrow function with type parameters. -/
def assign (p : Descend) : Parse Node := do
  if (← typed) && (← markup) && (← atTagStart) then
    if let some e ← attempt (do return some (← plainAssign p)) then return e
    setBrackets ((← brackets).drop 2)
  if ← (typed <&&> (is "<" <||> atTagStart) <&&> aheadIsWord) then
    let arrow ← within ({ · with expectsColon := false }) do
      attempt do
        if ← atTagStart then
          let bs ← brackets
          if bs.head? == some .openingTag then setBrackets (bs.drop 2)
        let tparams ← typeParams p false true
        let arrow ← plainAssign p
        unless arrow.form matches .arrow .. do return none
        return some ((arrow.setChild 2 tparams).withSpan ⟨tparams.span.lo, arrow.span.hi⟩)
    if let some a := arrow then return a
  plainAssign p

/-- Reads expressions with commas between them. -/
def expr (p : Descend) : Parse Node := do
  let first ← assign p
  unless ← is "," do return first
  let parts ← repeatUntil [first] fun acc => do
    unless ← eat "," do return .inr acc
    return .inl (acc ++ [← p .assign])
  node first.span.lo .seq parts

end Parse

end ScriptHost
