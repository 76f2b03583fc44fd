import ScriptHost.Parser.Type
/-!
# Patterns and parameters

The rules for what is bound: patterns, parameters of functions and
constructors. An expression already read may turn out to be a pattern, as in
`[a, b] = c` and `(a, b) => c`; `toPattern` reads it anew from its tree.
-/

namespace ScriptHost

namespace Node

/-- The same pattern with a type annotation. -/
def withTypeAnn (pat ann : Node) : Node :=
  match pat.form with
  | .ident .. => pat.withChildren (if ann.isNone then [] else [ann])
  | .arrayPat _ | .objectPat _ | .restPat => pat.setChild 1 ann
  | _ => pat

/-- The type annotation of a pattern. -/
def patternAnn (pat : Node) : Node :=
  match pat.form with
  | .ident .. => pat.child 0
  | .arrayPat _ | .objectPat _ | .restPat => pat.child 1
  | _ => .none

/-- The same pattern marked as optional, if patterns of its kind can be. -/
def asOptional (pat : Node) : Option Node :=
  match pat.form with
  | .ident name scope _ => some (pat.withForm (.ident name scope true))
  | .arrayPat _ => some (pat.withForm (.arrayPat true))
  | .objectPat _ => some (pat.withForm (.objectPat true))
  | _ => Option.none

/-- Whether all parameters are plain names or declare members, so that the body may ask for strict
rules. -/
def areSimpleParams (params : List Node) : Bool :=
  params.all fun p =>
    match p.form with
    | .ident .. | .paramProp _ => true
    | .param => (p.child 1).identName?.isSome
    | _ => false

/-- Whether an expression may be assigned to. -/
def isAssignable : Node → Bool
  | mk (.ident name _ _) _ _ => !Parse.isUnbindable name
  | mk .paren _ [e] => e.isAssignable
  | mk .member _ _ => true
  | mk .asType _ (e :: _) => e.isAssignable
  | mk .nonNull _ [e] => e.isAssignable
  | mk .typeAssertion _ [_, e] => e.isAssignable
  | mk .instantiation _ (e :: _) => e.isAssignable
  | mk .satisfies _ (e :: _) => e.isAssignable
  | _ => false

end Node

namespace Parse

/-! ## Patterns -/

/-- Reads an expression where `in` is an operator. -/
def assignWithIn (p : Descend) : Parse Node :=
  within ({ · with includeIn := true }) (p .assign)

/-- Reads a pattern with a value to use instead of nothing. -/
def bindingElement (p : Descend) : Parse Node := do
  let start ← pos
  let left ← p .binding
  if ← eat "=" then
    let right ← assignWithIn p
    if (← place).inDeclare then note (← spanFrom start) .paramInitializer
    node start .assignPat [left, right]
  else return left

/-- Reads `[…]` as a pattern. -/
def arrayPattern (p : Descend) : Parse Node := do
  let start ← pos
  let _ ← bump
  let (elems, _) ← repeatUntil (([] : List Node), (none : Option Span)) fun (acc, rest) => do
    if (← atEnd) || (← is "]") then return .inr (acc, rest)
    if ← eat "," then return .inl (acc ++ [.none], rest)
    if let some r := rest then note r .restNotLast
    let elemStart ← pos
    let isRest ← eat "..."
    let elem ←
      if isRest then do
        let arg ← p .binding
        node elemStart .restPat [arg, .none]
      else bindingElement p
    let rest := if isRest then some elem.span else rest
    unless ← is "]" do
      expect ","
      if isRest && (← is "]") then note (← prevSpan) .commaAfterRest
    return .inl (acc ++ [elem], rest)
  expect "]"
  let isOptional ← if (← place).inDeclare then eat "?" else pure false
  node start (.arrayPat isOptional) [.ofList elems, .none]

/-- Reads a property of an object pattern. -/
def objectPatternProp (p : Descend) : Parse Node := do
  let start ← pos
  if ← eat "..." then
    let arg ← p .binding
    return ← node start .restPat [arg, .none]
  let key ← propName p
  if ← eat ":" then
    let value ← bindingElement p
    return ← node start .keyPat [key, value]
  match key.form with
  | .name text =>
    let id := Node.mk (.ident text 0 false) key.span []
    let value ←
      if ← eat "=" then assignWithIn p
      else do
        if isReserved text then note key.span .reservedShorthand
        pure .none
    node start .shorthandPat [id, value]
  | _ => unexpected "an identifier"

/-- Reads `{…}` as a pattern. -/
def objectPattern (p : Descend) : Parse Node :=
  within ({ · with expectsColon := false }) do
    let start ← pos
    let _ ← bump
    let (props, trailing) ← repeatUntil (([] : List Node), (none : Option Span))
      fun (acc, trailing) => do
        if ← eat "\x7d" then return .inr (acc, trailing)
        let prop ← objectPatternProp p
        if ← is "\x7d" then return .inl (acc ++ [prop], none)
        expect ","
        let comma ← prevSpan
        return .inl (acc ++ [prop], if ← is "\x7d" then some comma else none)
    let span ← spanFrom start
    let count := props.length
    for (i, prop) in (List.range count).zip props do
      if prop.form matches .restPat then
        if i + 1 == count then
          if (prop.child 0).form matches .ident .. then
            if let some comma := trailing then note comma .commaAfterRest
          else failAt prop.span .dotsWithoutIdent
        else note prop.span .restNotLast
    let isOptional ← if (← place).inDeclare then eat "?" else pure false
    return .mk (.objectPat isOptional) span [.ofList props, .none]

/-- Reads a pattern or an identifier. -/
def binding (p : Descend) (refuseLet : Bool) : Parse Node := do
  let t ← required
  match t.token with
  | .punct "[" => arrayPattern p
  | .punct "\x7b" => objectPattern p
  | other =>
    if other.isWord then bindingIdent refuseLet
    else unexpected "yield, an identifier, [ or \x7b"

/-! ## Parameters -/

/-- Reads the pattern of a parameter with its type and default. -/
def paramPattern (p : Descend) : Parse Node := do
  let start ← pos
  let stray ← strayModifier
  let patStart ← pos
  let pat ← binding p false
  let (pat, isOptional) ←
    if ← (typed <&&> eat "?") then
      match pat.asOptional with
      | some q => pure (q, true)
      | none =>
        if (← place).inDeclare then pure (pat, false)
        else failAt (← prevSpan) .optionalBindingPattern
    else pure (pat, false)
  let pat ←
    if ← typed then do
      let ann ← optionalTypeAnn p
      match pat.form with
      | .ident .. => pure (pat.withTypeAnn ann)
      | .assignPat =>
        if ann.isSome then note (← spanFrom patStart) .typeAnnAfterAssign
        pure pat
      | _ =>
        if ann.isNone then pure pat
        else pure ((pat.withTypeAnn ann).withSpan ⟨patStart, (← prevSpan).hi⟩)
    else pure pat
  let pat ←
    if ← eat "=" then do
      if isOptional then note pat.span .optionalWithInit
      let right ← p .assign
      if (← place).inDeclare then note (← spanFrom start) .paramInitializer
      node start .assignPat [pat, right]
    else pure pat
  if stray then note (← spanFrom start) .paramPropOutsideConstructor
  return pat

/-- Reads what follows `...` in a list of parameters. -/
def restParam (p : Descend) (start : Pos) (mayHaveDefault : Bool) : Parse Node := do
  let pat ← binding p false
  let pat ←
    if ← (pure mayHaveDefault <&&> eat "=") then do
      let right ← p .assign
      note pat.span .restInitializer
      node start .assignPat [pat, right]
    else pure pat
  let ann ← optionalTypeAnn p
  let rest ← node start .restPat [pat, ann]
  if ← (pure mayHaveDefault <&&> typed <&&> eat "?") then note (← prevSpan) .restOptional
  return rest

/-- Reads parameters up to the closing parenthesis with a rule for those without dots. -/
def paramsWith (p : Descend) (mayHaveDefault : Bool)
    (single : Pos → List Node → Parse Node) : Parse (List Node) := do
  let (params, _) ← repeatUntil (([] : List Node), (none : Option Span)) fun (acc, rest) => do
    if ← is ")" then return .inr (acc, rest)
    if let some r := rest then note r .restParamNotLast
    let start ← pos
    let decorators ← p .decorators
    let patStart ← pos
    let isRest ← eat "..."
    let param ←
      if isRest then do
        let pat ← restParam p patStart mayHaveDefault
        node start .param [decorators, pat]
      else single start decorators.items
    let rest := if isRest then some (param.child 1).span else rest
    unless ← is ")" do
      expect ","
      if isRest && (← is ")") then note (← prevSpan) .commaAfterRest
    return .inl (acc ++ [param], rest)
  return params

/-- Reads the parameters of a function up to the closing parenthesis. -/
def formalParams (p : Descend) : Parse (List Node) :=
  paramsWith p true fun start decorators => do
    let pat ← paramPattern p
    node start .param [.ofList decorators, pat]

/-- Reads who may use a member. -/
def accessModifier : Parse (Option Access) := do
  match ← modifier ["public", "protected", "private", "in", "out"] false with
  | some "public" => return some .everyone
  | some "protected" => return some .descendants
  | some "private" => return some .owner
  | some other =>
    note (← prevSpan) (.varianceNotHere other)
    return none
  | none => return none

/-- Reads the parameters of a constructor up to the closing parenthesis. -/
def constructorParams (p : Descend) : Parse (List Node) :=
  paramsWith p false fun start decorators => do
    let access ← accessModifier
    let isOverride := (← modifier ["override"] false).isSome
    let isReadonly := (← modifier ["readonly"] false).isSome
    let pat ← paramPattern p
    if access.isNone && !isOverride && !isReadonly then
      node start .param [.ofList decorators, pat]
    else
      match pat.form with
      | .ident .. | .assignPat =>
        node start (.paramProp { access, isOverride, isReadonly }) [.ofList decorators, pat]
      | _ => failAt pat.span .paramPropPattern

/-! ## Expressions as patterns -/

/-- What an expression becomes a pattern for. -/
inductive PatternRole where
  | assignment | assignmentElement | binding
deriving BEq

/-- The role of the parts of a pattern. -/
def PatternRole.ofParts : PatternRole → PatternRole
  | .binding => .binding
  | _ => .assignmentElement

/-- Notes errors about an expression that is assigned to. -/
def checkAssignTarget (e : Node) (refuseCall : Bool) : Parse Unit := do
  let isTyped ← typed
  unless e.isAssignable do
    note e.span (if isTyped then .assignTargetNotReference else .notSimpleAssign)
  if isTyped then
    let unbindable := match e.identName? with
      | some name => isUnbindable name
      | none => false
    if unbindable then note e.span .argumentsInStrict
    let refuses := match e.unparen.form with
      | .str .. | .num .. | .bigint _ | .bool _ | .null | .regex .. => false
      | .call => refuseCall
      | .binary _ => false
      | _ => true
    if !unbindable && !e.isAssignable && refuses then note e.span .assignTargetNotReference

/-- Refuses a pattern but goes on. -/
def refusePattern (span : Span) : Parse Node := do
  note span .notAPattern
  return .mk .invalidPat span []

/-- Reads an expression anew as a pattern, with `fuel` for its nesting. -/
def toPatternWith : Nat → PatternRole → Node → Parse Node
  | 0, _, e => return e
  | fuel + 1, role, e => do
    if e.form matches .invalid then return e.withForm .invalidPat
    let isLiteral := e.form matches .object || e.form matches .array
    if role == .assignment && !isLiteral then
      checkAssignTarget e true
      return e
    if role == .assignmentElement && !isLiteral then
      match e.form with
      | .member | .call | .new | .ident .. | .fnExpr | .classExpr | .paren | .template | .asType
      | .str .. | .num .. | .bigint _ | .bool _ | .null | .regex .. =>
        unless e.isAssignable do note e.span .notSimpleAssign
        return e
      | .assign _ => pure ()
      | _ => note e.span .notAPattern
    let parts := role.ofParts
    match e.form with
    | .assign .plain => return .mk .assignPat e.span e.children
    | .object =>
      let props := e.children
      let count := props.length
      let trailing := (← get).trailingCommas.lookup e.span.lo
      let converted ← (List.range count).zip props |>.mapM fun (i, prop) => do
        match prop.form with
        | .ident .. => return .mk .shorthandPat prop.span [prop, .none]
        | .keyValue =>
          let value ← toPatternWith fuel parts (prop.child 1)
          return .mk .keyPat prop.span [prop.child 0, value]
        | .assignProp => return .mk .shorthandPat prop.span prop.children
        | .spread =>
          if i + 1 != count then note prop.span .restNotLast
          else if let some comma := trailing then note comma .commaAfterRest
          let inner := prop.child 0
          let arg ←
            if parts == .binding then
              if inner.form matches .ident .. then pure inner
              else do
                note prop.span .dotsWithoutIdent
                pure (.mk .invalidPat prop.span [])
            else toPatternWith fuel parts inner
          if arg.form matches .assignPat then note prop.span .restInitializer
          return .mk .restPat prop.span [arg, .none]
        | _ => failAt prop.span .notAPattern
      return .mk (.objectPat false) e.span [.ofList converted, .none]
    | .ident .. => return e
    | .array =>
      let elems := e.children
      let holes := (elems.reverse.takeWhile Node.isNone).length
      let count := elems.length
      let trailing := (← get).trailingCommas.lookup e.span.lo
      let stop := if holes == 0 then count - 1 else count - holes
      let mut out : List Node := []
      for elem in elems.take stop do
        if elem.isNone then out := out ++ [elem]
        else if elem.form matches .spread then note elem.span .restNotLast
        else out := out ++ [← toPatternWith fuel parts elem]
      if holes == 0 then
        if let some last := elems.getLast? then
          if last.form matches .spread then
            let inner := last.child 0
            if inner.form matches .assign _ then note last.span .restInitializer
            if let some comma := trailing then note comma .commaAfterRest
            let arg ← toPatternWith fuel parts inner
            out := out ++ [.mk .restPat inner.span [arg, .none]]
          else out := out ++ [← toPatternWith fuel parts last]
      return .mk (.arrayPat false) e.span [.ofList out, .none]
    | _ => refusePattern e.span

/-- Reads an expression anew as a pattern. -/
def toPattern (role : PatternRole) (e : Node) : Parse Node := toPatternWith (e.height + 1) role e

/-- Notes errors about names in a pattern that may not be bound. -/
def checkBound (pat : Node) : Parse Unit := do
  let bad := pat.collect fun n =>
    match n.form with
    | .ident name _ _ => if isUnbindable name then [n.span] else []
    | _ => []
  for span in bad do noteStrict span .evalOrArguments

end Parse

end ScriptHost
