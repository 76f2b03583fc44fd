import ScriptHost.Parser.Pattern
/-!
# Functions and classes

The rules from the parameters of a function on, and for classes with their
members. A member starts with modifiers, each of which may be its name
instead; the token after decides.
-/

namespace ScriptHost

namespace Parse

/-! ## Functions -/

/-- Reads with the labels and targets of a new function. -/
def inNewFunction {α : Type} (op : Parse α) : Parse α := do
  let s ← get
  set { s with arrowStart := none, labels := [], trailingCommas := [] }
  let a ← op
  modify fun t =>
    { t with arrowStart := s.arrowStart, labels := s.labels, trailingCommas := s.trailingCommas }
  return a

/-- The directive of a block that asks for strict rules. -/
def strictDirective (block : Node) : Option Span :=
  match block.children with
  | first :: _ =>
    if first.form matches .exprStmt then
      match (first.child 0).form with
      | .str "use strict" _ => some (first.child 0).span
      | _ => none
    else none
  | [] => none

/-- Reads inside of the body of a function. -/
def inBody {α : Type} (isAsync isGenerator isArrow : Bool) (op : Parse α) : Parse α := do
  if (← place).inDeclare && (← typed) && (← is "\x7b") then noteHere .implementationInAmbient
  within (fun here => { here with
      inAsync := isAsync
      inGenerator := isGenerator
      inPlainFunction := here.inPlainFunction || !isArrow
      inFunction := true
      inStaticBlock := false
      breakAllowed := false
      continueAllowed := false
      expectsColon := false }) (inNewFunction op)

/-- Notes a directive that the parameters do not allow. -/
def checkDirective (simple : Bool) (block : Node) : Parse Unit := do
  unless simple do
    if let some span := strictDirective block then note span .illegalUseStrict

/-- Reads the body of a function, which a signature does not have. -/
def functionBody (p : Descend) (isAsync isGenerator simple : Bool) : Parse Node :=
  inBody isAsync isGenerator false do
    if (← typed) && !(← is "\x7b") then
      if ← eatSemi then return .none
    let block ← within ({ · with includeIn := true }) (p .block)
    checkDirective simple block
    return block

/-- Reads the body of an arrow function. -/
def arrowBody (p : Descend) (isAsync simple : Bool) : Parse Node :=
  inBody isAsync false true do
    if ← is "\x7b" then
      let block ← p .block
      checkDirective simple block
      return block
    else p .assign

/-- Reads a function from its parameters on. -/
def functionTail (p : Descend) (decorators : List Node) (start : Pos) (isAsync isGenerator : Bool)
    (check : List Node → Parse Unit) : Parse Node :=
  within ({ · with inParams := true, inFunction := false, inAsync := isAsync,
                    inGenerator := isGenerator }) do
    let tparams ←
      if ← typed then
        inType do
          if ← atTypeParams then typeParams p false true else return .none
      else pure .none
    expect "("
    let params ← formalParams p
    check params
    expect ")"
    let result ←
      if (← typed) && (← is ":") then returnType p ":" else pure .none
    let body ← functionBody p isAsync isGenerator (Node.areSimpleParams params)
    if (← typed) && body.isNone then
      for param in params do
        if (param.child 1).form matches .assignPat then note (param.child 1).span .paramInitializer
    node start (.func isAsync isGenerator)
      [.ofList decorators, .ofList params, body, tparams, result]

/-- Reads a function without a rule for its parameters. -/
def plainFunction (p : Descend) (decorators : List Node) (start : Pos)
    (isAsync isGenerator : Bool) : Parse Node :=
  functionTail p decorators start isAsync isGenerator fun _ => pure ()

/-- Reads a function from its keyword on and answers its name and the rest. -/
def namedFunction (p : Descend) (decorators : List Node) (asyncStart : Option Pos)
    (isExpr needsName : Bool) : Parse (Node × Node) := do
  let here ← pos
  let start := asyncStart.getD here
  let _ ← bump
  let isAsync := asyncStart.isSome
  let isGenerator ← eat "*"
  let name ← within (fun here =>
    let here := { here with superAllowed := false, inClassField := false }
    if isExpr then { here with inAsync := isAsync, inGenerator := isGenerator } else here)
    (declaredIdent needsName false)
  within ({ · with superAllowed := false, inClassField := false, expectsColon := false }) do
    let f ← plainFunction p decorators start isAsync isGenerator
    if isExpr && (f.child 2).isNone then unexpected "\x7b"
    return (name, f)

/-- Reads a function expression. -/
def functionExpr (p : Descend) (asyncStart : Option Pos) : Parse Node := do
  let (name, f) ← namedFunction p [] asyncStart true false
  return .mk .fnExpr f.span [name, f]

/-- Reads a function declaration. -/
def functionDecl (p : Descend) (decorators : List Node) (asyncStart : Option Pos) :
    Parse Node := do
  let (name, f) ← namedFunction p decorators asyncStart false true
  return .mk (.fnDecl false) f.span [name, f]

/-- Whether a parameter is not the one that only says what `this` is. -/
def isRealParam (param : Node) : Bool :=
  match (param.child 1).identName? with
  | some name => name != "this"
  | none => true

/-- Notes parameters of a getter. -/
def checkGetter (key : Span) (params : List Node) : Parse Unit := do
  if params.any isRealParam then note key .getterParams

/-- Notes that a setter does not have exactly one parameter. -/
def checkSetter (key : Span) (params : List Node) : Parse Unit := do
  if (params.filter isRealParam).length != 1 then note key .setterParams
  if let first :: _ := params then
    if (first.child 1).form matches .restPat then note (first.child 1).span .restInSetter

/-! ## Members of classes -/

/-- Reads the name of a class member. -/
def classKey (p : Descend) : Parse Node := do
  if ← is "#" then
    let name ← privateName
    if name.form matches .privateName "constructor" _ then note name.span .privateConstructor
    return name
  propName p

/-- Whether a member of this name is the constructor. -/
def isConstructorKey (key : Node) : Bool :=
  match key.form with
  | .name "constructor" => true
  | .str "constructor" _ => true
  | _ => false

/-- Whether a method follows its name here. -/
def atMethodTail : Parse Bool := do
  if ← is "(" then return true
  unless ← typed do return false
  atTypeParams

/-- Whether a field follows its name here. -/
def atFieldTail (lineEndCounts : Bool) : Parse Bool := do
  if (← typed) && (← isOneOf ["!", ":"]) then return true
  if ← isOneOf ["=", "\x7d"] then return true
  if lineEndCounts then isSemi else is ";"

/-- What is known about a class member before its name. -/
structure MemberHead where
  start : Pos
  decorators : List Node := []
  mods : Modifiers := {}

/-- Reads a method of a class from its parameters on; errors about the parameters of an accessor
are about its first word. -/
def classMethodWith (p : Descend) (head : MemberHead) (key : Node) (kind : MethodKind)
    (isAsync isGenerator : Bool) (wordSpan : Span) : Parse Node := do
  let check (params : List Node) : Parse Unit :=
    match kind with
    | .method => pure ()
    | .getter => checkGetter wordSpan params
    | .setter => checkSetter wordSpan params
  let f ← within ({ · with superAllowed := true, inClassField := false })
    (functionTail p head.decorators head.start isAsync isGenerator check)
  let span ← spanFrom head.start
  if key.form matches .privateName .. then
    if head.mods.access.isSome then note ⟨span.lo, key.span.hi⟩ .accessOnPrivateName
  else if head.mods.isAbstract && (f.child 2).isSome then note span .abstractWithBody
  return .mk (.classMethod kind head.mods) span [key, f]

/-- Reads a method of a class that is no accessor from its parameters on. -/
def classMethod (p : Descend) (head : MemberHead) (key : Node) (isAsync isGenerator : Bool) :
    Parse Node :=
  classMethodWith p head key .method isAsync isGenerator key.span

/-- Reads a field of a class from what follows its name on. -/
def classField (p : Descend) (head : MemberHead) (key : Node) (isAccessor : Bool) :
    Parse Node := do
  if isConstructorKey key then failAt key.span .fieldNamedConstructor
  let isPrivate := key.form matches .privateName ..
  if isPrivate then
    if head.mods.isDeclare then note key.span (.modifierBeforePrivateName "declare")
    if head.mods.isAbstract then note key.span (.modifierBeforePrivateName "abstract")
  let isDefinite ←
    if (← typed) && !head.mods.isOptional then eat "!" else pure false
  let ann ← optionalTypeAnn p
  within ({ · with includeIn := true, inClassField := true }) do
    let value ←
      if ← eat "=" then p .assign else pure .none
    unless ← eatSemi do noteHere .expectedSemicolon
    let span ← spanFrom head.start
    let mods := { head.mods with isDefinite }
    let cs := [.ofList head.decorators, key, value, ann]
    if isAccessor then return .mk (.accessorField mods) span cs
    if isPrivate then
      if head.mods.access.isSome then note ⟨span.lo, key.span.hi⟩ .accessOnPrivateName
    else if head.mods.isAbstract && value.isSome then note span .abstractWithInit
    return .mk (.classField mods) span cs

/-- Reads a member whose name is a word that could have been a modifier; `none` if it was one. -/
def wordMember? (p : Descend) (head : MemberHead) (wordSpan : Span) (text : String)
    (lineEndCounts : Bool) : Parse (Option Node) := do
  let key := Node.mk (.name text) wordSpan []
  let optional : Parse MemberHead := do
    let isOptional ← if ← typed then eat "?" else pure false
    return { head with mods := { head.mods with isOptional } }
  if ← atMethodTail then
    let head ← optional
    return some (← classMethod p head key false false)
  if (← atFieldTail lineEndCounts) || ((← typed) && (← is "?")) then
    if ← is "\x7b" then return none
    let head ← optional
    return some (← classField p head key false)
  return none

/-- Reads a block that runs when the class is made. -/
def staticBlock (p : Descend) (start : Pos) : Parse Node := do
  let body ← within ({ · with inStaticBlock := true, inClassField := true, usingAllowed := true })
    (p .block)
  node start .staticBlock [body]

/-- Reads a constructor from its parameters on. -/
def constructorTail (p : Descend) (head : MemberHead) (key : Node)
    (staticSpan modSpan : Option Span) : Parse Node := do
  if (← typed) && head.mods.isOverride then
    note (← spanFrom head.start) (.modifierOnConstructor "override")
  if (← typed) && (← is "<") then
    let start ← pos
    if ← aheadIs ">" then
      let _ ← bump
      let start2 ← pos
      let _ ← bump
      note (← spanFrom start) .emptyTypeParams
      note (← spanFrom start2) .typeParamsOnConstructor
    else
      let params ← typeParams p false true
      for t in params.children do note t.span .typeParamsOnConstructor
  expect "("
  let params ← constructorParams p
  expect ")"
  if (← typed) && (← is ":") then
    let start ← pos
    let ann ← typeAnn p true start
    note (ann.child 0).span .typeAnnOnConstructor
  let body ← functionBody p false false (Node.areSimpleParams params)
  if body.isNone then
    for param in params do
      if param.form matches .paramProp _ then note param.span .paramPropOutsideConstructor
    if ← typed then
      for param in params do
        if (param.child 1).form matches .assignPat then note (param.child 1).span .paramInitializer
  if let some span := staticSpan then note span (.modifierOnConstructor "static")
  if head.mods.isAbstract then
    if let some span := modSpan then note span .abstractNotHere
  node head.start (.constructor head.mods) [key, .ofList params, body]

/-- The modifiers of a class member as they are read, with where some of them stand. -/
structure ReadModifiers where
  mods : Modifiers
  last : Option Span := none
  readonlySpan : Option Span := none

/-- Reads the modifiers in front of the name of a class member. -/
def memberModifiers (mods : Modifiers) : Parse ReadModifiers :=
  repeatUntil ({ mods } : ReadModifiers) fun r => do
    match ← modifier ["abstract", "readonly", "override", "static"] true with
    | none => return .inr r
    | some name =>
      let span ← prevSpan
      let r := { r with last := some span }
      let m := r.mods
      match name with
      | "abstract" =>
        if m.isAbstract then note span (.modifierSeen "abstract")
        else if m.isOverride then note span (.modifierOrder "abstract" "override")
        return .inl { r with mods := { m with isAbstract := true } }
      | "override" =>
        if m.isOverride then note span (.modifierSeen "override")
        else if m.isReadonly then note span (.modifierOrder "override" "readonly")
        else if m.isDeclare then note span (.modifierConflict "override" "declare")
        else if !(← place).hasSuperClass then note span .overrideWithoutExtends
        return .inl { r with mods := { m with isOverride := true } }
      | "readonly" =>
        if m.isReadonly then note span (.modifierSeen "readonly")
        return .inl { r with mods := { m with isReadonly := true }, readonlySpan := some span }
      | _ =>
        if m.isOverride then note span (.modifierOrder "static" "override")
        return .inl { r with mods := { m with isStatic := true } }

/-- Reads a class member after the modifiers that may come first. -/
def memberAfterStatic (p : Descend) (head : MemberHead) (declareSpan staticSpan : Option Span) :
    Parse Node := do
  let start := head.start
  let r ← memberModifiers head.mods
  let mods := r.mods
  let isAccessor ←
    if (← typed) && (← is "accessor") then
      match ← attempt (do
          let _ ← bump
          if ← canFollowModifier then return some ()
          return none) with
      | some _ => pure true
      | none => pure false
    else pure false
  if mods.isStatic && (← is "\x7b") then
    if let some span := declareSpan then note span .modifierNotHere
    if mods.access.isSome then noteHere .modifierNotHere
    return ← staticBlock p start
  if ← (is "static" <&&> aheadIs "\x7b") then
    if let some span := r.last then note span .modifierNotHere
    if let some span := staticSpan then note span .modifierNotHere
    let _ ← bump
    return ← staticBlock p start
  if (← typed) && !mods.isAbstract && !mods.isOverride && mods.access.isNone then
    if let some m ← indexSignature? p start mods.isReadonly mods.isStatic then return m
  let head := { head with mods }
  let noteDeclare : Parse Unit := do
    if let some span := declareSpan then note span .declareOnMember
  if ← eat "*" then
    let key ← classKey p
    if mods.isReadonly then note (← spanFrom start) .readonlyMethod
    if isConstructorKey key then note (← spanFrom start) .generatorConstructor
    return ← classMethod p head key false true
  let (key, head) ←
    match r.readonlySpan with
    | some span =>
      if ← isOneOf ["!", ":"] then
        pure (Node.mk (.name "readonly") span [], head)
      else pure (← classKey p, head)
    | none => pure (← classKey p, head)
  let isOptional ← if ← typed then eat "?" else pure false
  let head := { head with mods := { head.mods with isOptional } }
  if ← atMethodTail then
    noteDeclare
    if mods.isReadonly then failAt (← spanFrom start) .readonlyMethod
    if isConstructorKey key then
      return ← constructorTail p head key staticSpan r.last
    return ← classMethod p head key false false
  let nextIsGenerator := (← lineBreak) && (← is "*")
  let accessor : Option MethodKind ←
    match key.form with
    | .name "get" =>
      pure (if !(← atFieldTail false) && !nextIsGenerator then some .getter else none)
    | .name "set" =>
      pure (if !(← atFieldTail false) && !nextIsGenerator then some .setter else none)
    | _ => pure none
  if accessor.isNone && (← atFieldTail true) then
    return ← classField p head key isAccessor
  if key.form == .name "async" && !(← lineBreak) then
    noteDeclare
    let head ←
      if (← modifier ["override"] false).isSome then do
        note (← prevSpan) (.modifierOrder "override" "async")
        pure { head with mods := { head.mods with isOverride := true } }
      else pure head
    let isGenerator ← eat "*"
    let key ← classKey p
    if isConstructorKey key then failAt key.span .asyncConstructor
    if mods.isReadonly then note (← spanFrom start) .readonlyMethod
    let isOptional ←
      if isOptional then pure true
      else if ← typed then eat "?" else pure false
    let head := { head with mods := { head.mods with isOptional } }
    return ← classMethod p head key true isGenerator
  match accessor with
  | some kind =>
    let wordSpan := key.span
    let key ← classKey p
    noteDeclare
    if mods.isReadonly then note wordSpan .readonlyAccessor
    if isConstructorKey key then note wordSpan .accessorConstructor
    classMethodWith p head key kind false false wordSpan
  | none => unexpected "* for generator, private key, identifier or async"

/-- Reads a member of a class. -/
def classMember (p : Descend) : Parse Node := do
  let start ← pos
  let decorators := (← p .decorators).items
  let head : MemberHead := { start, decorators }
  let wordStart ← pos
  let first ← if ← typed then eat "declare" else pure false
  if first then
    if let some m ← wordMember? p head (← spanFrom wordStart) "declare" true then return m
  let declareSpan : Option Span ← if first then pure (some (← spanFrom wordStart)) else pure none
  let access ← if ← typed then accessModifier else pure none
  let head := { head with mods := { head.mods with access } }
  let wordStart ← pos
  let second ← if !first && (← typed) then eat "declare" else pure false
  if second then
    if let some m ← wordMember? p head (← spanFrom wordStart) "declare" true then return m
  let declareSpan : Option Span ←
    if second then pure (some (← spanFrom wordStart)) else pure declareSpan
  let head := { head with mods := { head.mods with isDeclare := first || second } }
  let wordStart ← pos
  let isStatic ← eat "static"
  if isStatic then
    if let some m ← wordMember? p head (← spanFrom wordStart) "static" false then return m
  let staticSpan : Option Span ← if isStatic then pure (some (← spanFrom wordStart)) else pure none
  let head := { head with mods := { head.mods with isStatic } }
  memberAfterStatic p head declareSpan staticSpan

/-- Whether a member is a constructor with a body. -/
def isFullConstructor (m : Node) : Bool :=
  match m.form with
  | .constructor _ => (m.child 2).isSome
  | _ => false

/-- Reads the members of a class up to the closing brace. -/
def classMembers (p : Descend) : Parse (List Node) := do
  let (members, _) ← repeatUntil (([] : List Node), false) fun (acc, hasConstructor) => do
    if (← atEnd) || (← is "\x7d") then return .inr (acc, hasConstructor)
    if ← eat ";" then
      let span ← prevSpan
      return .inl (acc ++ [.mk .emptyMember span []], hasConstructor)
    let m ← within ({ · with superAllowed := true }) (classMember p)
    if isFullConstructor m && !(← place).inDeclare then
      if hasConstructor then note m.span .duplicateConstructor
      return .inl (acc ++ [m], true)
    return .inl (acc ++ [m], hasConstructor)
  return members

/-! ## Classes -/

/-- Reads what a class extends, with type arguments. -/
def superClass (p : Descend) : Parse (Node × Node) := do
  let e ← p .operand
  if e.form matches .instantiation then return (e.child 0, e.child 1)
  let args ← if (← typed) && (← is "<") then typeArgs p else pure .none
  return (e, args)

/-- Reads what a class implements or an interface extends. -/
def heritage (p : Descend) : Parse (List Node) :=
  delimited .heritage do
    let start ← pos
    let e ← p .operand
    if e.form matches .instantiation then
      return .mk .heritage e.span [e.child 0, e.child 1]
    let args ← if ← is "<" then typeArgs p else pure .none
    node start .heritage [e, args]

/-- Reads what a class extends, of which only the first thing counts. -/
def superClasses (p : Descend) : Parse (Node × Node) := do
  let base ← superClass p
  if ← (typed <&&> eat ",") then
    for extra in ← heritage p do note extra.span .multipleExtends
  return base

/-- The names that a type of its own cannot have. -/
def reservedTypeNames : List String :=
  ["string", "null", "number", "object", "any", "unknown", "boolean", "bigint", "symbol", "void",
   "never", "intrinsic"]

/-- Whether a member with a public name is abstract. -/
def isAbstractMember (m : Node) : Bool :=
  match m.form with
  | .classMethod _ mods => mods.isAbstract && !((m.child 0).form matches .privateName ..)
  | .classField mods => mods.isAbstract && !((m.child 1).form matches .privateName ..)
  | _ => false

/-- Reads a class from its keyword on and answers its name and the rest. -/
def namedClass (p : Descend) (start : Pos) (decorators : List Node) (needsName isAbstract : Bool) :
    Parse (Node × Node) :=
  within ({ · with inClass := true }) do
    expect "class"
    let name ← declaredIdent needsName true
    if ← typed then
      match name.identName? with
      | some n =>
        if ["any", "unknown", "never", "number", "bigint", "boolean", "string", "symbol", "void",
            "object"].contains n then note name.span .invalidClassName
      | none => pure ()
    let params ← if ← typed then optionalTypeParams p true true else pure .none
    let (base, baseArgs) ← if ← eat "extends" then superClasses p else pure (.none, .none)
    if ← eat "extends" then
      note (← prevSpan) .extendsSeen
      let _ ← superClass p
    let implemented ← if ← (typed <&&> eat "implements") then heritage p else pure []
    if ← (typed <&&> eat "implements") then
      note (← prevSpan) .implementsSeen
      let _ ← heritage p
    let (base, baseArgs) ←
      if ← (typed <&&> eat "extends") then do
        note (← prevSpan) .extendsAfterImplements
        let late ← superClass p
        pure (if base.isNone then late else (base, baseArgs))
      else pure (base, baseArgs)
    expect "\x7b"
    let members ← within ({ · with hasSuperClass := base.isSome }) (classMembers p)
    if ← atEnd then
      noteHere (.expectedToken "\x7d" "<eof>")
    else expect "\x7d"
    if (← typed) && !isAbstract then
      for m in members do
        if isAbstractMember m then note m.span .abstractOutsideAbstract
    let body ← node start (.classBody isAbstract)
      [.ofList decorators, base, baseArgs, params, .ofList implemented, .ofList members]
    return (name, body)

/-- Reads a class declaration. -/
def classDecl (p : Descend) (start : Pos) (decorators : List Node) (isAbstract : Bool) :
    Parse Node := do
  let (name, body) ← namedClass p start decorators true isAbstract
  return .mk (.classDecl false) body.span [name, body]

/-- Reads a class expression. -/
def classExpr (p : Descend) (start : Pos) (decorators : List Node) : Parse Node := do
  let (name, body) ← namedClass p start decorators false false
  return .mk .classExpr body.span [name, body]

end Parse

end ScriptHost
