import ScriptHost.Lower.Hoist
import ScriptHost.Lower.Super
/-!
# Functions and object literals

- `Node.nameFunctions`: functions with the names of what they are values of.
- `Node.lowerNewTarget`: `new.target` without its own syntax.
- `Node.lowerObjectBase`: object literals without references to what they inherit from.
- `Node.lowerComputed`: object literals whose keys are fixed.
-/

namespace ScriptHost

namespace Node

/-! ## Names of functions -/

/-- A function or class without a name, with one. -/
def named (text : String) (value : Node) : Lowering Node := do
  match value with
  | mk .fnExpr sp [name, f] =>
    if name.isNone && !reservedNames.contains text && isIdentText text then
      return mk .fnExpr sp [← Lowering.fresh text, f]
    else return value
  | value => return value

/-- Functions with the names of what they are values of. -/
def nameFunctions (n : Node) : Lowering Node := do
  match n with
  | mk (.declarator d) sp [pattern, init] =>
    match pattern.identName? with
    | some text => return mk (.declarator d) sp [pattern, ← named text init]
    | Option.none => return n
  | mk (.assign .plain) sp [target, value] =>
    match target with
    | mk (.ident text _ _) _ _ => return mk (.assign .plain) sp [target, ← named text value]
    | mk .member _ [_, mk (.name text) _ _] =>
      return mk (.assign .plain) sp [target, ← named text value]
    | _ => return n
  | mk .keyValue sp [key, value] =>
    match key with
    | mk (.name text) _ _ => return mk .keyValue sp [key, ← named text value]
    | _ => return n
  | n => return n

/-! ## `new.target` -/

/-- What `new.target` is in the code that a node is part of. -/
inductive CallKind where
  /-- The constructor of a class. -/
  | constructor
  /-- A function with a name, which may be called either way. -/
  | function (name : Node)
  /-- Code that is never called with `new`. -/
  | other
deriving Inhabited

/-- The expression for `new.target`. -/
def newTargetIn (kind : CallKind) : Node :=
  let made' := dot (made .this []) "constructor"
  match kind with
  | .constructor => made'
  | .function name =>
    let isInstance := made (.binary .instanceOf) [made .this [], name.withSpan .synthetic]
    made .cond [isInstance, made', undefined]
  | .other => undefined

mutual
/-- The tree without `new.target`. -/
def lowerNewTarget (kind : CallKind) : Node → Lowering Node
  | mk .newTarget sp _ => return (newTargetIn kind).withSpan sp
  | mk (.fnDecl d) sp [name, mk (.func a g) fsp cs] => do
    return mk (.fnDecl d) sp
      [name, mk (.func a g) fsp (← lowerNewTargetAll (.function name) cs)]
  | mk .fnExpr sp [name, mk (.func a g) fsp cs] => do
    if name.isSome then
      return mk .fnExpr sp [name, mk (.func a g) fsp (← lowerNewTargetAll (.function name) cs)]
    else
      let own ← Lowering.fresh "_target"
      let name := if anyList (fun n => n.form == .newTarget) cs then own else none
      return mk .fnExpr sp [name, mk (.func a g) fsp (← lowerNewTargetAll (.function own) cs)]
  | mk (.func a g) sp cs => return mk (.func a g) sp (← lowerNewTargetAll .other cs)
  | mk (.constructor mods) sp cs =>
    return mk (.constructor mods) sp (← lowerNewTargetAll .constructor cs)
  | mk form sp cs => return mk form sp (← lowerNewTargetAll kind cs)
/-- Nodes without `new.target`. -/
def lowerNewTargetAll (kind : CallKind) : List Node → Lowering (List Node)
  | [] => return []
  | c :: cs => do
    let c ← lowerNewTarget kind c
    return c :: (← lowerNewTargetAll kind cs)
end

/-! ## Members of the base -/

/-- Whether a method uses a member of its base. -/
def usesBase (method : Node) : Bool :=
  match method with
  | mk (.method _) _ [_, mk (.func ..) _ cs] =>
    cs.any fun c => c.anyOutside (fun n => n.form matches .func .. | .classBody _)
      (fun n => n.form == .superRef)
  | _ => false

/-- An object literal that is kept in a variable if its methods use members of its base. -/
def lowerObjectBase (n : Node) : Hoisting Node := do
  match n with
  | mk .object sp props =>
    if !props.any usesBase then return n
    else
      let object ← Hoisting.keep none "_obj"
      let props ← props.mapM fun p => do
        match p with
        | mk (.method kind) psp [key, f] =>
          return mk (.method kind) psp [key, ← useBaseIn { home := object } f]
        | p => return p
      return assignTo object (mk .object sp props)
  | n => return n

/-! ## Computed keys -/

/-- Whether a property has a key that is computed. -/
def hasComputedKey (prop : Node) : Bool :=
  match prop with
  | mk .keyValue _ [mk .computed _ [_], _] | mk (.method _) _ [mk .computed _ [_], _] => true
  | _ => false

/-- The key of a property and the value that it is given. -/
def computedEntry (prop : Node) : Node × Node :=
  let key (k : Node) : Node :=
    match k with
    | mk .computed _ [e] => e
    | mk (.name text) _ _ => string text
    | k => k
  match prop with
  | mk .keyValue _ [k, value] => (key k, value)
  | mk (.ident name scope _) _ _ => (string name, var name scope)
  | mk (.method _) _ [k, f] => (key k, made .fnExpr [none, f])
  | p => (none, p)

/-- The function of a property that is no plain value: the word for what it does, and the key. -/
def computedAccessor? (prop : Node) : Option (String × Node × Node) :=
  match prop with
  | mk (.method .getter) _ [k, f] => some ("get", k.keyExpr, made .fnExpr [none, f])
  | mk (.method .setter) _ [k, f] => some ("set", k.keyExpr, made .fnExpr [none, f])
  | _ => Option.none

/-- What adds a property to an object; the functions of properties are collected first. -/
def defineOne (object accessors prop : Node) : Lowering (List Node) := do
  match prop.computedAccessor? with
  | some (word, key, f) =>
    let slot := index accessors key
    let found := made (.binary .or) [slot, made .object []]
    return [assignTo slot found, assignTo (dot slot word) f]
  | Option.none =>
    let (key, value) := computedEntry prop
    return [← Lowering.callHelper .defineProperty [object, key, value]]

/-- An object literal whose keys are fixed. -/
def lowerComputed (n : Node) : Hoisting Node := do
  match n with
  | mk .object sp props =>
    let plain := props.takeWhile (!·.hasComputedKey)
    let rest := props.dropWhile (!·.hasComputedKey)
    let hasAccessor := rest.any fun p => p.computedAccessor?.isSome
    match rest, hasAccessor with
    | [], _ => return n
    | [p], false =>
      let (key, value) := computedEntry p
      return (← Lowering.callHelper .defineProperty [made .object plain, key, value]).withSpan sp
    | ps, _ =>
      let object ← Hoisting.keep none "_obj"
      let accessors ← Lowering.fresh "_mutatorMap"
      let defined ← ps.mapM fun p => do return ← defineOne object accessors p
      let last ←
        if !hasAccessor then pure []
        else do
          modify fun vars => vars ++ [assignTo accessors (made .object [])]
          pure [← Lowering.callHelper .defineEnumerableProperties [object, accessors]]
      return mk .seq sp (assignTo object (made .object plain) :: defined.flatten ++ last ++ [object])
  | n => return n

end Node

end ScriptHost
