import ScriptHost.Lower.Basic
/-!
# Members of the base

`super` names the base of the class or the object that a method was written
in. Code that is moved out of its class, or runs without classes, finds the
base by the object that it is the base of.

- `BaseAccess`: how code reaches the members of its base.
- `Node.useBase`: the code with calls of helpers for such members.
-/

namespace ScriptHost

namespace Node

/-- The key of a member as an expression. -/
def keyExpr (key : Node) : Node :=
  match key with
  | mk .computed _ [e] => e
  | mk (.name text) _ _ => string text
  | key => key

/-- The list of arguments that passes on all that a function was called with. -/
def isAllArguments (args : List Node) : Bool :=
  match args with
  | [mk .spread _ [mk (.ident "arguments" _ _) _ _]] => true
  | _ => false

end Node

/-- How code reaches the members of its base. -/
structure BaseAccess where
  /-- The object whose base it is. -/
  home : Node
  /-- What the code has in the place of `this`; a constructor of a derived class has it only
  when the base was called. -/
  this : Node := .made .this []
  /-- Whether `this` has to be checked. -/
  isLate : Bool := false
deriving Inhabited

namespace BaseAccess

/-- The access of the methods of a class: those of its objects, or those of the class itself. -/
def ofClass (owner : Node) (isStatic : Bool) : BaseAccess :=
  { home := if isStatic then owner else .dot owner "prototype" }

/-- The base. -/
def object (b : BaseAccess) : Lowering Node := do
  let base ← Lowering.callHelper .getPrototypeOf [b.home]
  if b.isLate then
    return .made .seq [← Lowering.callHelper .assertThisInitialized [b.this], base]
  else return base

/-- A read of a member. -/
def read (b : BaseAccess) (key : Node) : Lowering Node := do
  Lowering.callHelper .superGet [← b.object, key.keyExpr, b.this]

/-- A write of a member. -/
def write (b : BaseAccess) (key value : Node) : Lowering Node := do
  Lowering.callHelper .superSet [← b.object, key.keyExpr, value, b.this, .made (.bool true) []]

/-- A member as a place that is read and written. -/
def place (b : BaseAccess) (key : Node) : Lowering Node := do
  let place ← Lowering.callHelper .superUpdate
    [← b.object, key.keyExpr, b.this, .made (.bool true) []]
  return .dot place "_"

/-- A call of a member, for the object that the code is for. -/
def call (b : BaseAccess) (key : Node) (args : List Node) : Lowering Node := do
  let f ← b.read key
  match args with
  | [.mk .spread _ [all]] =>
    if Node.isAllArguments args then return .callOf (.dot f "apply") [b.this, all]
    else return .callOf (.dot f "call") (b.this :: args)
  | args => return .callOf (.dot f "call") (b.this :: args)

end BaseAccess

namespace Node

mutual
/-- The code of a method with calls of helpers for the members of its base; where a place is
wanted that a value is put into, a member is one. -/
def useBase (b : BaseAccess) (isPlace : Bool) : Node → Lowering Node
  | mk .call sp [mk .member _ [mk .superRef _ _, key], _, mk .list _ args] => do
    let key ← useBase b false key
    let args ← useBaseAll b false args
    return (← b.call key args).withSpan sp
  | mk (.assign .plain) sp [mk .member _ [mk .superRef _ _, key], value] => do
    let key ← useBase b false key
    let value ← useBase b false value
    return (← b.write key value).withSpan sp
  | mk (.assign op) sp [target, value] => do
    let target ← useBase b true target
    return mk (.assign op) sp [target, ← useBase b false value]
  | mk (.update op isBefore) sp [target] => do
    return mk (.update op isBefore) sp [← useBase b true target]
  | mk .member sp [mk .superRef _ _, key] => do
    let key ← useBase b false key
    let member ← if isPlace then b.place key else b.read key
    return member.withSpan sp
  | mk (.arrayPat o) sp [mk .list lsp elems, ann] => do
    return mk (.arrayPat o) sp [mk .list lsp (← useBaseAll b true elems), ann]
  | mk (.objectPat o) sp [mk .list lsp props, ann] => do
    return mk (.objectPat o) sp [mk .list lsp (← useBaseAll b true props), ann]
  | mk .keyPat sp [key, pattern] => do
    let key ← useBase b false key
    return mk .keyPat sp [key, ← useBase b true pattern]
  | mk .restPat sp (pattern :: ann) => return mk .restPat sp ((← useBase b true pattern) :: ann)
  | mk .assignPat sp [pattern, value] => do
    let pattern ← useBase b true pattern
    return mk .assignPat sp [pattern, ← useBase b false value]
  | mk .forIn sp [left, right, body] => do
    let left ← useBase b true left
    let right ← useBase b false right
    return mk .forIn sp [left, right, ← useBase b false body]
  | mk (.forOf isAwait) sp [left, right, body] => do
    let left ← useBase b true left
    let right ← useBase b false right
    return mk (.forOf isAwait) sp [left, right, ← useBase b false body]
  | mk (.func a g) sp cs => return mk (.func a g) sp cs
  | mk (.classBody a) sp cs => return mk (.classBody a) sp cs
  | mk form sp cs => return mk form sp (← useBaseAll b false cs)
/-- The parts of a method with calls of helpers for the members of its base. -/
def useBaseAll (b : BaseAccess) (isPlace : Bool) : List Node → Lowering (List Node)
  | [] => return []
  | c :: cs => do
    let c ← useBase b isPlace c
    return c :: (← useBaseAll b isPlace cs)
end

/-- A function with calls of helpers for the members of its base. -/
def useBaseIn (b : BaseAccess) (f : Node) : Lowering Node := do
  match f with
  | mk (.func a g) sp cs => return mk (.func a g) sp (← useBaseAll b false cs)
  | f => return f

end Node

end ScriptHost
