import ScriptHost.Lower.OptionalChain
/-!
# Private members

A private member of a class is kept outside of its objects: the value of a
private field in a weak map from objects, a private method in a function
beside the class. Code that uses such a member calls helpers.

- `PrivateMember`: where a private member is kept.
- `Node.usePrivate`: the tree with calls of helpers for private members.
- `Node.hasLostPrivate`: whether private members have no place.
-/

namespace ScriptHost

/-- The kinds of private members. -/
inductive PrivateKind where
  | field
  | method
  /-- A property with functions that read or write it. -/
  | accessor (hasGetter hasSetter : Bool)
deriving BEq, DecidableEq, Repr, Inhabited

/-- Where a private member of a class is kept. -/
structure PrivateMember where
  name : String
  kind : PrivateKind
  /-- Whether it belongs to the class itself. -/
  isStatic : Bool
  /-- The variable of the map, the set or the descriptor. -/
  store : Node
  /-- The function of a method. -/
  function : Node := .none
deriving Inhabited

namespace PrivateMember

/-- Whether a value can be written to the member. -/
def isWritable (m : PrivateMember) : Bool :=
  match m.kind with
  | .field => true
  | .method => false
  | .accessor _ hasSetter => hasSetter

/-- Whether the member has a value. -/
def isReadable (m : PrivateMember) : Bool :=
  match m.kind with
  | .accessor hasGetter _ => hasGetter
  | _ => true

/-- The member's name as it is written. -/
def label (m : PrivateMember) : Node := Node.string ("#" ++ m.name)

/-- Two members of one name as one, if they are the two functions of a property. -/
def join? (m other : PrivateMember) : Option PrivateMember :=
  match m.kind, other.kind with
  | .accessor g s, .accessor g' s' =>
    if (g && g') || (s && s') || m.isStatic != other.isStatic then none
    else some { m with kind := .accessor (g || g') (s || s') }
  | _, _ => none

end PrivateMember

/-- The private members of a class. -/
structure PrivateMembers where
  /-- The variable of the class. -/
  owner : Node
  members : List PrivateMember
deriving Inhabited

/-- What is wanted of a private member. -/
inductive PrivateUse where
  | read
  /-- To change it by one. -/
  | update
  /-- To have a pattern write it. -/
  | fill
deriving BEq, DecidableEq, Repr, Inhabited

namespace PrivateMembers

/-- A private member by its name. -/
def find? (ps : PrivateMembers) (name : String) : Option PrivateMember :=
  ps.members.find? (·.name == name)

/-- The helper that reaches a member for a use. -/
def helperFor (m : PrivateMember) (use : PrivateUse) : Helper :=
  match use, m.isStatic, m.kind with
  | .read, true, .method => .classStaticPrivateMethodGet
  | .read, true, _ => .classStaticPrivateFieldGet
  | .read, false, .method => .classPrivateMethodGet
  | .read, false, _ => .classPrivateFieldGet
  | .update, true, _ => .classStaticPrivateFieldUpdate
  | .update, false, _ => .classPrivateFieldUpdate
  | .fill, true, _ => .classStaticPrivateFieldDestructure
  | .fill, false, _ => .classPrivateFieldDestructure

/-- A private member of an object, for a use. -/
def reach (ps : PrivateMembers) (m : PrivateMember) (use : PrivateUse) (object : Node) :
    Lowering Node := do
  if use == .read && !m.isReadable then
    return .made .seq [object, ← Lowering.callHelper .writeOnlyError [m.label]]
  else
    let kept := match m.isStatic, m.kind with
      | true, .method => [ps.owner, m.function]
      | true, _ => [ps.owner, m.store]
      | false, .method => [m.store, m.function]
      | false, _ => [m.store]
    let value ← Lowering.callHelper (helperFor m use) (object :: kept)
    return if use == .read then value else .dot value "value"

/-- A write of a private member of an object. -/
def write (ps : PrivateMembers) (m : PrivateMember) (object value : Node) : Lowering Node := do
  if !m.isWritable then
    return .made .seq [object, value, ← Lowering.callHelper .readOnlyError [m.label]]
  else if m.isStatic then
    Lowering.callHelper .classStaticPrivateFieldSet [object, ps.owner, m.store, value]
  else Lowering.callHelper .classPrivateFieldSet [object, m.store, value]

/-- The private member that a name stands for. -/
def named? (ps : PrivateMembers) (key : Node) : Option PrivateMember :=
  match key with
  | .mk (.privateName name _) _ _ => ps.find? name
  | _ => none

/-- The private member that a member access names. -/
def accessed? (ps : PrivateMembers) (n : Node) : Option PrivateMember :=
  match n with
  | .mk .member _ [_, key] => ps.named? key
  | _ => none

end PrivateMembers

namespace Node

/-- An expression for an object, and one that reads it again. -/
def readTwice (object : Node) : Hoisting (Node × Node) := do
  match object.form with
  | .this | .ident .. => return (object, object)
  | _ =>
    let var ← Hoisting.keep object "_ref"
    return (assignTo var object, var)

/-- The private member of an object for a use, and what a call of it is for. -/
def reachPrivate (ps : PrivateMembers) (m : PrivateMember) (use : PrivateUse) (object : Node) :
    Hoisting (Node × Node) := do
  if m.isStatic then return (← ps.reach m use object, ps.owner)
  else
    let (first, again) ← object.readTwice
    return (← ps.reach m use first, again)

/-- An assignment to a private member. -/
def writePrivate (ps : PrivateMembers) (m : PrivateMember) (op : AssignOp) (object value : Node) :
    Hoisting Node := do
  match op with
  | .plain => ps.write m object value
  | .compound binary =>
    if !m.isWritable then ps.write m object value
    else
      let (first, again) ← match object.form with
        | .this => pure (object, object)
        | _ =>
          let var ← Hoisting.keep object "_ref"
          pure (assignTo var object, var)
      let old ← ps.reach m .read again
      ps.write m first (made (.binary binary) [old, value])

/-- Whether an optional chain has a link to a private member of a class. -/
def chainsPrivate (ps : PrivateMembers) : Node → Bool
  | mk (.optMember _) _ [object, key] => (ps.named? key).isSome || object.chainsPrivate ps
  | mk (.optCall _) _ (callee :: _) => callee.chainsPrivate ps
  | _ => false

/-- Functions inside of a tree declare the variables that their code needs. -/
def declaringIn (body : Node) (vars : List Node) : Node :=
  match body with
  | mk .block sp stmts => mk .block sp (prependStmts (declareVars vars) stmts)
  | body => body

/-- A tree whose chains with links to private members of a class are taken apart. The first
argument bounds how deep the tree is. -/
def withoutPrivateChains (ps : PrivateMembers) : Nat → Node → Hoisting Node
  | 0, n => return n
  | depth + 1, n =>
    match n with
    | mk (.func a g) sp [ds, params, body, tps, result] => do
      let ((params, body), vars) ← Hoisting.collect do
        let params ← params.mapChildrenM (withoutPrivateChains ps depth)
        return (params, ← body.mapChildrenM (withoutPrivateChains ps depth))
      return mk (.func a g) sp [ds, params, body.declaringIn vars, tps, result]
    | mk (.constructor mods) sp [key, params, body] => do
      let ((params, body), vars) ← Hoisting.collect do
        let params ← params.mapChildrenM (withoutPrivateChains ps depth)
        return (params, ← body.mapChildrenM (withoutPrivateChains ps depth))
      return mk (.constructor mods) sp [key, params, body.declaringIn vars]
    | n => do
      let n ← if n.chainsPrivate ps then n.withoutChains else pure n
      n.mapChildrenM (withoutPrivateChains ps depth)

mutual
/-- The tree with calls of helpers for the private members of a class, for a use of its value. -/
def usePrivate (ps : PrivateMembers) (use : PrivateUse) : Node → Hoisting Node
  | mk (.func a g) sp [ds, params, body, tps, result] => do
    let ((params, body), vars) ← Hoisting.collect do
      let params ← usePrivate ps .read params
      return (params, ← usePrivate ps .read body)
    return mk (.func a g) sp [ds, params, body.declaringIn vars, tps, result]
  | mk (.constructor mods) sp [key, params, body] => do
    let ((params, body), vars) ← Hoisting.collect do
      let params ← usePrivate ps .read params
      return (params, ← usePrivate ps .read body)
    return mk (.constructor mods) sp [key, params, body.declaringIn vars]
  | mk (.assign op) sp [mk .member msp [object, key], value] => do
    let object ← usePrivate ps .read object
    let key ← usePrivate ps .read key
    let value ← usePrivate ps .read value
    match ps.named? key with
    | some m => return (← writePrivate ps m op object value).withSpan sp
    | Option.none => return mk (.assign op) sp [mk .member msp [object, key], value]
  | mk (.assign op) sp [target, value] => do
    let target ← usePrivate ps .fill target
    return mk (.assign op) sp [target, ← usePrivate ps .read value]
  | mk (.update op isBefore) sp [target] => do
    return mk (.update op isBefore) sp [← usePrivate ps .update target]
  | mk .call sp [mk .member msp [object, key], targs, args] => do
    let object ← usePrivate ps .read object
    let key ← usePrivate ps .read key
    let args ← usePrivate ps .read args
    match ps.named? key with
    | some m =>
      let (f, this) ← reachPrivate ps m .read object
      return mk .call sp [dot f "call", targs, args.withChildren (this :: args.items)]
    | Option.none => return mk .call sp [mk .member msp [object, key], targs, args]
  | mk .tagged sp [mk .member msp [object, key], targs, text] => do
    let object ← usePrivate ps .read object
    let key ← usePrivate ps .read key
    let text ← usePrivate ps .read text
    match ps.named? key with
    | some m =>
      let (f, this) ← reachPrivate ps m .read object
      return mk .tagged sp [callOf (dot f "bind") [this], targs, text]
    | Option.none => return mk .tagged sp [mk .member msp [object, key], targs, text]
  | mk .member sp [object, key] => do
    let object ← usePrivate ps .read object
    let key ← usePrivate ps .read key
    match ps.named? key with
    | some m =>
      let (value, _) ← reachPrivate ps m use object
      return value.withSpan sp
    | Option.none => return mk .member sp [object, key]
  | mk (.binary .isIn) sp [mk (.privateName name s) nsp cs, object] => do
    let object ← usePrivate ps .read object
    match ps.find? name with
    | some m =>
      if object.identId? == ps.owner.identId? then
        return mk (.binary .strictEq) sp [ps.owner, object]
      else if m.isStatic then return mk (.binary .strictEq) sp [object, ps.owner]
      else return (callOf (dot m.store "has") [object]).withSpan sp
    | Option.none => return mk (.binary .isIn) sp [mk (.privateName name s) nsp cs, object]
  | mk (.arrayPat o) sp [mk .list lsp elems, ann] => do
    return mk (.arrayPat o) sp [mk .list lsp (← usePrivateAll ps .fill elems), ann]
  | mk (.objectPat o) sp [mk .list lsp props, ann] => do
    return mk (.objectPat o) sp [mk .list lsp (← usePrivateAll ps .fill props), ann]
  | mk .keyPat sp [key, pattern] => do
    let key ← usePrivate ps .read key
    return mk .keyPat sp [key, ← usePrivate ps .fill pattern]
  | mk .restPat sp (pattern :: ann) => do
    return mk .restPat sp ((← usePrivate ps .fill pattern) :: ann)
  | mk .assignPat sp [pattern, value] => do
    let pattern ← usePrivate ps .fill pattern
    return mk .assignPat sp [pattern, ← usePrivate ps .read value]
  | mk .forIn sp [left, right, body] => do
    let left ← usePrivate ps .fill left
    let right ← usePrivate ps .read right
    return mk .forIn sp [left, right, ← usePrivate ps .read body]
  | mk (.forOf isAwait) sp [left, right, body] => do
    let left ← usePrivate ps .fill left
    let right ← usePrivate ps .read right
    return mk (.forOf isAwait) sp [left, right, ← usePrivate ps .read body]
  | mk form sp cs => return mk form sp (← usePrivateAll ps .read cs)
/-- Nodes with calls of helpers for the private members of a class. -/
def usePrivateAll (ps : PrivateMembers) (use : PrivateUse) : List Node → Hoisting (List Node)
  | [] => return []
  | c :: cs => do
    let c ← usePrivate ps use c
    return c :: (← usePrivateAll ps use cs)
end

/-- A tree that uses no private members of a class, with the variables that it needs around. -/
def takePrivate (ps : PrivateMembers) (n : Node) : Lowering (Node × List Node) := do
  (do usePrivate ps .read (← withoutPrivateChains ps n.height n)).run []

/-! ## Names without a member -/

/-- The private names that a member of a class declares, with whether it is a getter, a setter
or neither, and whether it belongs to the class itself. -/
def declaredPrivate? (member : Node) : Option (String × MethodKind × Bool) :=
  match member with
  | mk (.classField mods) _ [_, mk (.privateName name _) _ _, _, _] =>
    some (name, .method, mods.isStatic)
  | mk (.classMethod kind mods) _ [mk (.privateName name _) _ _, _] =>
    some (name, kind, mods.isStatic)
  | _ => Option.none

/-- Whether two members declare the same private name, and are not the two functions of one
property. -/
def clashes (a b : String × MethodKind × Bool) : Bool :=
  a.1 == b.1 && (a.2.1 == .method || b.2.1 == .method || a.2.1 == b.2.1 || a.2.2 != b.2.2)

/-- Whether private names are declared twice. -/
def anyClash : List (String × MethodKind × Bool) → Bool
  | [] => false
  | d :: ds => ds.any (clashes d) || anyClash ds

mutual
/-- Whether a private name is declared twice in a class, or used in a class where no class around
declares it; `known` are the names that the classes around declare, if there are any. -/
def losesPrivate (known : Option (List String)) : Node → Bool
  | mk (.privateName name _) _ _ =>
    match known with
    | some names => !names.contains name
    | Option.none => false
  | mk (.classBody _) _ [ds, super, sargs, tps, impl, mk .list _ members] =>
    let declared := members.filterMap declaredPrivate?
    let names := declared.map (·.1) ++ known.getD []
    anyClash declared || losesPrivateAny known [ds, super, sargs, tps, impl]
      || losesPrivateAny (some names) members
  | mk _ _ cs => losesPrivateAny known cs
/-- Whether a private name has no member in some of the nodes. -/
def losesPrivateAny (known : Option (List String)) : List Node → Bool
  | [] => false
  | c :: cs => c.losesPrivate known || losesPrivateAny known cs
end

/-- Whether private names of a module are declared twice, or used without a member. -/
def hasLostPrivate (module : Node) : Bool := module.losesPrivate Option.none

end Node

end ScriptHost
