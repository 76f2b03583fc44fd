import ScriptHost.Lower.Basic
/-!
# Adding to constructors

What a class does for each new object is written into its constructor: at its
front, or in a class with a base right behind the call of the base.

- `Node.afterSuper`: expressions behind the calls of the base.
- `Node.extendConstructor`: a constructor that does more.
-/

namespace ScriptHost

namespace Node

/-- Whether an expression calls the constructor of the base class. -/
def isSuperCall : Node → Bool
  | mk .call _ (mk .superRef _ _ :: _) => true
  | _ => false

mutual
/-- Whether the base is called in a node, outside of functions with a `this` of their own. -/
def callsSuper : Node → Bool
  | mk (.func ..) _ _ | mk (.constructor _) _ _ | mk .staticBlock _ _ => false
  | mk .call sp cs => (mk .call sp cs).isSuperCall || callsSuperAny cs
  | mk _ _ cs => callsSuperAny cs
/-- Whether the base is called in some of the nodes. -/
def callsSuperAny : List Node → Bool
  | [] => false
  | c :: cs => c.callsSuper || callsSuperAny cs
end

mutual
/-- Puts expressions behind each call of the base, whose value is the last one. -/
def afterSuper (new : List Node) : Node → Node
  | mk (.func a g) sp cs => mk (.func a g) sp cs
  | mk (.constructor mods) sp cs => mk (.constructor mods) sp cs
  | mk .staticBlock sp cs => mk .staticBlock sp cs
  | mk .exprStmt sp [mk .call csp cs] =>
    let call := mk .call csp (afterSuperAll new cs)
    mk .exprStmt sp [if call.isSuperCall then made .seq (call :: new) else call]
  | mk .call sp cs =>
    let call := mk .call sp (afterSuperAll new cs)
    if call.isSuperCall then made .seq (call :: new ++ [made .this []]) else call
  | mk form sp cs => mk form sp (afterSuperAll new cs)
/-- Puts expressions behind the calls of the base in nodes. -/
def afterSuperAll (new : List Node) : List Node → List Node
  | [] => []
  | c :: cs => c.afterSuper new :: afterSuperAll new cs
end

/-- The body of a constructor that does more for each new object. -/
def extendBody (hasBase : Bool) (new : List Node) (body : Node) : Node :=
  if new.isEmpty then body
  else if hasBase && body.callsSuper then body.afterSuper new
  else body.withChildren (new.map (fun e => (stmt e).withSpan e.span) ++ body.children)

/-- A constructor that does more for each new object. -/
def extendConstructor (hasBase : Bool) (new : List Node) (n : Node) : Node :=
  match n with
  | mk (.constructor mods) sp [key, ps, body] =>
    mk (.constructor mods) sp [key, ps, body.extendBody hasBase new]
  | n => n

/-- Whether a member is the constructor. -/
def isConstructor (member : Node) : Bool := member.form matches .constructor _

/-- A constructor that only calls the base, if there is one. -/
def plainConstructor (hasBase : Bool) (args : Node) : Node :=
  let key := propName "constructor"
  if hasBase then
    made (.constructor {})
      [key, ofList [made .param [ofList [], made .restPat [args, none]]],
        blockOf [stmt (callOf (made .superRef []) [made .spread [args]])]]
  else made (.constructor {}) [key, ofList [], blockOf []]

end Node

end ScriptHost
