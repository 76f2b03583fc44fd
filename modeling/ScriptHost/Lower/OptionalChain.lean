import ScriptHost.Lower.Operator
/-!
# Optional chains

A chain such as `a?.b.c` ends early where a link with `?.` finds nothing. It
becomes a choice for each such link, the first one outermost.

- `Chain`: the tests of a chain and what is read when all of them pass.
- `Node.lowerChains`: the tree without optional chains.
-/

namespace ScriptHost

/-- A chain that has been taken apart. -/
structure Chain where
  /-- The tests that end the chain, the first one first. -/
  tests : List Node := []
  /-- What is read when no test ended the chain. -/
  value : Node
  /-- The object that a call of the value is for, if it is kept already. -/
  object : Option Node := none
deriving Inhabited

namespace Chain

/-- The expression of a chain whose value is `ended` when it ends early. -/
def expr (c : Chain) (ended value : Node) : Node :=
  c.tests.foldr (fun test rest => Node.made .cond [test, ended, rest]) value

end Chain

namespace Node

/-- Whether reading an expression twice is the same as reading it once. -/
def isStable (n : Node) : Bool := n.isLocalVar

/-- The variable that keeps an expression, unless the expression may be read twice. -/
def keepUnstable (e : Node) : Hoisting Node :=
  if e.isStable then return e else Hoisting.keep e "_this"

/-- Keeps the value of an expression, if it is not kept already. -/
def keptAs (e var : Node) : Node := if e.isStable then e else assignTo var e

/-- The test whether a link finds nothing. -/
def isMissing (var value : Node) : Node :=
  let first := if var.identId? == value.identId? then value else assignTo var value
  made (.binary .or) [isNull first, made (.binary .strictEq) [var, undefined]]

/-- An expression that has variables of its own. -/
def runWith (vars : List Node) (e : Node) : Node :=
  let body := blockOf (declareVars vars ++ [returnOf e])
  callOf (made .paren [made (.arrow false false) [ofList [], body, none, none]]) []

end Node

namespace Chain

/-- The chain with a call of its value where the call is optional. -/
def optionalCall (c : Chain) (sp : Span) (var args : Node) : Hoisting Chain := do
  match c.value with
  | .mk .member msp [object, key] =>
    let (this, value) ← match c.object with
      | some this => pure (this, c.value)
      | Option.none =>
        if object.form matches .superRef then pure (Node.made .this [], c.value)
        else
          let this ← object.keepUnstable
          pure (this, .mk .member msp [object.keptAs this, key])
    let args := args.withChildren (this :: args.items)
    let call := .mk .call sp [Node.dot var "call", Node.none, args]
    return { tests := c.tests ++ [Node.isMissing var value], value := call }
  | value =>
    let call := .mk .call sp [var, Node.none, args]
    return { tests := c.tests ++ [Node.isMissing var value], value := call }

end Chain

namespace Node

mutual
/-- The tree without optional chains. -/
def withoutChains : Node → Hoisting Node
  | mk (.optMember direct) sp [object, key] => do
    let c ← linkMember direct sp (← key.withoutChains) object
    return (c.expr undefined c.value).withSpan sp
  | mk (.optCall direct) sp [callee, targs, mk .list lsp args] => do
    let c ← linkCall direct sp (mk .list lsp (← withoutChainsAll args)) callee
    let _ := targs
    return (c.expr undefined c.value).withSpan sp
  | mk (.unary .delete) sp [mk (.optMember direct) _ [object, key]] => do
    let c ← linkMember direct sp (← key.withoutChains) object
    return c.expr (made (.bool true) []) (mk (.unary .delete) sp [c.value])
  | mk .assignPat sp [target, default] => do
    let (default, vars) ← Hoisting.collect default.withoutChains
    let default := if vars.isEmpty then default else runWith vars default
    return mk .assignPat sp [← target.withoutChains, default]
  | mk .block sp stmts => do
    let (stmts, vars) ← Hoisting.collect (withoutChainsAll stmts)
    return mk .block sp (prependStmts (declareVars vars) stmts)
  | mk (.module shebang) sp stmts => do
    let (stmts, vars) ← Hoisting.collect (withoutChainsAll stmts)
    return mk (.module shebang) sp (prependStmts (declareVars vars) stmts)
  | mk .case sp [test, mk .list lsp stmts] => do
    let test ← test.withoutChains
    let (stmts, vars) ← Hoisting.collect (withoutChainsAll stmts)
    return mk .case sp [test, mk .list lsp (prependStmts (declareVars vars) stmts)]
  | mk (.arrow a g) sp [params, body, tps, result] => do
    let params ← params.withoutChains
    let (body, vars) ← Hoisting.collect body.withoutChains
    let body := if vars.isEmpty then body else blockOf (declareVars vars ++ [returnOf body])
    return mk (.arrow a g) sp [params, body, tps, result]
  | mk form sp cs => return mk form sp (← withoutChainsAll cs)
/-- Nodes without optional chains. -/
def withoutChainsAll : List Node → Hoisting (List Node)
  | [] => return []
  | c :: cs => do
    let c ← c.withoutChains
    return c :: (← withoutChainsAll cs)
/-- The chain that a link to a member ends, from its object. -/
def linkMember (direct : Bool) (sp : Span) (key : Node) (object : Node) : Hoisting Chain := do
  if direct then
    let var ← object.keepUnstable
    let c ← chainOf object
    return { tests := c.tests ++ [isMissing var c.value], value := mk .member sp [var, key],
             object := some var }
  else
    let c ← chainOf object
    return { tests := c.tests, value := mk .member sp [c.value, key] }
/-- The chain that a call ends, from what is called. -/
def linkCall (direct : Bool) (sp : Span) (args : Node) (callee : Node) : Hoisting Chain := do
  if direct then
    let var ← callee.keepUnstable
    let c ← chainOf callee
    c.optionalCall sp var args
  else
    let c ← chainOf callee
    return { tests := c.tests, value := mk .call sp [c.value, none, args] }
/-- The chain that an expression is; one that is no chain is its value alone. -/
def chainOf : Node → Hoisting Chain
  | mk (.optMember direct) sp [object, key] => do
    linkMember direct sp (← key.withoutChains) object
  | mk (.optCall direct) sp [callee, _, mk .list lsp args] => do
    linkCall direct sp (mk .list lsp (← withoutChainsAll args)) callee
  | mk form sp cs => return { value := mk form sp (← withoutChainsAll cs) }
end

/-- The module without optional chains. -/
def lowerChains (module : Node) : Lowering Node := do
  return (← module.withoutChains.run []).1

end Node

end ScriptHost
