import ScriptHost.Lower.Basic
/-!
# Variables for intermediate values

An expression that is needed twice is kept in a variable, and the variable has
to be declared by the statements around. A rewriting pass says only which
variables it made; where they are declared is settled here.

- `Hoisting`: computations that make such variables.
- `Node.hoist`: bottom-up rewriting by them.
-/

namespace ScriptHost

/-- Computations that make variables for the statements around. -/
abbrev Hoisting := StateT (List Node) Lowering

namespace Hoisting

/-- A variable that keeps the value of an expression. -/
def keep (e : Node) (otherwise : String) : Hoisting Node := do
  let var ← Lowering.freshFor e otherwise
  modify fun vars => vars ++ [var]
  return var

/-- Runs a computation and hands out the variables that it made. -/
def collect {α : Type} (x : Hoisting α) : Hoisting (α × List Node) := do
  let outer ← get
  set ([] : List Node)
  let a ← x
  let vars ← get
  set outer
  return (a, vars)

end Hoisting

/-- Where variables are declared. -/
inductive VarPlace where
  /-- In front of all statements around. -/
  | atFront
  /-- In front of the one statement that needs them. -/
  | beforeUse
deriving BEq, DecidableEq, Repr, Inhabited

namespace Node

mutual
/-- Rewrites a tree from its leaves, and declares the variables that were made. -/
def hoist (place : VarPlace) (f : Node → Hoisting Node) : Node → Hoisting Node
  | mk .block sp stmts => return mk .block sp (← hoistStmts place f stmts)
  | mk (.module shebang) sp stmts => return mk (.module shebang) sp (← hoistStmts place f stmts)
  | mk .case sp [test, mk .list lsp stmts] => do
    let test ← hoist place f test
    return mk .case sp [test, mk .list lsp (← hoistStmts place f stmts)]
  | mk (.arrow isAsync isGenerator) sp [params, body, typeParams, result] => do
    let params ← hoist place f params
    let (body, vars) ← Hoisting.collect (hoist place f body)
    let body := if vars.isEmpty then body else blockOf (declareVars vars ++ [returnOf body])
    f (mk (.arrow isAsync isGenerator) sp [params, body, typeParams, result])
  | mk form sp cs => do f (mk form sp (← hoistEach place f cs))
/-- Rewrites nodes next to each other. -/
def hoistEach (place : VarPlace) (f : Node → Hoisting Node) : List Node → Hoisting (List Node)
  | [] => return []
  | c :: cs => do
    let c ← hoist place f c
    return c :: (← hoistEach place f cs)
/-- Rewrites statements, with declarations of the variables that were made for them. -/
def hoistStmts (place : VarPlace) (f : Node → Hoisting Node) (stmts : List Node) :
    Hoisting (List Node) := do
  match place with
  | .atFront =>
    let (stmts, vars) ← Hoisting.collect (hoistEach place f stmts)
    return prependStmts (declareVars vars) stmts
  | .beforeUse => hoistBefore place f stmts
/-- Rewrites statements, with declarations in front of the ones that need them. -/
def hoistBefore (place : VarPlace) (f : Node → Hoisting Node) : List Node → Hoisting (List Node)
  | [] => return []
  | s :: ss => do
    let (s, vars) ← Hoisting.collect (hoist place f s)
    return declareVars vars ++ s :: (← hoistBefore place f ss)
end

/-- Rewrites a module from its leaves, and declares the variables that were made. -/
def hoistAll (place : VarPlace) (f : Node → Hoisting Node) (module : Node) : Lowering Node := do
  return (← (module.hoist place f).run []).1

end Node

end ScriptHost
