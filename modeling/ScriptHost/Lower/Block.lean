import ScriptHost.Lower.Basic
/-!
# Functions of blocks

Older editions know only functions that belong to a whole function. One that
belongs to a block becomes the value of a variable at the block's front.

- `Node.lowerBlockFunctions`: functions of blocks as values of variables.
-/

namespace ScriptHost

namespace Node

/-- Statements with their functions in front, as values of variables. -/
def functionsFirst (stmts : List Node) : List Node :=
  let functions := stmts.filterMap fun s =>
    match s with
    | mk (.fnDecl _) sp [name, f] =>
      some ((declare .lexical [(name, made .fnExpr [name, f])]).withSpan sp)
    | _ => Option.none
  prependStmts functions (stmts.filter fun s => !(s.form matches .fnDecl _))

mutual
/-- The tree with functions of blocks as values of variables; the body of a function is no block. -/
def lowerBlockFunctions (isBody : Bool) : Node → Node
  | mk .block sp stmts =>
    let stmts := lowerBlockFunctionsAll stmts
    mk .block sp (if isBody then stmts else functionsFirst stmts)
  | mk (.func a g) sp [ds, ps, body, tps, result] =>
    mk (.func a g) sp
      [lowerBlockFunctions false ds, lowerBlockFunctions false ps, lowerBlockFunctions true body,
       tps, result]
  | mk (.constructor mods) sp [key, ps, body] =>
    mk (.constructor mods) sp
      [lowerBlockFunctions false key, lowerBlockFunctions false ps, lowerBlockFunctions true body]
  | mk (.arrow a g) sp [ps, body, tps, result] =>
    mk (.arrow a g) sp [lowerBlockFunctions false ps, lowerBlockFunctions true body, tps, result]
  | mk form sp cs => mk form sp (lowerBlockFunctionsAll cs)
/-- Nodes with functions of blocks as values of variables. -/
def lowerBlockFunctionsAll : List Node → List Node
  | [] => []
  | c :: cs => lowerBlockFunctions false c :: lowerBlockFunctionsAll cs
end

end Node

end ScriptHost
