import ScriptHost.Lower.Capture
import ScriptHost.Source.SourceFile
/-!
# Variables of loops

Older editions know only variables that belong to a whole function, where a
loop makes its variables anew each time. If a function inside of the loop keeps
such a variable, the body of the loop becomes a function of its own, and says
with its answer how the loop goes on.

- `LoopExit`: how the body of a loop is left.
- `Node.moveBody`: the body of a loop as a call of a function.
- `Node.lowerBlockVars`: `let` and `const` as `var`.
-/

namespace ScriptHost

/-- How the body of a loop is left early. -/
structure LoopExit where
  breaks : Bool := false
  returns : Bool := false
  /-- The answers for other statements around, with what is done for them. -/
  labels : List (String × Node) := []
deriving Inhabited

/-- Computations that make variables for the statements around. -/
abbrev MovingLoops := StateT (List (Node × Node)) Lowering

namespace Node

/-! ## Ways out -/

/-- The answer of a body for a way out of it. -/
def answerOf (text : String) : Node := returnOf (string text)

/-- A note of a way out to a statement that a label is for. -/
def addLabel (text : String) (s : Node) (e : LoopExit) : LoopExit :=
  if e.labels.any (·.1 == text) then e else { e with labels := e.labels ++ [(text, s)] }

mutual
/-- The body of a loop with answers in the place of the ways out of it; `inner` are the labels
inside of it. -/
def answerExits (inner : List String) (inCase inLoop : Bool) : Node → StateM LoopExit Node
  | mk (.func a g) sp cs => return mk (.func a g) sp cs
  | mk (.classBody a) sp cs => return mk (.classBody a) sp cs
  | mk .continue sp [label] => do
    match label.nameText? with
    | some text =>
      if inner.contains text then return mk .continue sp [label]
      else
        modify (addLabel ("continue|" ++ text) (mk .continue .synthetic [label]))
        return (answerOf ("continue|" ++ text)).withSpan sp
    | Option.none =>
      if inLoop then return mk .continue sp [label]
      else return (answerOf "continue").withSpan sp
  | mk .break sp [label] => do
    match label.nameText? with
    | some text =>
      if inner.contains text then return mk .break sp [label]
      else
        modify (addLabel ("break|" ++ text) (mk .break .synthetic [label]))
        return (answerOf ("break|" ++ text)).withSpan sp
    | Option.none =>
      if inLoop || inCase then return mk .break sp [label]
      else
        modify fun e => { e with breaks := true }
        return (answerOf "break").withSpan sp
  | mk .return sp [value] => do
    modify fun e => { e with returns := true }
    let value := if value.isNone then undefined else value
    return mk .return sp [made .object [made .keyValue [propName "v", value]]]
  | mk .labeled sp [label, body] => do
    let inner := label.nameText?.toList ++ inner
    return mk .labeled sp [label, ← answerExits inner inCase inLoop body]
  | mk .case sp cs => return mk .case sp (← answerExitsAll inner true inLoop cs)
  | mk .forStmt sp cs => return mk .forStmt sp (← answerExitsAll inner inCase true cs)
  | mk .forIn sp cs => return mk .forIn sp (← answerExitsAll inner inCase true cs)
  | mk (.forOf w) sp cs => return mk (.forOf w) sp (← answerExitsAll inner inCase true cs)
  | mk .whileStmt sp cs => return mk .whileStmt sp (← answerExitsAll inner inCase true cs)
  | mk .doWhile sp cs => return mk .doWhile sp (← answerExitsAll inner inCase true cs)
  | mk form sp cs => return mk form sp (← answerExitsAll inner inCase inLoop cs)
/-- Parts of the body of a loop with answers in the place of the ways out of it. -/
def answerExitsAll (inner : List String) (inCase inLoop : Bool) :
    List Node → StateM LoopExit (List Node)
  | [] => return []
  | c :: cs => do
    let c ← answerExits inner inCase inLoop c
    return c :: (← answerExitsAll inner inCase inLoop cs)
end

/-- The statements that do what the answer of a body says. -/
def followAnswer (e : LoopExit) (call : Node) : Lowering Node := do
  let answer ← Lowering.fresh "_ret"
  let keep := declare .var [(answer, call)]
  let isBreak := made (.binary .strictEq) [answer, string "break"]
  let breaking := if e.breaks then [made .ifStmt [isBreak, made .break [none], none]] else []
  let returning ←
    if !e.returns then pure []
    else do
      let type ← Lowering.callHelper .typeOf [answer]
      let isValue := made (.binary .strictEq) [type, string "object"]
      pure [made .ifStmt [isValue, returnOf (dot answer "v"), none]]
  let caseOf (test : Node) (stmts : List Node) : Node := made .case [test, ofList stmts]
  let following :=
    if e.labels.isEmpty then returning
    else
      let cases := e.labels.map fun (text, s) => caseOf (string text) [s]
      let others := if returning.isEmpty then [] else [caseOf none returning]
      [made .switch [answer, ofList (cases ++ others)]]
  return blockOf (keep :: breaking ++ following)

/-! ## Variables that are changed -/

/-- Variables that a tree assigns to. -/
def assignedIds (n : Node) : List VarId :=
  n.collect fun m =>
    match m with
    | mk (.assign _) _ (target :: _) => target.boundIdents.filterMap identId?
    | mk (.update ..) _ [target] => target.identId?.toList
    | mk .forIn _ (left :: _) | mk (.forOf _) _ (left :: _) => left.identId?.toList
    | _ => []

/-- An expression that gives variables the values of others, with a value of its own. -/
def passBack (pairs : List (Node × Node)) (value : Node) : Node :=
  made .seq (pairs.map (fun (outer, inner) => assignTo outer inner) ++ [value])

mutual
/-- Code that gives variables the values of others before it answers. -/
def passBackAt (pairs : List (Node × Node)) : Node → Node
  | mk (.func a g) sp cs => mk (.func a g) sp cs
  | mk .return sp [value] =>
    mk .return sp [passBack pairs (if value.isNone then undefined else value)]
  | mk form sp cs => mk form sp (passBackAtAll pairs cs)
/-- Pieces of code that give variables the values of others before they answer. -/
def passBackAtAll (pairs : List (Node × Node)) : List Node → List Node
  | [] => []
  | c :: cs => passBackAt pairs c :: passBackAtAll pairs cs
end

/-- Code with other variables in the place of some. -/
def withVars (pairs : List (Node × Node)) (n : Node) : Node :=
  n.rewrite fun m =>
    match pairs.find? fun (outer, _) => m.identId?.isSome && outer.identId? == m.identId? with
    | some (_, inner) => inner.withSpan m.span
    | Option.none => m

/-- The statements of a body that works on copies of the variables that it changes. -/
def onCopies (pairs : List (Node × Node)) (stmts : List Node) : List Node :=
  if pairs.isEmpty then stmts
  else
    let stmts := passBackAtAll pairs (stmts.map (withVars pairs))
    let endsInReturn := (stmts.getLast?.map fun s => s.form == .return).getD false
    if endsInReturn then stmts else stmts ++ [stmt (passBack pairs undefined)]

/-! ## Bodies as functions -/

/-- The variables of blocks that a declaration at the head of a loop makes. -/
def headVars (head : Node) : List Node :=
  match head with
  | mk (.varDecl kind _) _ decls =>
    if kind == .var then [] else decls.flatMap fun (d : Node) => (d.child 0).boundIdents
  | _ => []

mutual
/-- The variables that the body of a loop makes anew each time, apart from those of loops inside
of it. -/
def bodyVars : Node → List Node
  | mk (.varDecl kind d) sp decls => headVars (mk (.varDecl kind d) sp decls)
  | mk (.func ..) _ _ | mk (.classBody _) _ _ | mk .forStmt _ _ | mk .forIn _ _
  | mk (.forOf _) _ _ | mk .whileStmt _ _ | mk .doWhile _ _ => []
  | mk _ _ cs => bodyVarsAll cs
/-- The variables that parts of the body of a loop make anew each time. -/
def bodyVarsAll : List Node → List Node
  | [] => []
  | c :: cs => c.bodyVars ++ bodyVarsAll cs
end

/-- Whether functions inside of a tree use some of the variables. -/
def keepsVars (ids : List VarId) (n : Node) : Bool :=
  n.any fun m =>
    (m.form matches .func ..)
      && m.any fun v => (v.identId?.map ids.contains).getD false

/-- Whether code hands out values of a generator itself. -/
def yields (n : Node) : Bool :=
  n.anyOutside (fun m => m.form matches .func ..) fun m => m.form matches .yield _

/-- The body of a loop as a call of a function with the variables at its head. `old` is the body
before anything in it was rewritten. -/
def moveBody (head : List Node) (old body : Node) : MovingLoops Node := do
  let ids := (head ++ old.bodyVars).filterMap identId?
  if !keepsVars ids old then return body
  else
    let (body, captured) ← captureAll false body
    let kept ← captured.vars
    let (body, exits) := (answerExits [] false false body).run {}
    let assigned := old.assignedIds
    let changed := head.filter fun v => (v.identId?.map assigned.contains).getD false
    let pairs ← changed.mapM fun v => do
      return (v, ← Lowering.fresh (v.identName?.getD ""))
    let stmts := onCopies pairs (if body.form matches .block then body.children else [body])
    let loop ← Lowering.fresh "_loop"
    let isGenerator := yields body
    let f := made .fnExpr [none, funcOf (head.map (withVars pairs)) stmts false isGenerator]
    modify fun vars => vars ++ kept ++ [(loop, f)]
    let call := callOf loop head
    let call := if isGenerator then made (.yield true) [call] else call
    if exits.breaks || exits.returns || !exits.labels.isEmpty then followAnswer exits call
    else return stmt call

/-- A variable that a loop makes anew each time, with a value. -/
def withValue (decl : Node) : Node :=
  match decl with
  | mk (.declarator d) sp [pattern, init] =>
    mk (.declarator d) sp [pattern, if init.isNone then undefined else init]
  | d => d

/-- Runs a computation for statements, with declarations of the variables that it made in
front. -/
def declaringFirst (x : MovingLoops (List Node)) : MovingLoops (List Node) := do
  let outer ← get
  set ([] : List (Node × Node))
  let stmts ← x
  let vars ← get
  set outer
  return if vars.isEmpty then stmts else prependStmts [declare .var vars] stmts

mutual
/-- The tree with `var` in the place of `let` and `const`; in a loop, variables get values. -/
def blockVars (inLoop : Bool) : Node → MovingLoops Node
  | mk (.varDecl kind d) sp decls => do
    let decls ← blockVarsEach inLoop decls
    if kind == .var then return mk (.varDecl kind d) sp decls
    else return mk (.varDecl .var d) sp (if inLoop then decls.map withValue else decls)
  | mk .forStmt sp [init, test, update, body] => do
    let head := init.headVars
    let init ← blockVars false init
    let test ← blockVars false test
    let update ← blockVars false update
    let body ← moveBody head body (← blockVars true body)
    return mk .forStmt sp [init, test, update, body]
  | mk .forIn sp [left, right, body] => do
    let head := left.headVars
    let left ← blockVars false left
    let right ← blockVars false right
    let body ← moveBody head body (← blockVars true body)
    return mk .forIn sp [left, right, body]
  | mk (.forOf isAwait) sp [left, right, body] => do
    let head := left.headVars
    let left ← blockVars false left
    let right ← blockVars false right
    let body ← moveBody head body (← blockVars true body)
    return mk (.forOf isAwait) sp [left, right, body]
  | mk .whileStmt sp [test, body] => do
    let test ← blockVars false test
    let body ← moveBody [] body (← blockVars true body)
    return mk .whileStmt sp [test, body]
  | mk .doWhile sp [body, test] => do
    let body ← moveBody [] body (← blockVars true body)
    let test ← blockVars false test
    return mk .doWhile sp [body, test]
  | mk (.func a g) sp cs => return mk (.func a g) sp (← blockVarsEach false cs)
  | mk .block sp stmts =>
    return mk .block sp (← declaringFirst (blockVarsEach inLoop stmts))
  | mk (.module shebang) sp items =>
    return mk (.module shebang) sp (← declaringFirst (blockVarsEach inLoop items))
  | mk .case sp [test, mk .list lsp stmts] => do
    let test ← blockVars inLoop test
    return mk .case sp [test, mk .list lsp (← declaringFirst (blockVarsEach inLoop stmts))]
  | mk form sp cs => return mk form sp (← blockVarsEach inLoop cs)
/-- Nodes with `var` in the place of `let` and `const`. -/
def blockVarsEach (inLoop : Bool) : List Node → MovingLoops (List Node)
  | [] => return []
  | c :: cs => do
    let c ← blockVars inLoop c
    return c :: (← blockVarsEach inLoop cs)
end

/-- The module with `var` in the place of `let` and `const`. -/
def lowerBlockVars (module : Node) : Lowering Node := do
  return (← (blockVars false module).run []).1

end Node

end ScriptHost
