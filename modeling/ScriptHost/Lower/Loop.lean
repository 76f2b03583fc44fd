import ScriptHost.Lower.Basic
/-!
# Loops over values

`for (x of values)` becomes a loop that counts, where the values are taken for
an array, or one that asks for one value after the other. A loop that waits for
its values asks for them, too.

- `Node.plainLoops`, `Node.awaitingLoops`: what becomes of loops over values.
- `Node.replaceLoops`: the tree with its loops over values rewritten.
-/

namespace ScriptHost

namespace Node

/-- The statement that gives the target of a loop its next value. -/
def bindNext (left value : Node) : Node :=
  match left with
  | mk (.varDecl kind d) sp [mk (.declarator b) bsp [pattern, _]] =>
    mk (.varDecl kind d) sp [mk (.declarator b) bsp [pattern, value]]
  | target => stmt (assignTo target value)

/-- A body behind a statement. -/
def behind (first body : Node) : Node :=
  match body with
  | mk .block sp stmts => mk .block sp (first :: stmts)
  | s => blockOf [first, s]

/-- A loop that counts through an array. -/
def countingLoop (left values body : Node) : Lowering Node := do
  let i ← Lowering.fresh "_i"
  let (list, vars) ← match values.form with
    | .ident .. => pure (values, [])
    | _ => do
      let list ← Lowering.fresh "_iter"
      pure (list, [(list, values)])
  return made .forStmt
    [declare .lexical ((i, nat 0) :: vars), made (.binary .lt) [i, dot list "length"],
     made (.update .increment false) [i], behind (bindNext left (index list i)) body]

/-- A label's statement with another one that it labels in the end. -/
def relabel (labels : List Node) (loop : Node) : Node :=
  labels.foldr (fun label s => made .labeled [label, s]) loop

/-- A loop that asks for one value after the other. -/
def steppingLoop (labels : List Node) (left values body : Node) : Lowering Node := do
  let isNormal ← Lowering.fresh "_iteratorNormalCompletion"
  let failed ← Lowering.fresh "_didIteratorError"
  let error ← Lowering.fresh "_iteratorError"
  let iterator ← Lowering.fresh "_iterator"
  let step ← Lowering.fresh "_step"
  let caught ← Lowering.fresh "err"
  let yes := made (.bool true) []
  let no := made (.bool false) []
  let start := callOf (index values (dot (global "Symbol") "iterator")) []
  let next := assignTo step (callOf (dot iterator "next") [])
  let test := made (.unary .not)
    [assignTo isNormal (dot next "done")]
  let loop := relabel labels (made .forStmt
    [declare .var [(iterator, start), (step, none)], test, assignTo isNormal yes,
     behind (bindNext left (dot step "value")) body])
  let isOpen := made (.binary .and)
    [made (.unary .not) [isNormal],
     made (.binary .ne) [dot iterator "return", made .null []]]
  let close := made .ifStmt
    [isOpen, blockOf [stmt (callOf (dot iterator "return") [])], none]
  let rethrow := made .ifStmt [failed, blockOf [made .throw [error]], none]
  let catching := made .catchClause
    [caught, blockOf [stmt (assignTo failed yes), stmt (assignTo error caught)]]
  let finish := blockOf [made .tryStmt [blockOf [close], none, blockOf [rethrow]]]
  return blockOf
    [declare .var [(isNormal, yes), (failed, no), (error, global "undefined")],
     made .tryStmt [blockOf [loop], catching, finish]]

/-- A loop that waits for one value after the other. -/
def awaitingLoop (labels : List Node) (left values body : Node) : Lowering Node := do
  let isOpen ← Lowering.fresh "_iteratorAbruptCompletion"
  let failed ← Lowering.fresh "_didIteratorError"
  let error ← Lowering.fresh "_iteratorError"
  let iterator ← Lowering.fresh "_iterator"
  let step ← Lowering.fresh "_step"
  let value ← Lowering.fresh "_value"
  let caught ← Lowering.fresh "err"
  let yes := made (.bool true) []
  let no := made (.bool false) []
  let start ← Lowering.callHelper .asyncIterator [values]
  let next := assignTo step (made .await [callOf (dot iterator "next") []])
  let test := assignTo isOpen (made (.unary .not) [dot (made .paren [next]) "done"])
  let keep := declare .lexical [(value, dot step "value")]
  let loop := relabel labels (made .forStmt
    [declare .var [(iterator, start), (step, none)], test, assignTo isOpen no,
     behind keep (behind (bindNext left value) body)])
  let mustClose := made (.binary .and)
    [isOpen, made (.binary .ne) [dot iterator "return", made .null []]]
  let close := made .ifStmt
    [mustClose, blockOf [stmt (made .await [callOf (dot iterator "return") []])], none]
  let rethrow := made .ifStmt [failed, blockOf [made .throw [error]], none]
  let catching := made .catchClause
    [caught, blockOf [stmt (assignTo failed yes), stmt (assignTo error caught)]]
  let finish := blockOf [made .tryStmt [blockOf [close], none, blockOf [rethrow]]]
  return blockOf
    [declare .var [(isOpen, no), (failed, no), (error, none)],
     made .tryStmt [blockOf [loop], catching, finish]]

/-- A loop over values behind its labels, taken apart. -/
structure LabeledLoop where
  labels : List Node
  isAwait : Bool
  left : Node
  values : Node
  body : Node

/-- A statement as a loop over values, if it is one. -/
def labeledLoop? : Node → Option LabeledLoop
  | mk .labeled _ [label, body] => do
    let loop ← body.labeledLoop?
    return { loop with labels := label :: loop.labels }
  | mk (.forOf isAwait) _ [left, values, body] => some ⟨[], isAwait, left, values, body⟩
  | _ => Option.none

/-- What becomes of the loops of a tree: the statements for one. -/
abbrev LoopRule := LabeledLoop → Lowering (Option (List Node))

/-- Loops over values as plain ones. -/
def plainLoops (assumesArray : Bool) : LoopRule := fun loop => do
  if loop.isAwait then return Option.none
  else if assumesArray || loop.values.form matches .array then
    return some [relabel loop.labels (← countingLoop loop.left loop.values loop.body)]
  else
    return some (← steppingLoop loop.labels loop.left loop.values loop.body).children

/-- Loops that wait for values as plain ones. -/
def awaitingLoops : LoopRule := fun loop => do
  if loop.isAwait then
    return some (← awaitingLoop loop.labels loop.left loop.values loop.body).children
  else return Option.none

/-- A statement that may be a loop over values as statements. -/
def applyRule (rule : LoopRule) (s : Node) : Lowering (List Node) := do
  match s.labeledLoop? with
  | some loop => return (← rule loop).getD [s]
  | Option.none => return [s]

/-- A statement that may be a loop over values as one statement. -/
def applyRuleOnce (rule : LoopRule) (s : Node) : Lowering Node := do
  match ← applyRule rule s with
  | [one] => return one
  | many => return blockOf many

mutual
/-- The tree with its loops over values rewritten. -/
def replaceLoops (rule : LoopRule) : Node → Lowering Node
  | mk .labeled sp cs => return mk .labeled sp (← replaceLoopsEach rule true cs)
  | mk form sp cs => do
    match form with
    | .block | .list | .module _ => return mk form sp (← replaceLoopsIn rule cs)
    | _ => return mk form sp (← replaceLoopsEach rule false cs)
/-- Parts of a node with their loops rewritten; those of a label keep the loop that it is for. -/
def replaceLoopsEach (rule : LoopRule) (isLabel : Bool) : List Node → Lowering (List Node)
  | [] => return []
  | c :: cs => do
    let c ← c.replaceLoops rule
    let c ← if isLabel then pure c else applyRuleOnce rule c
    return c :: (← replaceLoopsEach rule isLabel cs)
/-- Statements with their loops rewritten. -/
def replaceLoopsIn (rule : LoopRule) : List Node → Lowering (List Node)
  | [] => return []
  | c :: cs => do
    let c ← c.replaceLoops rule
    return (← applyRule rule c) ++ (← replaceLoopsIn rule cs)
end

end Node

end ScriptHost
