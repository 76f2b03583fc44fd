import ScriptHost.Lower.Step
/-!
# Steps of expressions

An expression that hands out a value is interrupted in the middle. What was
computed before is kept in variables, and the rest goes on from the next piece.

- `Stepping`: computations that write down steps.
- `Node.valueSteps`: the value of an expression, behind the steps that it needs.
-/

namespace ScriptHost

/-- What is written down of the code of a generator. -/
structure StepState where
  steps : List Step := []
  nextLabel : Label := 0
  /-- The variables that belong to the generator as a whole. -/
  vars : List Node := []
  /-- The variable that tells where to go on. -/
  state : Node
deriving Inhabited

/-- Computations that write down steps. -/
abbrev Stepping := StateT StepState Lowering

namespace Stepping

/-- Writes down a step. -/
def emit (s : Step) : Stepping Unit := modify fun st => { st with steps := st.steps ++ [s] }

/-- Writes down an expression that is evaluated for its effect. -/
def effect (e : Node) : Stepping Unit := emit (.run (Node.stmt e))

/-- A new place, which is yet to be written down. -/
def label : Stepping Label :=
  modifyGet fun st => (st.nextLabel, { st with nextLabel := st.nextLabel + 1 })

/-- Declares variables for the whole generator. -/
def declare (vars : List Node) : Stepping Unit :=
  modify fun st => { st with vars := st.vars ++ vars }

/-- A new variable for the whole generator. -/
def newVar (name : String) : Stepping Node := do
  let var ← Lowering.fresh name
  declare [var]
  return var

/-- A new variable for what is put together in several steps. -/
def newResult : Stepping Node := newVar "_tmp"

/-- A variable that keeps a value. -/
def keep (value : Node) : Stepping Node := do
  let var ← newVar "_"
  effect (Node.assignTo var value)
  return var

/-- What the generator was resumed with. -/
def sent : Stepping Node := do
  return Node.callOf (Node.dot (← get).state "sent") []

end Stepping

namespace Node

/-- `!e`. -/
def negated (e : Node) : Node := made (.unary .not) [e]

/-- Whether code hands out a value, outside of functions in it. -/
def hasYield (n : Node) : Bool :=
  n.anyOutside (fun n => (n.form matches .func ..) || (n.form matches .arrow ..))
    (fun n => n.form matches .yield _)

/-- Expressions as one, if there are any. -/
def joinExprs (es : List Node) : Option Node :=
  match es with
  | [] => Option.none
  | [e] => some e
  | es => some (made .seq es)

/-- The value that an assignment sets, where an operator combines it with the one before. -/
def combined (op : AssignOp) (before value : Node) : Node :=
  match op with
  | .plain => value
  | .compound op => made (.binary op) [before, value]

/-- The expressions that are put together to the items of a list. -/
structure ItemDraft where
  /-- The variable that keeps the items before. -/
  before : Option Node := Option.none
  /-- What comes in front of the first item. -/
  front : List Node := []
  items : List Node := []

namespace ItemDraft

/-- The list of all items. -/
def list (d : ItemDraft) : Node :=
  match d.before with
  | some var => callOf (dot var "concat") [made .array d.items]
  | Option.none => made .array (d.front ++ d.items)

/-- The draft with its items kept in a variable. -/
def keepAll (d : ItemDraft) : Stepping ItemDraft := do
  let var ← match d.before with
    | some var => pure var
    | Option.none => Stepping.newResult
  Stepping.effect (assignTo var d.list)
  return { before := some var }

end ItemDraft

/-- The target of a call for which it is evaluated, and what the call is for. -/
def callTarget (callee : Node) : Stepping (Node × Node) := do
  match callee with
  | mk .member sp [object, key] =>
    if object.form matches .ident .. then return (callee, object)
    else
      let this ← Stepping.newVar "_"
      return (mk .member sp [assignTo this object, key], this)
  | callee => return (callee, undefined)

/-- The target of a call with `new` for which it is evaluated, and what it makes an object of. -/
def newTargetOf (callee : Node) : Stepping (Node × Node) := do
  if callee.form matches .ident .. then return (callee, callee)
  else
    let this ← Stepping.newVar "_"
    return (assignTo this callee, this)

/-- The property of an object that a key of a literal names. -/
def propertyOf (object key : Node) : Node :=
  match key with
  | mk (.str ..) _ _ | mk (.num ..) _ _ => index object key
  | key => memberOf object key

/-- A property of an object literal as an assignment to a property of an object. -/
def asAssignment (object prop : Node) : Node :=
  match prop with
  | mk .keyValue _ [key, value] => assignTo (propertyOf object key) value
  | mk (.ident name scope _) _ _ => assignTo (dot object name) (var name scope)
  | mk (.method .method) _ [key, f] => assignTo (propertyOf object key) (made .fnExpr [none, f])
  | p => p

mutual
/-- The value of an expression, behind the steps that it needs. -/
def valueSteps : Node → Stepping Node
  | mk (.yield delegates) sp [e] => do
    let value ← e.valueSteps
    let value := if value.isNone then Option.none else some value
    if delegates then
      let values ← Lowering.callHelper .tsValues value.toList
      Stepping.emit (.handAll values)
    else Stepping.emit (.hand value)
    Stepping.emit (.mark (← Stepping.label))
    return (← Stepping.sent).withSpan sp
  | mk .cond sp [test, yes, no] => do
    if yes.hasYield || no.hasYield then
      let other ← Stepping.label
      let done ← Stepping.label
      let result ← Stepping.newResult
      let test ← test.valueSteps
      Stepping.emit (.jumpIf (negated test) other)
      Stepping.effect (assignTo result (← yes.valueSteps))
      Stepping.emit (.jump done)
      Stepping.emit (.mark other)
      Stepping.effect (assignTo result (← no.valueSteps))
      Stepping.emit (.mark done)
      return result
    else return mk .cond sp [← test.valueSteps, yes, no]
  | mk (.binary op) sp [left, right] => do
    if !right.hasYield then return mk (.binary op) sp [← left.valueSteps, right]
    else if op == .and || op == .or then
      let done ← Stepping.label
      let result ← Stepping.newResult
      Stepping.effect (assignTo result (← left.valueSteps))
      Stepping.emit (.jumpIf (if op == .and then negated result else result) done)
      Stepping.effect (assignTo result (← right.valueSteps))
      Stepping.emit (.mark done)
      return result
    else
      let left ← Stepping.keep (← left.valueSteps)
      return mk (.binary op) sp [left, ← right.valueSteps]
  | mk (.assign op) sp [mk .member msp [object, key], value] => do
    if !value.hasYield then
      let object ← object.valueSteps
      return mk (.assign op) sp [mk .member msp [object, ← key.valueSteps], value]
    else
      let object ← Stepping.keep (← object.valueSteps)
      let key ← match ← key.valueSteps with
        | mk .computed ksp [e] => pure (mk .computed ksp [← Stepping.keep e])
        | key => pure key
      let target := mk .member msp [object, key]
      let before ← if op == .plain then pure target else Stepping.keep target
      return mk (.assign .plain) sp [target, combined op before (← value.valueSteps)]
  | mk (.assign op) sp [target, value] => do
    if !value.hasYield then return mk (.assign op) sp [target, value]
    else
      let before ← if op == .plain then pure target else Stepping.keep target
      return mk (.assign .plain) sp [target, combined op before (← value.valueSteps)]
  | mk .call sp [callee, targs, mk .list lsp args] => do
    if anyList hasYield args then
      let (target, this) ← callTarget (← callee.valueSteps)
      let f ← Stepping.keep target
      let d ← itemSteps {} args
      return mk .call sp [dot f "apply", targs, mk .list lsp [this, d.list]]
    else return mk .call sp [← callee.valueSteps, targs, mk .list lsp args]
  | mk .new sp [callee, targs, mk .list lsp args] => do
    if anyList hasYield args then
      let (target, this) ← newTargetOf (← callee.valueSteps)
      let f ← Stepping.keep (dot target "bind")
      let d ← itemSteps { front := [undefined] } args
      let made' := callOf (dot f "apply") [this, d.list]
      return mk .new sp [made', targs, mk .list lsp []]
    else return mk .new sp [← callee.valueSteps, targs, mk .list lsp args]
  | mk .array sp items => do
    if anyList hasYield items then return (← itemSteps {} items).list.withSpan sp
    else return mk .array sp items
  | mk .object sp props => do
    if anyList hasYield props then
      let result ← Stepping.newResult
      let plain := props.takeWhile (!·.hasYield)
      Stepping.effect (assignTo result (made .object plain))
      let sets ← propSteps result [] true props
      return ((joinExprs (sets ++ [result])).getD result).withSpan sp
    else return mk .object sp props
  | mk .member sp [object, mk .computed ksp [key]] => do
    let object ← object.valueSteps
    if key.hasYield then
      let object ← Stepping.keep object
      return mk .member sp [object, mk .computed ksp [← key.valueSteps]]
    else return mk .member sp [object, mk .computed ksp [key]]
  | mk .seq sp es => do
    if anyList hasYield es then return (joinExprs (← seqSteps [] es)).getD undefined
    else return mk .seq sp es
  | mk (.func a g) sp cs => return mk (.func a g) sp cs
  | mk form sp cs => return mk form sp (← valuesSteps cs)
/-- The values of expressions that are evaluated one after the other. -/
def valuesSteps : List Node → Stepping (List Node)
  | [] => return []
  | c :: cs => do
    let value ← c.valueSteps
    return value :: (← valuesSteps cs)
/-- The expressions of a sequence that come last, behind the effects of the others; `pending` are
those that are still to be written down. -/
def seqSteps (pending : List Node) : List Node → Stepping (List Node)
  | [] => return pending
  | e :: es => do
    let pending ←
      if !e.hasYield || pending.isEmpty then pure pending
      else do
        ((joinExprs pending).map Stepping.effect).getD (pure ())
        pure []
    seqSteps (pending ++ [← e.valueSteps]) es
/-- The items of a list, of which those before a value that is handed out are kept in a
variable. -/
def itemSteps (d : ItemDraft) : List Node → Stepping ItemDraft
  | [] => return d
  | item :: items => do
    let d ← if item.hasYield && !d.items.isEmpty then d.keepAll else pure d
    let value ← item.valueSteps
    itemSteps { d with items := d.items ++ [value] } items
/-- The assignments of the last properties of an object, behind those of the others; `pending` are
those that are still to be written down, and `isFront` is set as long as nothing was handed out. -/
def propSteps (object : Node) (pending : List Node) (isFront : Bool) :
    List Node → Stepping (List Node)
  | [] => return pending
  | p :: ps => do
    if isFront && !p.hasYield then propSteps object pending true ps
    else
      let pending ←
        if !p.hasYield || pending.isEmpty then pure pending
        else do
          ((joinExprs pending).map Stepping.effect).getD (pure ())
          pure []
      let p ← p.valueSteps
      propSteps object (pending ++ [asAssignment object p]) false ps
end

end Node

end ScriptHost
