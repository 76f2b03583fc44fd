import ScriptHost.Lower.Hoist
/-!
# Operators of newer editions

- `Node.lowerLogicalAssign`: `a ||= b`, `a &&= b` and `a ??= b` without these operators.
- `Node.lowerNullish`: `a ?? b` as a choice.
- `Node.lowerPower`: `a ** b` as a call of `Math.pow`.
-/

namespace ScriptHost

namespace BinaryOp

/-- Whether the operator may leave its right operand alone. -/
def isLazy (op : BinaryOp) : Bool := op == .and || op == .or || op == .nullish

end BinaryOp

namespace Node

/-- An expression to read and one to write the same place, whose parts are evaluated once. -/
def readAndWrite (target : Node) : Hoisting (Node × Node) := do
  match target with
  | mk .member sp [object, key] =>
    let (readObject, writeObject) ← match object.form with
      | .this | .superRef => pure (object, object)
      | _ =>
        let var ← Hoisting.keep object "_ref"
        pure (assignTo var object, var)
    let (readKey, writeKey) ← match key with
      | mk .computed ksp [e] =>
        let var ← Hoisting.keep e "_ref"
        pure (mk .computed ksp [assignTo var e], mk .computed ksp [var])
      | key => pure (key, key)
    return (mk .member sp [readObject, readKey], mk .member sp [writeObject, writeKey])
  | target => return (target, target)

/-- The same as `readAndWrite`, where the place is written to before it is read. -/
def writeAndRead (target : Node) : Hoisting (Node × Node) := do
  let (first, again) ← target.readAndWrite
  return (again, first)

/-- An assignment that may leave its target alone, as an operator on an assignment. -/
def lowerLogicalAssign (n : Node) : Hoisting Node := do
  match n with
  | mk (.assign (.compound op)) sp [target, value] =>
    if op.isLazy then
      let (read, write) ← target.readAndWrite
      return mk (.binary op) sp [read, assignTo write value]
    else return n
  | n => return n

/-- `a === null`. -/
def isNull (e : Node) : Node := made (.binary .strictEq) [e, made .null []]

/-- `a ?? b` as a choice: `a !== null && a !== void 0 ? a : b`. -/
def lowerNullish (n : Node) : Hoisting Node := do
  match n with
  | mk (.binary .nullish) sp [left, right] =>
    let (first, again) ← match left.form with
      | .ident .. => pure (left, left)
      | _ =>
        let var ← Hoisting.keep left "_ref"
        pure (assignTo var left, var)
    let test := made (.binary .and)
      [made (.binary .strictNe) [first, made .null []],
        made (.binary .strictNe) [again, undefined]]
    return mk .cond sp [test, again, right]
  | n => return n

/-- `Math.pow(base, exponent)`. -/
def powerOf (base exponent : Node) : Node :=
  callOf (dot (global "Math") "pow") [base, exponent]

/-- `a ** b` as a call of `Math.pow`. -/
def lowerPower (n : Node) : Hoisting Node := do
  match n with
  | mk (.binary .pow) sp [base, exponent] => return (powerOf base exponent).withSpan sp
  | mk (.assign (.compound .pow)) sp [target, exponent] =>
    let (read, write) ← target.writeAndRead
    return mk (.assign .plain) sp [write, powerOf read exponent]
  | n => return n

end Node

end ScriptHost
