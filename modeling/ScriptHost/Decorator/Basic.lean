import ScriptHost.Lower.Basic
/-!
# Decorated classes

Decorators stand in front of a class, its members and parameters, and no
edition of the language that is written knows them. What takes them out makes
statements around a class, or expressions around one that is a value.

- `Node.decoratorExprs`: the expressions of decorators.
- `Node.isDecoratedMember`: whether a member has decorators.
- `Around`: what a class without its decorators needs around it.
-/

namespace ScriptHost

/-- What a class without its decorators needs around it. -/
structure Around where
  /-- Variables without values. -/
  vars : List Node := []
  /-- Expressions that are evaluated in front of the class. -/
  before : List Node := []
  /-- Expressions that are evaluated behind the class. -/
  after : List Node := []
deriving Inhabited

/-- Computations that take decorators out of a class. -/
abbrev Decorating := StateT Around Lowering

namespace Decorating

/-- A new variable without a value. -/
def newVar (name : String) : Decorating Node := do
  let var ← Lowering.fresh name
  modify fun a => { a with vars := a.vars ++ [var] }
  return var

/-- Evaluates an expression in front of the class. -/
def first (e : Node) : Decorating Unit := modify fun a => { a with before := a.before ++ [e] }

/-- Evaluates an expression behind the class. -/
def last (e : Node) : Decorating Unit := modify fun a => { a with after := a.after ++ [e] }

/-- A variable that keeps a value from before the class. -/
def keep (name : String) (value : Node) : Decorating Node := do
  let var ← newVar name
  first (Node.assignTo var value)
  return var

end Decorating

namespace Node

/-- The expressions of the decorators in a list. -/
def decoratorExprs (decorators : Node) : List Node :=
  decorators.items.map fun (d : Node) => d.child 0

/-- Whether a parameter has decorators. -/
def isDecoratedParam (param : Node) : Bool := !(param.child 0).items.isEmpty

/-- Whether a member of a class has decorators. -/
def isDecoratedMember (member : Node) : Bool :=
  match member with
  | mk (.constructor _) _ [_, params, _] => params.items.any isDecoratedParam
  | mk (.classMethod ..) _ [_, f] =>
    !(f.child 0).items.isEmpty || (f.child 1).items.any isDecoratedParam
  | mk (.classField _) _ (ds :: _) | mk (.accessorField _) _ (ds :: _) => !ds.items.isEmpty
  | _ => false

/-- Whether the name of a member of a class is private. -/
def isPrivateMember (member : Node) : Bool :=
  match member with
  | mk (.classMethod ..) _ (key :: _) => (key.form matches .privateName ..)
  | mk (.classField _) _ (_ :: key :: _) | mk (.accessorField _) _ (_ :: key :: _) =>
    (key.form matches .privateName ..)
  | _ => false

/-- The class of a body with other members and no decorators in front of it. -/
def withMembers (body : Node) (members : List Node) : Node :=
  (body.setChild 0 (ofList [])).setChild 5 ((body.child 5).withChildren members)

end Node

end ScriptHost
