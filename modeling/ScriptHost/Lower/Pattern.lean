import ScriptHost.Lower.Capture
import ScriptHost.Lower.Hoist
import ScriptHost.Source.SourceFile
/-!
# Patterns

A pattern takes a value apart. It becomes one assignment for each name that it
binds, with variables for the values in between.

- `Node.takeApart`: what a pattern declares, from left to right.
- `Node.assignApart`: an assignment to a pattern as ones to its parts.
- `Node.lowerPatterns`: declarations and assignments without patterns.
-/

namespace ScriptHost

namespace Node

/-- Whether a pattern is more than a name. -/
def isCompound (pattern : Node) : Bool :=
  match pattern.form with
  | .arrayPat _ | .objectPat _ | .assignPat | .restPat => true
  | _ => false

/-- The property of an object that a key of a pattern takes. -/
def takenMember (object key : Node) : Node :=
  match key with
  | mk .computed _ [e] => index object e
  | mk (.str v raw) sp cs => index object (mk (.str v raw) sp cs)
  | mk (.num v raw) sp cs => index object (mk (.num v raw) sp cs)
  | key => memberOf object (propName (key.nameText?.getD ""))

mutual
/-- Whether an expression is a literal value through and through. -/
def isLiteralValue : Node → Bool
  | mk (.str ..) _ _ | mk (.num ..) _ _ | mk (.bool _) _ _ | mk .null _ _ => true
  | mk (.bigint _) _ _ => true
  | mk .template _ [_, holes] => holes.items.isEmpty
  | mk .paren _ [e] => e.isLiteralValue
  | mk .keyValue _ [_, value] => value.isLiteralValue
  | mk .array _ items | mk .object _ items => areLiteralValues items
  | mk .absent _ _ => true
  | _ => false
/-- Whether expressions are literal values through and through. -/
def areLiteralValues : List Node → Bool
  | [] => true
  | c :: cs => c.isLiteralValue && areLiteralValues cs
end

/-- Whether an element of a pattern takes what the others leave over. -/
def isRest (elem : Node) : Bool := elem.form matches .restPat

/-- The items of a literal array that are given to the elements of a pattern one by one. -/
def matchingItems? (value : Node) (elems : List Node) : Option (List Node) :=
  match value with
  | mk .array sp items =>
    let fits := items.length == elems.length
      || (elems.length < items.length && (elems.getLast?.map isRest).getD false)
    if (mk .array sp items).isLiteralValue && fits && !elems.isEmpty then some items
    else Option.none
  | _ => Option.none

/-- `value === void 0 ? default : value`. -/
def orDefault (value default : Node) : Node :=
  made .cond [made (.binary .strictEq) [value, undefined], default, value]

/-- The list of as many values of something as a pattern has elements. -/
def listOf (value : Node) (elems : List Node) : Lowering Node :=
  if (value.form matches .array) || value.isArguments then return value
  else if elems.any isRest then Lowering.callHelper .toArray [value]
  else Lowering.callHelper .slicedToArray [value, nat elems.length]

/-- Whether a pattern that takes a single property may read it from the value itself. -/
def readsOnce (props : List Node) : Bool :=
  match props with
  | [mk .keyPat _ _] => true
  | [mk .shorthandPat _ [_, default]] => default.isNone
  | _ => false

/-! ## Declarations -/

mutual
/-- What a pattern declares when it takes a value apart: variables with their values. -/
def takeApart (value : Node) : Node → Lowering (List (Node × Node))
  | mk .assignPat _ [target, default] => do
    if value.form matches .ident .. then takeApart (orDefault value default) target
    else
      let var ← Lowering.fresh "tmp"
      return (var, value) :: (← takeApart (orDefault var default) target)
  | mk (.arrayPat _) _ (mk .list _ elems :: _) => do
    match matchingItems? value elems with
    | some items => takeItems items elems
    | Option.none =>
      let var ← Lowering.freshFor value "_ref"
      return (var, ← listOf value elems) :: (← takeElements var 0 elems)
  | mk (.objectPat _) _ (mk .list _ props :: _) => do
    if props.isEmpty then
      let var ← Lowering.freshFor value "_ref"
      return [(var, ← Lowering.callHelper .objectDestructuringEmpty [value])]
    else if readsOnce props || value.form matches .ident .. then takeProps value props
    else
      let var ← Lowering.freshFor value "_ref"
      return (var, value) :: (← takeProps var props)
  | target => return [(target, value)]
/-- What elements of a pattern declare, each from an item of its own. -/
def takeItems (items : List Node) : List Node → Lowering (List (Node × Node))
  | [] => return []
  | mk .restPat _ (target :: _) :: _ => takeApart (made .array items) target
  | elem :: elems => do
    let item := items.headD none
    let first ← if elem.isNone then pure [] else takeApart item elem
    return first ++ (← takeItems items.tail elems)
/-- What the elements of a pattern declare from the one with the given number on. -/
def takeElements (list : Node) (i : Nat) : List Node → Lowering (List (Node × Node))
  | [] => return []
  | mk .restPat _ [target, _] :: elems => do
    let first ← takeApart (callOf (dot list "slice") [nat i]) target
    return first ++ (← takeElements list (i + 1) elems)
  | elem :: elems => do
    let first ← if elem.isNone then pure [] else takeApart (index list (nat i)) elem
    return first ++ (← takeElements list (i + 1) elems)
/-- What the properties of a pattern declare. -/
def takeProps (object : Node) : List Node → Lowering (List (Node × Node))
  | [] => return []
  | mk .keyPat _ [key, value] :: props => do
    let first ← takeApart (takenMember object key) value
    return first ++ (← takeProps object props)
  | mk .shorthandPat _ [id, default] :: props => do
    let value := dot object (id.identName?.getD "")
    let first ← if default.isNone then pure [(id, value)] else do
      let var ← Lowering.freshFor value "_ref"
      pure [(var, value), (id, orDefault var default)]
    return first ++ (← takeProps object props)
  | _ :: props => takeProps object props
end

/-- A declared variable as ones without patterns. -/
def lowerDeclarator (decl : Node) : Lowering (List Node) := do
  match decl with
  | mk (.declarator d) sp [pattern, init] =>
    if pattern.isCompound && init.isSome then
      return (← takeApart init pattern).map fun (target, value) =>
        mk (.declarator d) sp [target, value]
    else return [decl]
  | decl => return [decl]

/-! ## Assignments -/

/-- A variable for a value that an assignment takes apart. -/
def keepTaken : Hoisting Node := do
  let var ← Lowering.fresh "ref"
  modify fun vars => vars ++ [var]
  return var

mutual
/-- An assignment of a value to a pattern. -/
def assignApart (value : Node) : Node → Hoisting Node
  | mk .assignPat _ [target, default] => do
    let var ← keepTaken
    return made .seq [assignTo var value, ← assignApart (orDefault var default) target]
  | mk (.arrayPat _) _ (mk .list _ elems :: _) => do
    let var ← keepTaken
    let list ← listOf value elems
    return made .seq (assignTo var list :: (← assignElements var 0 elems) ++ [var])
  | mk (.objectPat _) _ (mk .list _ props :: _) => do
    match props with
    | [] => Lowering.callHelper .objectDestructuringEmpty [value]
    | [mk .shorthandPat _ [id, mk .absent _ _]] =>
      return assignTo id (dot value (id.identName?.getD ""))
    | props =>
      let var ← keepTaken
      return made .seq (assignTo var value :: (← assignProps var props) ++ [var])
  | target => return assignTo target value
/-- Assignments to the elements of a pattern from the one with the given number on. -/
def assignElements (list : Node) (i : Nat) : List Node → Hoisting (List Node)
  | [] => return []
  | mk .absent _ _ :: elems => assignElements list (i + 1) elems
  | mk .restPat _ (target :: _) :: elems => do
    let first ← assignApart (callOf (dot list "slice") [nat i]) target
    return first :: (← assignElements list (i + 1) elems)
  | elem :: elems => do
    let first ← assignApart (index list (nat i)) elem
    return first :: (← assignElements list (i + 1) elems)
/-- Assignments to the properties of a pattern. -/
def assignProps (object : Node) : List Node → Hoisting (List Node)
  | [] => return []
  | mk .keyPat _ [key, target] :: props => do
    let first ← assignApart (takenMember object key) target
    return first :: (← assignProps object props)
  | mk .shorthandPat _ [id, default] :: props => do
    let value := dot object (id.identName?.getD "")
    let first ← if default.isNone then pure [assignTo id value] else do
      let var ← keepTaken
      pure [assignTo var value, assignTo id (orDefault var default)]
    return first ++ (← assignProps object props)
  | _ :: props => assignProps object props
end

/-- Declarations and assignments without patterns. -/
def lowerPatterns (n : Node) : Hoisting Node := do
  match n with
  | mk (.varDecl kind d) sp decls =>
    return mk (.varDecl kind d) sp (← decls.mapM fun d => lowerDeclarator d).flatten
  | mk (.assign .plain) sp [target, value] =>
    if target.isCompound then return (← assignApart value target).withSpan sp else return n
  | mk .catchClause sp [pattern, body] =>
    if pattern.isCompound then
      let var ← Lowering.fresh "_param"
      let decl := declare .lexical (← takeApart var pattern)
      return mk .catchClause sp [var, body.withChildren (decl :: body.children)]
    else return n
  | n => return n

end Node

end ScriptHost
