import ScriptHost.Lower.Super
/-!
# What a function takes from around it

Arrow functions have the `this`, the `arguments` and the base of the function
around. Code that moves into a function of its own keeps them in variables of
the function around.

- `Captured`: the variables that keep them.
- `Node.takeAlong`: a tree that is about to move into a function.
- `Node.lowerArrows`: the tree with plain functions in the place of arrows.
-/

namespace ScriptHost

/-- What is wanted of a member of the base. -/
inductive BaseUse where
  | read
  | write
  /-- To read and write it. -/
  | place
deriving BEq, DecidableEq, Repr, Inhabited

/-- What reaches a member of the base for inner code: the use, the name of the member unless it
is computed, and the variable. -/
structure BaseReach where
  use : BaseUse
  key : Option String
  var : Node
deriving Inhabited

namespace BaseReach

/-- The name of the variable. -/
def name (use : BaseUse) (key : Option String) : String :=
  let word := match use with
    | .read => "_superprop_get"
    | .write => "_superprop_set"
    | .place => "_superprop_update"
  match key with
  | some text => word ++ "_" ++ text
  | none => word

end BaseReach

/-- The variables that keep what code in inner functions needs. -/
structure Captured where
  this : Option Node := none
  arguments : Option Node := none
  newTarget : Option Node := none
  base : List BaseReach := []
deriving Inhabited

/-- Computations that move code into inner functions. -/
abbrev Capturing := StateT Captured Lowering

namespace Capturing

/-- The variable that keeps `this`. -/
def this : Capturing Node := do
  match (← get).this with
  | some var => return var
  | none =>
    let var ← Lowering.fresh "_this"
    modify fun c => { c with this := some var }
    return var

/-- The variable that keeps `arguments`. -/
def arguments : Capturing Node := do
  match (← get).arguments with
  | some var => return var
  | none =>
    let var ← Lowering.fresh "_arguments"
    modify fun c => { c with arguments := some var }
    return var

/-- The variable that keeps `new.target`. -/
def newTarget : Capturing Node := do
  match (← get).newTarget with
  | some var => return var
  | none =>
    let var ← Lowering.fresh "_newtarget"
    modify fun c => { c with newTarget := some var }
    return var

/-- The variable that reaches a member of the base. -/
def reach (use : BaseUse) (key : Option String) : Capturing Node := do
  match (← get).base.find? fun r => r.use == use && r.key == key with
  | some r => return r.var
  | none =>
    let var ← Lowering.fresh (Node.validName (BaseReach.name use key))
    modify fun c => { c with base := c.base ++ [⟨use, key, var⟩] }
    return var

/-- The expression for a use of a member of the base, with more arguments. -/
def baseCall (use : BaseUse) (key : Node) (args : List Node) : Capturing Node := do
  match key with
  | .mk (.name text) _ _ => return .callOf (← reach use (some text)) args
  | key => return .callOf (← reach use none) (key.keyExpr :: args)

/-- A member of the base as a place to be read and written. -/
def basePlace (key : Node) : Capturing Node := do
  match key with
  | .mk (.name text) _ _ =>
    let _ ← reach .read (some text)
    let _ ← reach .write (some text)
    return .dot (← reach .place (some text)) "_"
  | key =>
    let _ ← reach .read none
    let _ ← reach .write none
    return .dot (.callOf (← reach .place none) [key.keyExpr]) "_"

/-- Runs a computation for the code of a function, and hands out what the function has to keep. -/
def inFunction {α : Type} (x : Capturing α) : Capturing (α × Captured) := do
  let outer ← get
  set ({} : Captured)
  let a ← x
  let captured ← get
  set outer
  return (a, captured)

end Capturing

namespace BaseReach

/-- An arrow function that is nothing but an expression. -/
def arrowOf (params : List Node) (value : Node) : Node :=
  .made (.arrow false false) [.ofList params, value, .none, .none]

/-- A member of the base. -/
def memberOf (key : Option String) (prop : Node) : Node :=
  let key := match key with
    | some text => .propName text
    | none => .made .computed [prop]
  .made .member [.made .superRef [], key]

/-- The object whose only property is a member of the base. -/
def placeOf (all : List BaseReach) (key : Option String) (prop value : Node) : Node :=
  let function (use : BaseUse) : Node :=
    ((all.find? fun r => r.use == use && r.key == key).map (·.var)).getD .none
  let keys := if key.isSome then [] else [prop]
  let get := Node.funcOf [] [.returnOf (.callOf (function .read) keys)] false false
  let set := Node.funcOf [value] [.stmt (.callOf (function .write) (keys ++ [value]))] false false
  .made .object
    [.made (.method .getter) [.propName "_", get], .made (.method .setter) [.propName "_", set]]

/-- The value of a variable that reaches a member of the base. -/
def value (all : List BaseReach) (r : BaseReach) : Lowering Node := do
  let prop ← Lowering.fresh "_prop"
  let value ← Lowering.fresh "_value"
  let keys := if r.key.isSome then [] else [prop]
  match r.use with
  | .read => return arrowOf keys (memberOf r.key prop)
  | .write => return arrowOf (keys ++ [value]) (.assignTo (memberOf r.key prop) value)
  | .place =>
    let object := placeOf all r.key prop value
    return if r.key.isSome then object else arrowOf keys object

/-- What reaches members of the base, in the order in which it is declared. -/
def ordered (all : List BaseReach) : List BaseReach :=
  [BaseUse.read, .write, .place].flatMap fun use =>
    let ofUse := all.filter (·.use == use)
    ofUse.filter (·.key.isSome) ++ ofUse.filter (·.key.isNone)

end BaseReach

namespace Captured

/-- The variables that keep something, with what they keep. -/
def vars (c : Captured) : Lowering (List (Node × Node)) := do
  let reaches ← (BaseReach.ordered c.base).mapM fun r => do return (r.var, ← r.value c.base)
  return (c.this.map fun v => (v, Node.made .this [])).toList
    ++ (c.arguments.map fun v => (v, Node.global "arguments")).toList
    ++ (c.newTarget.map fun v => (v, Node.made .newTarget [])).toList ++ reaches

/-- The declarations of the variables that keep something. -/
def declarations (c : Captured) : Lowering (List Node) := do
  let vars ← c.vars
  return if vars.isEmpty then [] else [Node.declare .var vars]

/-- The body of a function with the declarations in front. -/
def declareIn (c : Captured) (body : Node) : Lowering Node := do
  match body with
  | .mk .block sp stmts => return .mk .block sp (Node.prependStmts (← c.declarations) stmts)
  | body => return body

end Captured

namespace Node

/-- Whether an identifier names what a function was called with. -/
def isArguments (n : Node) : Bool := n.identId? == some ("arguments", Scope.unresolved)

/-- The body of a function that is an expression as statements. -/
def asBody (body : Node) : Node :=
  if body.form matches .block then body else blockOf [returnOf body]

/-- The parameters of an arrow as those of a function. -/
def asParams (params : Node) : List Node :=
  params.items.map fun p => made .param [ofList [], p]

/-! ## Code that moves -/

mutual
/-- The code of a function made ready to move into an inner function, which may be called for the
same `this`; where a place is wanted that a value is put into, a member of the base is one. -/
def takeAlong (keepsThis isPlace : Bool) : Node → Capturing Node
  | mk .this sp cs => do
    if keepsThis then return mk .this sp cs else return (← Capturing.this).withSpan sp
  | mk .newTarget sp _ => return (← Capturing.newTarget).withSpan sp
  | mk (.ident name scope o) sp cs => do
    if (mk (.ident name scope o) sp []).isArguments then
      return (← Capturing.arguments).withSpan sp
    else return mk (.ident name scope o) sp cs
  | mk (.assign op) sp [mk .member _ [mk .superRef _ _, key], value] => do
    let key ← takeAlong keepsThis false key
    let value ← takeAlong keepsThis false value
    match op with
    | .plain => return (← Capturing.baseCall .write key [value]).withSpan sp
    | .compound op =>
      let old ← Capturing.baseCall .read key []
      let value := made (.binary op) [old, value]
      return (← Capturing.baseCall .write key [value]).withSpan sp
  | mk (.assign op) sp [target, value] => do
    let target ← takeAlong keepsThis true target
    return mk (.assign op) sp [target, ← takeAlong keepsThis false value]
  | mk (.update op isBefore) sp [target] => do
    return mk (.update op isBefore) sp [← takeAlong keepsThis true target]
  | mk .call sp [mk .member _ [mk .superRef _ _, key], targs, mk .list lsp args] => do
    let key ← takeAlong keepsThis false key
    let args ← takeAlongAll keepsThis false args
    let this ← if keepsThis then pure (made .this []) else Capturing.this
    let f := dot (← Capturing.baseCall .read key []) "call"
    return mk .call sp [f, targs, mk .list lsp (this :: args)]
  | mk .member sp [mk .superRef _ _, key] => do
    let key ← takeAlong keepsThis false key
    let member ← if isPlace then Capturing.basePlace key else Capturing.baseCall .read key []
    return member.withSpan sp
  | mk (.arrayPat o) sp [mk .list lsp elems, ann] => do
    return mk (.arrayPat o) sp [mk .list lsp (← takeAlongAll keepsThis true elems), ann]
  | mk (.objectPat o) sp [mk .list lsp props, ann] => do
    return mk (.objectPat o) sp [mk .list lsp (← takeAlongAll keepsThis true props), ann]
  | mk .keyPat sp [key, pattern] => do
    let key ← takeAlong keepsThis false key
    return mk .keyPat sp [key, ← takeAlong keepsThis true pattern]
  | mk .restPat sp (pattern :: ann) => do
    return mk .restPat sp ((← takeAlong keepsThis true pattern) :: ann)
  | mk .assignPat sp [pattern, value] => do
    let pattern ← takeAlong keepsThis true pattern
    return mk .assignPat sp [pattern, ← takeAlong keepsThis false value]
  | mk (.func a g) sp cs => return mk (.func a g) sp cs
  | mk (.classBody a) sp (ds :: super :: rest) => do
    return mk (.classBody a) sp (ds :: (← takeAlong keepsThis false super) :: rest)
  | mk form sp cs => return mk form sp (← takeAlongAll keepsThis false cs)
/-- Parts of the code of a function made ready to move into an inner function. -/
def takeAlongAll (keepsThis isPlace : Bool) : List Node → Capturing (List Node)
  | [] => return []
  | c :: cs => do
    let c ← takeAlong keepsThis isPlace c
    return c :: (← takeAlongAll keepsThis isPlace cs)
end

/-- The code of a function made ready to move into an inner function, with what it takes along;
the inner function may be called with the same `this`. -/
def captureAll (keepsThis : Bool) (code : Node) : Lowering (Node × Captured) :=
  (takeAlong keepsThis false code).run {}

/-! ## Arrow functions -/

mutual
/-- The code with plain functions in the place of arrows; `inside` is set inside of an arrow. -/
def moveArrows (inside : Bool) : Node → Capturing Node
  | mk .this sp cs => do
    if inside then return (← Capturing.this).withSpan sp else return mk .this sp cs
  | mk .newTarget sp cs => do
    if inside then return (← Capturing.newTarget).withSpan sp else return mk .newTarget sp cs
  | mk (.ident name scope o) sp cs => do
    if inside && (mk (.ident name scope o) sp []).isArguments then
      return (← Capturing.arguments).withSpan sp
    else return mk (.ident name scope o) sp cs
  | mk (.arrow isAsync _) sp [params, body, _, _] => do
    let params ← moveArrows true params
    let body ← moveArrows true body
    let f := made (.func isAsync false)
      [ofList [], ofList params.asParams, body.asBody, none, none]
    return mk .fnExpr sp [none, f]
  | mk (.func a g) sp (ds :: params :: body :: rest) => do
    let ds ← moveArrows inside ds
    let ((params, body), captured) ← Capturing.inFunction do
      let params ← moveArrows false params
      let body ← moveArrows false body
      return (params, body)
    return mk (.func a g) sp (ds :: params :: (← captured.declareIn body) :: rest)
  | mk (.constructor mods) sp [key, params, body] => do
    let ((params, body), captured) ← Capturing.inFunction do
      let params ← moveArrows false params
      let body ← moveArrows false body
      return (params, body)
    return mk (.constructor mods) sp [key, params, ← captured.declareIn body]
  | mk form sp cs => return mk form sp (← moveArrowsAll inside cs)
/-- Nodes with plain functions in the place of arrows. -/
def moveArrowsAll (inside : Bool) : List Node → Capturing (List Node)
  | [] => return []
  | c :: cs => do
    let c ← moveArrows inside c
    return c :: (← moveArrowsAll inside cs)
end

/-- The module with plain functions in the place of arrows. -/
def lowerArrows (module : Node) : Lowering Node := do
  let (module, captured) ← (moveArrows false module).run {}
  return module.withChildren (prependStmts (← captured.declarations) module.children)

end Node

end ScriptHost
