import ScriptHost.Decorator.Basic
import ScriptHost.Lower.Constructor
/-!
# Members with standard decorators

The newer kind of decorators is called while the class is made. A helper is
told of each member that has some, and answers what a field starts with or what
a private method does.

- `Applying`: computations that take such decorators out of a module.
- `ClassNotes`: what the helper is told of a class, and what it answers.
- `Node.keepMember`: a member with its decorators evaluated in front of the class.
- `Node.applyMember`, `Node.applyField`: a member without its decorators.
-/

namespace ScriptHost

/-- What the helper is told of a class, and what it answers. The flag of an entry or answer tells
whether it is that of a static member. -/
structure ClassNotes where
  entries : List (Bool × Node) := []
  answers : List (Bool × Node) := []
  /-- The function that starts each new object. -/
  initObject : Option Node := none
  /-- The function that starts the class itself. -/
  initStatic : Option Node := none
  /-- How many fields behind accessors were made. -/
  hiddenCount : Nat := 0
deriving Inhabited

/-- What was made while decorators are taken out. -/
structure ApplyState where
  /-- Variables to declare at the front of the statements around. -/
  vars : List Node := []
  /-- Variables to declare in front of the statement around. -/
  lets : List Node := []
  /-- Expressions to evaluate in front of the statement around. -/
  before : List Node := []
  /-- Names that the module exports at its end. -/
  exports : List Node := []
  /-- The variables that take the place of those of classes. -/
  replaced : List (VarId × Node) := []
  notes : ClassNotes := {}
deriving Inhabited

/-- Computations that take decorators out of a module. -/
abbrev Applying := StateT ApplyState Lowering

namespace Applying

/-- Declares a variable at the front of the statements around. -/
def declare (var : Node) : Applying Unit := modify fun s => { s with vars := s.vars ++ [var] }

/-- A new variable at the front of the statements around. -/
def newVar (name : String) : Applying Node := do
  let var ← Lowering.fresh name
  declare var
  return var

/-- A variable that keeps a value from in front of the statement around. -/
def keep (name : String) (value : Node) : Applying Node := do
  let var ← newVar name
  modify fun s => { s with before := s.before ++ [Node.assignTo var value] }
  return var

/-- Changes what is noted of the current class. -/
def note (f : ClassNotes → ClassNotes) : Applying Unit :=
  modify fun s => { s with notes := f s.notes }

/-- Notes a variable for what the helper answers. -/
def answer (isStatic : Bool) (var : Node) : Applying Unit :=
  note fun n => { n with answers := n.answers ++ [(isStatic, var)] }

/-- Notes that methods of the class itself or of its objects have decorators. -/
def startsMethods (isStatic : Bool) : Applying Unit := do
  let n := (← get).notes
  if isStatic then
    let f ← n.initStatic.getDM (Lowering.fresh "_initStatic" : Applying Node)
    note fun n => { n with initStatic := some f }
  else
    let f ← n.initObject.getDM (Lowering.fresh "_initProto" : Applying Node)
    note fun n => { n with initObject := some f }

end Applying

namespace Node

/-! ## What is evaluated in front of a class -/

/-- The expression of a decorator, which is evaluated in front of the class. -/
def keepDecorator (e : Node) : Applying Node :=
  match e.form with
  | .ident .. | .arrow .. | .fnExpr => return e
  | _ => Applying.keep "_dec" e

/-- Decorators whose expressions are evaluated in front of the class. -/
def keepDecorators (decorators : Node) : Applying Node := do
  return decorators.withChildren (← decorators.items.mapM fun d => do
    return d.withChildren [← keepDecorator (d.child 0)])

/-- The value of a key that is more than a name. -/
def valueOfKey : Node → Node
  | mk .computed _ [e] => e
  | key => key

/-- A key whose value is kept in a variable from in front of the class. -/
def keptValueKey (key : Node) : Applying Node := do
  return made .computed [← Applying.keep "_computedKey" key.valueOfKey]

/-- A key that is evaluated in front of the class, unless it is a name. -/
def keptMemberKey (key : Node) : Applying Node :=
  match key.form with
  | .name _ | .privateName .. => return key
  | _ => keptValueKey key

/-- A member whose decorators and key are evaluated in front of the class. -/
def keepMember (m : Node) : Applying Node := do
  match m with
  | mk (.classMethod kind mods) sp [key, f] =>
    let f := f.setChild 0 (← keepDecorators (f.child 0))
    return mk (.classMethod kind mods) sp [← keptMemberKey key, f]
  | mk (.classField mods) sp (ds :: key :: rest) =>
    let ds ← keepDecorators ds
    return mk (.classField mods) sp (ds :: (← keptMemberKey key) :: rest)
  | mk (.accessorField mods) sp (ds :: key :: rest) =>
    let ds ← keepDecorators ds
    return mk (.accessorField mods) sp (ds :: (← keptMemberKey key) :: rest)
  | m => return m

/-! ## What the helper is told -/

/-- A key that is read twice, an expression for its value, and a word for it. -/
def readableKey (key : Node) : Applying (Node × Node × String) := do
  match key with
  | mk (.name text) _ _ | mk (.privateName text _) _ _ => return (key, string text, text)
  | mk .computed _ [mk (.ident name scope _) _ _] => return (key, var name scope, name)
  | key =>
    let key ← keptValueKey key
    return (key, key.valueOfKey, "computedKey")

/-- Tells the helper of a member. -/
def tell (kind : Nat) (isStatic : Bool) (decorators : Node) (more : List Node) :
    Applying Unit := do
  let decorators ← keepDecorators decorators
  let told := match decorators.decoratorExprs with
    | [e] => e
    | es => made .array es
  let number := nat (if isStatic then kind + 5 else kind)
  let entry := made .array (told :: number :: more)
  Applying.note fun n => { n with entries := n.entries ++ [(isStatic, entry)] }

/-- `function(params) { body }`. -/
def functionOf (params : List Node) (body : Node) : Node :=
  made .fnExpr [none, funcOf params [body] false false]

/-- The function that reads a member, and the one that writes it. -/
def accessFunctions (key : Node) (param : String) : Lowering (List Node) := do
  let place := memberOf (made .this []) key
  let value ← Lowering.fresh param
  return [functionOf [] (returnOf place), functionOf [value] (stmt (assignTo place value))]

/-- The initial value of a field that decorators change. -/
def startValue (start value : Node) : Node :=
  callOf start (made .this [] :: (if value.isNone then [] else [value]))

/-- The number of a kind of method. -/
def methodNumber : MethodKind → Nat
  | .method => 2
  | .getter => 3
  | .setter => 4

/-! ## Methods -/

/-- A private method that calls the function that took its place. -/
def callingMethod (kind : MethodKind) (call : Node) : Lowering (MethodKind × Node) := do
  let this := made .this []
  match kind with
  | .method => return (.getter, funcOf [] [returnOf call] false false)
  | .getter => return (.getter, funcOf [] [returnOf (callOf call [this])] false false)
  | .setter =>
    let value ← Lowering.fresh "_v"
    return (.setter, funcOf [value] [stmt (callOf call [this, value])] false false)

/-- A method without its decorators. -/
def applyMethod (kind : MethodKind) (mods : Modifiers) (sp : Span) (key f : Node) :
    Applying Node := do
  let ds := f.child 0
  if ds.items.isEmpty || (f.child 2).isNone then return mk (.classMethod kind mods) sp [key, f] else
  let plain := f.setChild 0 (ofList [])
  let (key, name, word) ← readableKey key
  if key.form matches .privateName .. then
    let call ← Applying.newVar ("_call_" ++ word)
    tell (methodNumber kind) mods.isStatic ds [name, made .fnExpr [none, plain]]
    Applying.answer mods.isStatic call
    Applying.startsMethods mods.isStatic
    let (kind, f) ← callingMethod kind call
    return mk (.classMethod kind mods) sp [key, f]
  else
    Applying.startsMethods mods.isStatic
    tell (methodNumber kind) mods.isStatic ds [name]
    return mk (.classMethod kind mods) sp [key, plain]

/-! ## Fields -/

/-- A field without its decorators. -/
def applyField (m : Node) : Applying Node := do
  match m with
  | mk (.classField mods) sp [ds, key, value, ann] =>
    if ds.items.isEmpty then return m
    else
      let (key, name, word) ← readableKey key
      let start ← Applying.newVar ("_init_" ++ word)
      let access ← if key.form matches .privateName .. then accessFunctions key "value" else pure []
      tell 0 mods.isStatic ds (name :: access)
      Applying.answer mods.isStatic start
      return mk (.classField mods) sp [ofList [], key, startValue start value, ann]
  | m => return m

/-- The private name of the field behind an accessor, in front of a word that is followed by its
number. -/
def hiddenKey (word : String) : Applying Node := do
  Applying.note fun n => { n with hiddenCount := n.hiddenCount + 1 }
  let name := "__" ++ word ++ "_" ++ toString (← get).notes.hiddenCount
  let scope ← (modifyGet fun s => (s.nextScope, { s with nextScope := s.nextScope + 1 }) :
    Lowering ScopeId)
  return made (.privateName name scope) []

/-- An accessor as a private field with the methods that read and write it. -/
def applyAccessor (mods : Modifiers) (sp : Span) (ds key value : Node) :
    Applying (List Node) := do
  let isPrivate := key.form matches .privateName ..
  let (key, name, word) ← readableKey key
  let hiddenWord ← if isPrivate then pure word
    else (fun (_, _, word) => "_private_" ++ word) <$> readableKey key
  let hidden ← hiddenKey hiddenWord
  let own := { isStatic := mods.isStatic : Modifiers }
  let param ← Lowering.fresh "_v"
  let place := memberOf (made .this []) hidden
  let (value, read, write) ←
    if ds.items.isEmpty then pure (value, returnOf place, stmt (assignTo place param))
    else do
      let start ← Applying.newVar ("_init_" ++ word)
      let access ← if isPrivate then accessFunctions hidden "_v" else pure []
      tell 1 mods.isStatic ds (name :: access)
      Applying.answer mods.isStatic start
      let value := startValue start value
      let code ← if isPrivate then do
          let reader ← Applying.newVar ("_get___" ++ word)
          let writer ← Applying.newVar ("_set___" ++ word)
          Applying.answer mods.isStatic reader
          Applying.answer mods.isStatic writer
          pure (returnOf (callOf reader [made .this []]),
            stmt (callOf writer [made .this [], param]))
        else pure (returnOf place, stmt (assignTo place param))
      Applying.startsMethods mods.isStatic
      pure (value, code)
  return [mk (.classField own) sp [ofList [], hidden, value, none],
    made (.classMethod .getter own) [key, funcOf [] [read] false false],
    made (.classMethod .setter own) [key, funcOf [param] [write] false false]]

end Node

end ScriptHost
