import ScriptHost.Lower.Constructor
import ScriptHost.Lower.Private
import ScriptHost.Lower.Super
/-!
# Fields of classes

The fields of objects are set by the constructor, and those of the class
itself right behind the class.

- `FieldStyle`: whether fields are defined or assigned.
- `FieldDraft`: what becomes of the members of a class.
- `Node.lowerFields`: the module without fields in classes.
-/

namespace ScriptHost

/-- How fields are given their values. -/
inductive FieldStyle where
  /-- The field is defined, whatever its object inherits. -/
  | define
  /-- The field is assigned to. -/
  | assign
deriving BEq, DecidableEq, Repr, Inhabited

namespace FieldStyle

/-- The expression that gives a field of an object its value. -/
def set (style : FieldStyle) (object key value : Node) : Lowering Node :=
  match style with
  | .assign =>
    let target := match key with
      | .mk (.str ..) _ _ | .mk (.num ..) _ _ => Node.index object key
      | key => Node.memberOf object key
    return Node.assignTo target value
  | .define => Lowering.callHelper .defineProperty [object, key.keyExpr, value]

end FieldStyle

/-- What becomes of the members of a class. -/
structure FieldDraft where
  /-- The variables to declare in front of the class, with their values. -/
  vars : List (Node × Node) := []
  /-- The variables for keys to declare in front of the class, with their values. -/
  keys : List (Node × Node) := []
  /-- What the constructor does for methods. -/
  marks : List Node := []
  /-- What the constructor does for fields. -/
  inits : List Node := []
  /-- The statements right behind the class that make private properties of the class itself. -/
  slots : List Node := []
  /-- The statements behind them. -/
  after : List Node := []
  /-- The functions of private methods. -/
  functions : List Node := []
  /-- The members that stay. -/
  members : List Node := []
  constructor : Option Node := none
deriving Inhabited

/-- What stands beside a class: variables in front, keys in front, and statements behind. -/
structure Beside where
  vars : List (Node × Node) := []
  keys : List (Node × Node) := []
  after : List Node := []
deriving Inhabited

/-- Computations that put something beside the statements around. -/
abbrev PlacingBeside := StateT Beside Lowering

namespace Beside

/-- Declarations of variables that may have values, if there are any. -/
def declarations (kind : VarKind) (vars : List (Node × Node)) : List Node :=
  if vars.isEmpty then [] else [Node.declare kind vars]

/-- Statements with what stands beside all of them. -/
def around (b : Beside) (stmts : List Node) : List Node :=
  Node.prependStmts (declarations .lexical b.keys ++ declarations .var b.vars) stmts ++ b.after

/-- A statement with what stands beside it. -/
def aroundOne (b : Beside) (s : Node) : List Node :=
  declarations .var b.vars ++ declarations .lexical b.keys ++ s :: b.after

/-- Runs a computation for statements, with what stands beside them. -/
def collect (x : PlacingBeside (List Node)) : PlacingBeside (List Node) := do
  let outer ← get
  set ({} : Beside)
  let stmts ← x
  let inner ← get
  set outer
  return inner.around stmts

end Beside

namespace Node

/-! ## Static code -/

mutual
/-- The code of a class itself with another name for `this`. -/
def replaceThis (owner : Node) : Node → Node
  | mk .this sp _ => owner.withSpan sp
  | mk (.func a g) sp cs => mk (.func a g) sp cs
  | mk (.constructor mods) sp cs => mk (.constructor mods) sp cs
  | mk form sp cs => mk form sp (replaceThisAll owner cs)
/-- The code of a class itself with another name for `this`, in nodes. -/
def replaceThisAll (owner : Node) : List Node → List Node
  | [] => []
  | c :: cs => replaceThis owner c :: replaceThisAll owner cs
end

mutual
/-- The value of a field, which is made by no call with `new`. -/
def withoutNewTarget : Node → Node
  | mk .newTarget sp _ => undefined.withSpan sp
  | mk (.func a g) sp cs => mk (.func a g) sp cs
  | mk (.constructor mods) sp cs => mk (.constructor mods) sp cs
  | mk form sp cs => mk form sp (withoutNewTargetAll cs)
/-- The values of fields, which are made by no call with `new`. -/
def withoutNewTargetAll : List Node → List Node
  | [] => []
  | c :: cs => withoutNewTarget c :: withoutNewTargetAll cs
end

/-- The statement that runs a block of a class, if the block does anything. -/
def runBlock (body : Node) : List Node :=
  match body.children with
  | [] => []
  | [mk .exprStmt sp [e]] => [mk .exprStmt sp [e]]
  | _ => [stmt (callOf (made .paren [made (.arrow false false) [ofList [], body, none, none]]) [])]

/-- Code that belongs to a class itself: its base and its `this` are found by the class. -/
def asStatic (owner : Node) (code : Node) : Lowering Node := do
  return replaceThis owner (← useBase (.ofClass owner true) false code)

/-! ## Private members -/

/-- Where a private member is kept. -/
def privateMember (member : Node) : Lowering (Option PrivateMember) := do
  match member with
  | mk (.classField mods) _ [_, mk (.privateName name _) _ _, _, _] =>
    return some ⟨name, .field, mods.isStatic, ← Lowering.fresh ("_" ++ name), none⟩
  | mk (.classMethod kind mods) _ [mk (.privateName name _) _ _, _] =>
    let store ← Lowering.fresh ("_" ++ name)
    let kind : PrivateKind := match kind with
      | .method => .method
      | .getter => .accessor true false
      | .setter => .accessor false true
    return some ⟨name, kind, mods.isStatic, store, ← Lowering.fresh name⟩
  | _ => return Option.none

/-- Private members with one more, which may be the second function of a property. -/
def addPrivate (ms : List PrivateMember) (m : PrivateMember) : List PrivateMember :=
  if ms.any (·.name == m.name) then
    ms.map fun old => if old.name == m.name then (old.join? m).getD old else old
  else ms ++ [m]

/-- The private members of a class, each name once. -/
def privateMembers (members : List Node) : Lowering (List PrivateMember) := do
  return ((← members.mapM privateMember).filterMap id).foldl addPrivate []

/-- `new Name()` for the store of a private member. -/
def newStore (name : String) : Node := mk .new .pureMark [global name, none, ofList []]

/-- An object literal. -/
def objectOf (members : List (String × Node)) : Node :=
  made .object (members.map fun (name, v) => made .keyValue [propName name, v])

/-- `{ writable: true, value: value }`. -/
def slotOf (value : Node) : Node := objectOf [("writable", made (.bool true) []), ("value", value)]

/-- The functions that read and write a private member: the object that describes them, and their
declarations. -/
def accessors (name : String) (members : List Node) : Lowering (Node × List Node) := do
  let found ← members.filterMapM fun m => do
    match m with
    | mk (.classMethod kind _) _ [mk (.privateName n _) _ _, f] =>
      if n != name || kind == .method then return Option.none
      else
        let word := if kind == .getter then "get" else "set"
        let var ← Lowering.fresh (word ++ "_" ++ name)
        return some (word, var, made (.fnDecl false) [var, f])
    | _ => return Option.none
  let function (word : String) : Node :=
    ((found.find? (·.1 == word)).map (·.2.1)).getD undefined
  return (objectOf [("get", function "get"), ("set", function "set")], found.map (·.2.2))

/-! ## Members -/

/-- Whether the keys of members are computed in front of the class, so that their order is kept. -/
def computesKeysFirst (members : List Node) : Bool :=
  members.any fun m => m.form matches .classField _ | .accessorField _ | .staticBlock

/-- The key of a member that is computed in front of the class, if it needs to be. -/
def keepKey (otherwise : String) (d : FieldDraft) (key : Node) : Lowering (Node × FieldDraft) := do
  match key with
  | mk .computed ksp [e] =>
    if e.form matches .str .. | .num .. | .ident .. then return (key, d)
    else
      let var ← Lowering.freshFor e otherwise
      return (mk .computed ksp [var], { d with keys := d.keys ++ [(var, e)] })
  | key => return (key, d)

/-- Code without private members, whose variables are declared in front of the class. -/
def takeInto (ps : PrivateMembers) (d : FieldDraft) (code : Node) :
    Lowering (Node × FieldDraft) := do
  let (code, vars) ← code.takePrivate ps
  return (code, { d with vars := d.vars ++ vars.map fun v => (v, none) })

/-- The draft of a class with one more field. -/
def draftField (style : FieldStyle) (ps : PrivateMembers) (d : FieldDraft) (sp : Span)
    (isStatic : Bool) (key value : Node) : Lowering FieldDraft := do
  let (key, d) ← takeInto ps d key
  let (key, d) ← keepKey "_ref" d key
  let value := if value.isNone then undefined else value.withoutNewTarget
  let (value, d) ← takeInto ps d value
  match ps.named? key with
  | some m =>
    if isStatic then
      let slot := declare .var [(m.store, slotOf (← asStatic ps.owner value))]
      return { d with after := d.after ++ [slot] }
    else
      let init ← Lowering.callHelper .classPrivateFieldInit [made .this [], m.store, slotOf value]
      return { d with vars := d.vars ++ [(m.store, newStore "WeakMap")]
                      inits := d.inits ++ [init.withSpan sp] }
  | Option.none =>
    if isStatic then
      let set ← style.set ps.owner key (← asStatic ps.owner value)
      return { d with after := d.after ++ [(stmt (set.withSpan sp)).withSpan sp] }
    else
      return { d with inits := d.inits ++ [(← style.set (made .this []) key value).withSpan sp] }

/-- The draft of a class with one more private method; `all` are the members of the class. -/
def draftPrivateMethod (all : List Node) (d : FieldDraft) (sp : Span) (m : PrivateMember)
    (f : Node) : Lowering FieldDraft := do
  match m.kind, m.isStatic with
  | .method, false =>
    let init ← Lowering.callHelper .classPrivateMethodInit [made .this [], m.store]
    return { d with vars := d.vars ++ [(m.store, newStore "WeakSet")]
                    marks := d.marks ++ [init.withSpan sp]
                    functions := d.functions ++ [made (.fnDecl false) [m.function, f]] }
  | .method, true =>
    return { d with functions := d.functions ++ [made (.fnDecl false) [m.function, f]] }
  | _, isStatic =>
    let isStore (n : Node) : Bool := n.identId? == m.store.identId?
    if d.vars.any (isStore ·.1) || d.slots.any (fun (s : Node) => s.any isStore) then return d
    let (pairs, functions) ← accessors m.name all
    let d := { d with functions := d.functions ++ functions }
    if isStatic then
      return { d with slots := d.slots ++ [declare .var [(m.store, pairs)]] }
    else
      let init ← Lowering.callHelper .classPrivateFieldInit [made .this [], m.store, pairs]
      return { d with vars := d.vars ++ [(m.store, newStore "WeakMap")]
                      marks := d.marks ++ [init.withSpan sp] }

/-- The draft of a class with one more member; `all` are the members of the class. -/
def draftMember (style : FieldStyle) (ps : PrivateMembers) (all : List Node) (d : FieldDraft)
    (member : Node) : Lowering FieldDraft := do
  match member with
  | mk (.classField mods) sp [_, key, value, _] =>
    draftField style ps d sp mods.isStatic key value
  | mk (.classMethod kind mods) sp [key, f] =>
    match ps.named? key with
    | some m => draftPrivateMethod all d sp m f
    | Option.none =>
      let (key, d) ← takeInto ps d key
      let (key, d) ← if computesKeysFirst all then keepKey "_tmp" d key else pure (key, d)
      let (f, d) ← takeInto ps d f
      return { d with members := d.members ++ [mk (.classMethod kind mods) sp [key, f]] }
  | mk .staticBlock _ [body] =>
    let (body, d) ← takeInto ps d body
    return { d with after := d.after ++ (← asStatic ps.owner body).runBlock }
  | mk (.constructor mods) sp cs =>
    let (c, d) ← takeInto ps d (mk (.constructor mods) sp cs)
    return { d with constructor := some c }
  | mk .emptyMember _ _ => return d
  | m => return { d with members := d.members ++ [m] }

/-- A private method whose base is found by the class, and that uses no private members. -/
def movePrivateMethod (ps : PrivateMembers) (member : Node) : Lowering Node := do
  match member with
  | mk (.classMethod kind mods) sp [mk (.privateName name scope) nsp cs, f] =>
    let f ← useBaseIn (.ofClass ps.owner mods.isStatic) f
    let (f, _) ← f.takePrivate ps
    return mk (.classMethod kind mods) sp [mk (.privateName name scope) nsp cs, f]
  | m => return m

/-- The members of a class without fields, with what belongs beside the class. -/
def splitMembers (style : FieldStyle) (hasBase : Bool) (owner : Node) (members : List Node) :
    Lowering (List Node × Beside) := do
  let ps : PrivateMembers := ⟨owner, ← privateMembers members⟩
  let members ← members.mapM (movePrivateMethod ps)
  let d : FieldDraft ← members.foldlM (fun d m => draftMember style ps members d m) {}
  let inits := d.marks ++ d.inits
  let constructor ← match d.constructor with
    | some c => pure [c.extendConstructor hasBase inits]
    | Option.none =>
      if inits.isEmpty then pure []
      else do
        let args ← Lowering.fresh "args"
        pure [(plainConstructor hasBase args).extendConstructor hasBase inits]
  return (d.members ++ constructor, ⟨d.vars, d.keys, d.slots ++ d.after ++ d.functions⟩)

/-- The body of a class without fields, with what belongs beside the class. -/
def splitClass (style : FieldStyle) (body owner : Node) : Lowering (Node × Beside) := do
  match body with
  | mk (.classBody a) sp [ds, super, sargs, tps, impl, mk .list lsp members] =>
    let (members, beside) ← splitMembers style super.isSome owner members
    return (mk (.classBody a) sp [ds, super, sargs, tps, impl, mk .list lsp members], beside)
  | b => return (b, {})

/-! ## Classes -/

/-- A statement without fields in the class that it declares. -/
def splitClassStmt (style : FieldStyle) (s : Node) : Lowering (List Node) := do
  match s with
  | mk (.classDecl d) sp [name, body] =>
    let (body, beside) ← body.splitClass style name
    return beside.aroundOne (mk (.classDecl d) sp [name, body])
  | mk .exportDecl esp [mk (.classDecl d) sp [name, body]] =>
    let (body, beside) ← body.splitClass style name
    return beside.aroundOne (mk .exportDecl esp [mk (.classDecl d) sp [name, body]])
  | mk .exportDefaultDecl esp [mk .classExpr sp [name, body]] =>
    let owner ← if name.isNone then Lowering.fresh "_class" else pure name
    let (body, beside) ← body.splitClass style owner
    return beside.aroundOne (mk .exportDefaultDecl esp [mk .classExpr sp [owner, body]])
  | s => return [s]

/-- The parts of a sequence that do what a statement behind a class does, with the variables that
they need and the statements that no expression can do. -/
def asParts (s : Node) : List Node × List (Node × Node) × List Node :=
  match s with
  | mk .exprStmt _ [e] => ([e], [], [])
  | mk (.varDecl ..) _ decls =>
    (decls.map fun (d : Node) => assignTo (d.child 0) (d.child 1),
      decls.map fun (d : Node) => (d.child 0, none), [])
  | s => ([], [], [s])

/-- References to one variable as references to another. -/
def renamedTo (old new : Node) (n : Node) : Node :=
  if old.isNone then n
  else n.rewrite fun m =>
    if m.identId? == old.identId? then (m.identId?.map fun _ => new.withSpan m.span).getD m else m

/-- An expression for a class without fields. -/
def splitClassExpr (style : FieldStyle) (sp : Span) (name body : Node) : PlacingBeside Node := do
  let owner ← Lowering.fresh (madeName (name.identName?.getD "class"))
  let (body, beside) ← body.splitClass style owner
  let cls := mk .classExpr sp [name, body]
  let before := (beside.vars ++ beside.keys).filterMap fun (v, e) =>
    if e.isNone then Option.none else some (assignTo v e)
  let bare (vars : List (Node × Node)) : List (Node × Node) := vars.map fun (v, _) => (v, none)
  let parts := beside.after.map fun s => (renamedTo name owner s).asParts
  let isSplit := !beside.after.isEmpty
  modify fun b =>
    { vars := b.vars ++ (if isSplit then [(owner, none)] else []) ++ bare beside.vars
        ++ parts.flatMap (·.2.1)
      keys := b.keys ++ bare beside.keys
      after := b.after ++ parts.flatMap (·.2.2) }
  if isSplit then
    return made .seq (before ++ assignTo owner cls :: parts.flatMap (·.1) ++ [owner])
  else if before.isEmpty then return cls
  else return made .seq (before ++ [cls])

/-- The body of an arrow that is nothing but a class, as statements. -/
def splitClassBody (style : FieldStyle) (sp : Span) (name body : Node) : Lowering Node := do
  let owner ← if name.isNone then Lowering.fresh "_class" else pure name
  let (body, beside) ← body.splitClass style owner
  let stmts := beside.aroundOne (mk (.classDecl false) sp [owner, body])
  return blockOf (stmts ++ [returnOf owner])

mutual
/-- The tree without fields in classes. -/
def withoutFields (style : FieldStyle) : Node → PlacingBeside Node
  | mk .classExpr sp [name, body] => do
    splitClassExpr style sp name (← body.withoutFields style)
  | mk .exportDefaultDecl sp [mk .classExpr csp [name, body]] => do
    return mk .exportDefaultDecl sp [mk .classExpr csp [name, ← body.withoutFields style]]
  | mk (.arrow a g) sp [params, mk .classExpr csp [name, body], tps, result] => do
    let params ← params.withoutFields style
    let body ← splitClassBody style csp name (← body.withoutFields style)
    return mk (.arrow a g) sp [params, body, tps, result]
  | mk .block sp stmts => return mk .block sp (← Beside.collect (withoutFieldsAll style stmts))
  | mk (.module shebang) sp stmts =>
    return mk (.module shebang) sp (← Beside.collect (withoutFieldsAll style stmts))
  | mk .case sp [test, mk .list lsp stmts] => do
    let test ← test.withoutFields style
    return mk .case sp [test, mk .list lsp (← Beside.collect (withoutFieldsAll style stmts))]
  | mk form sp cs => return mk form sp (← withoutFieldsEach style cs)
/-- Statements without fields in classes. -/
def withoutFieldsAll (style : FieldStyle) : List Node → PlacingBeside (List Node)
  | [] => return []
  | c :: cs => do
    let c ← c.withoutFields style
    let c ← c.splitClassStmt style
    return c ++ (← withoutFieldsAll style cs)
/-- Nodes without fields in classes. -/
def withoutFieldsEach (style : FieldStyle) : List Node → PlacingBeside (List Node)
  | [] => return []
  | c :: cs => do
    let c ← c.withoutFields style
    return c :: (← withoutFieldsEach style cs)
end

/-- Whether a module has members of classes. -/
def hasClassMembers (module : Node) : Bool :=
  module.any fun n =>
    n.form matches .classMethod .. | .classField _ | .constructor _ | .staticBlock

/-- The module without fields in classes, in which constructors come last. -/
def lowerFields (style : FieldStyle) (module : Node) : Lowering Node := do
  if module.hasClassMembers then return (← (module.withoutFields style).run {}).1
  else return module

end Node

end ScriptHost
