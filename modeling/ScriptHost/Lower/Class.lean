import ScriptHost.Lower.Constructor
import ScriptHost.Lower.Platform
import ScriptHost.Lower.Super
/-!
# Classes

A class becomes its constructor as a function. If it has a base or methods,
another function around it adds them.

- `ClassParts`: a class taken apart.
- `ClassParts.value`: the expression for a class.
- `Node.lowerClasses`: the module without classes.
-/

namespace ScriptHost

/-- A class taken apart. -/
structure ClassParts where
  /-- The variable of the class. -/
  name : Node
  /-- What the class is derived from, if anything. -/
  base : Node
  constructor : Node
  /-- The members apart from the constructor. -/
  methods : List Node
deriving Inhabited

namespace Node

/-! ## Constructors -/

mutual
/-- The code of a constructor of a derived class, in which `this` is a variable that the call of
the base sets. -/
def deriveThis (name this : Node) : Node → Lowering Node
  | mk .this sp _ => return this.withSpan sp
  | mk .call sp [mk .superRef _ _, _, mk .list _ args] => do
    let args ← deriveThisAll name this args
    let list := match args with
      | [] => []
      | [mk .spread _ [all]] => if isAllArguments args then [all] else [made .array args]
      | args => [made .array args]
    let made ← Lowering.callHelper .callSuper (made .this [] :: name :: list)
    return (assignTo this made).withSpan sp
  | mk .return sp [value] => do
    let value ← deriveThis name this value
    let args := if value.isNone then [this] else [this, value]
    return mk .return sp [← Lowering.callHelper .possibleConstructorReturn args]
  | mk (.func a g) sp cs => return mk (.func a g) sp cs
  | mk form sp cs => return mk form sp (← deriveThisAll name this cs)
/-- The parts of a constructor of a derived class. -/
def deriveThisAll (name this : Node) : List Node → Lowering (List Node)
  | [] => return []
  | c :: cs => do
    let c ← deriveThis name this c
    return c :: (← deriveThisAll name this cs)
end

mutual
/-- Whether code calls the base on every way through it. -/
def alwaysCallsBase : Node → Bool
  | mk (.func ..) _ _ | mk (.arrow ..) _ _ | mk (.classBody _) _ _ => false
  | mk .call _ (mk .superRef _ _ :: _) => true
  | mk .ifStmt _ (test :: _) => test.alwaysCallsBase
  | mk .cond _ (test :: _) => test.alwaysCallsBase
  | mk .switch _ (subject :: _) => subject.alwaysCallsBase
  | mk (.binary op) _ [left, right] =>
    left.alwaysCallsBase
      || (op != .and && op != .or && op != .nullish && right.alwaysCallsBase)
  | mk .forStmt _ (init :: test :: _) => init.alwaysCallsBase || test.alwaysCallsBase
  | mk .whileStmt _ (test :: _) => test.alwaysCallsBase
  | mk .forIn _ (_ :: right :: _) => right.alwaysCallsBase
  | mk (.forOf _) _ (_ :: right :: _) => right.alwaysCallsBase
  | mk _ _ cs => anyCallsBase cs
/-- Whether some of the nodes call the base on every way through them. -/
def anyCallsBase : List Node → Bool
  | [] => false
  | c :: cs => c.alwaysCallsBase || anyCallsBase cs
end

/-- A constructor that passes everything on that it was called with, if it is made and only passes
its arguments on: without parameters. -/
def passingAll (constructor : Node) : List Node × List Node :=
  let params := (constructor.child 1).items
  let body := (constructor.child 2).children
  match params with
  | [mk .param _ [_, mk .restPat _ [args, _]]] =>
    if !constructor.span.isSynthetic then (params, body)
    else
      ([], rewriteList (fun n =>
        if n.identId? == args.identId? && n.identId?.isSome then global "arguments" else n) body)
  | _ => (params, body)

/-- What the function of a derived class ends with. -/
def returnThis (this : Node) (body : List Node) : Lowering (List Node) := do
  if (body.getLast?.map fun s => s.form == .return).getD false then return []
  else if anyCallsBase body then return [returnOf this]
  else return [returnOf (← Lowering.callHelper .assertThisInitialized [this])]

/-- `"use strict";`. -/
def strictMark : Node := stmt (string "use strict")

end Node

namespace ClassParts

open Node

/-- The parts of a class. -/
def ofBody (name body : Node) : ClassParts :=
  let members := (body.child 5).items
  { name, base := body.child 1
    constructor := (members.find? isConstructor).getD .none
    methods := members.filter fun m => !m.isConstructor && !(m.form matches .emptyMember) }

/-- The parameters and the statements of the constructor. -/
def code (c : ClassParts) : Lowering (List Node × List Node) := do
  let check := stmt (← Lowering.callHelper .classCallCheck [made .this [], c.name])
  let (params, body) := c.constructor.passingAll
  if c.base.isNone then return (params, check :: body)
  else if c.constructor.isNone then
    let call ← Lowering.callHelper .callSuper [made .this [], c.name, global "arguments"]
    return ([], [check, returnOf call])
  else
    let this ← Lowering.fresh "_this"
    let last ← returnThis this body
    let body ← body.mapM (useBase { home := .dot c.name "prototype", this, isLate := true } false)
    let body ← body.mapM (deriveThis c.name this)
    return (params, check :: declare .var [(this, .none)] :: body ++ last)

/-- The function of a method with a name of its own. -/
def namedMethod (sp : Span) (key f : Node) : Lowering Node := do
  match key with
  | .mk (.name text) _ _ =>
    if reservedNames.contains text then return .mk .fnExpr sp [.none, f]
    else return .mk .fnExpr sp [← Lowering.fresh text, f]
  | _ => return .mk .fnExpr sp [.none, f]

/-- What defines the members of a class: whether it is one of the class itself, its key, and the
words for what it does with the functions that do it. -/
abbrev Definition := Bool × Node × List (String × Node)

/-- Adds a method to definitions; the two functions of a property are defined together. -/
def addMethod (c : ClassParts) (ds : List Definition) (m : Node) : Lowering (List Definition) := do
  match m with
  | .mk (.classMethod kind mods) sp [key, f] =>
    let f ← useBaseIn (.ofClass c.name mods.isStatic) f
    let (word, f) ← match kind with
      | .method => pure ("value", ← namedMethod sp key f)
      | .getter => pure ("get", Node.mk .fnExpr sp [← Lowering.fresh "get", f])
      | .setter => pure ("set", Node.mk .fnExpr sp [← Lowering.fresh "set", f])
    let joins (d : Definition) : Bool :=
      kind != .method && d.1 == mods.isStatic && d.2.1.form == key.form
        && !(key.form matches .computed) && d.2.2.all (·.1 != "value")
    if ds.any joins then
      return ds.map fun d => if joins d then (d.1, d.2.1, d.2.2 ++ [(word, f)]) else d
    else return ds ++ [(mods.isStatic, key, [(word, f)])]
  | _ => return ds

/-- The object that describes a member. -/
def describe (d : Definition) : Node :=
  Node.made .object
    ((("key", d.2.1.keyExpr) :: d.2.2).map fun (word, v) =>
      Node.made .keyValue [Node.propName word, v])

/-- The statements that define the members of a class. -/
def defineMembers (c : ClassParts) : Lowering (List Node) := do
  let ds ← c.methods.foldlM (addMethod c) []
  let own := (ds.filter (!·.1)).map describe
  let static := (ds.filter (·.1)).map describe
  if ds.isEmpty then return []
  else
    let list (items : List Node) : Node :=
      if items.isEmpty then Node.made .null [] else Node.made .array items
    let args := [c.name, list own] ++ (if static.isEmpty then [] else [list static])
    return [Node.stmt (← Lowering.callHelper .createClass args)]

/-- The expression for a class with the given span. -/
def value (sp : Span) (c : ClassParts) : Lowering Node := do
  let (params, body) ← c.code
  let func (body : List Node) : Node := Node.made (.func false false)
    [Node.ofList [], Node.ofList params, Node.blockOf body, .none, .none]
  if c.base.isNone && c.methods.isEmpty then
    return Node.made .fnExpr [c.name, func (strictMark :: body)]
  else
    let define ← c.defineMembers
    let decl := Node.made (.fnDecl false) [c.name, func body]
    let (params, args, inherit) ←
      if c.base.isNone then pure ([], [], [])
      else do
        let base ← match c.base.identName? with
          | some text => Lowering.fresh text
          | Option.none => Lowering.freshFor c.base "_superClass"
        let isNative := (c.base.identName?.map isPlatformClass).getD false
        let arg ← if isNative then Lowering.callHelper .wrapNativeSuper [c.base] else pure c.base
        pure ([base], [arg], [Node.stmt (← Lowering.callHelper .inherits [c.name, base])])
    let body := strictMark :: inherit ++ decl :: define ++ [Node.returnOf c.name]
    let outer := Node.mk .fnExpr sp [.none, Node.funcOf params body false false]
    return (Node.callOf outer args).withSpan .pureMark

end ClassParts

namespace Node

/-- The expression for the class of a span, a name and a body. -/
def classValue (sp : Span) (name body : Node) : Lowering Node :=
  (ClassParts.ofBody name body).value sp

/-- The statements of a declaration that may be a class. -/
def lowerClassStmt (s : Node) : Lowering (List Node) := do
  match s with
  | mk (.classDecl _) sp [name, body] =>
    return [(declare .lexical [(name, ← classValue sp name body)]).withSpan sp]
  | mk .exportDecl esp [mk (.classDecl _) sp [name, body]] =>
    return [mk .exportDecl esp [(declare .lexical [(name, ← classValue sp name body)]).withSpan sp]]
  | mk .exportDefaultDecl esp [mk .classExpr sp [name, body]] =>
    let name ← if name.isNone then Lowering.fresh "_class" else pure name
    let decl := (declare .lexical [(name, ← classValue sp name body)]).withSpan sp
    let spec := made (.exportSpecifier false) [name, propName "default"]
    return [decl, mk (.exportNamed false) esp [ofList [spec], none, none]]
  | s => return [s]

/-- What an expression or the statements of a block are without classes. -/
def lowerClass (n : Node) : Lowering Node := do
  match n with
  | mk .classExpr sp [name, body] =>
    classValue sp (← if name.isNone then Lowering.fresh "_class" else pure name) body
  | mk .block sp stmts => return mk .block sp (← stmts.mapM lowerClassStmt).flatten
  | mk .list sp stmts => return mk .list sp (← stmts.mapM lowerClassStmt).flatten
  | mk (.module shebang) sp stmts =>
    return mk (.module shebang) sp (← stmts.mapM lowerClassStmt).flatten
  | n => return n

mutual
/-- The tree without classes. -/
def withoutClasses : Node → Lowering Node
  | mk .exportDefaultDecl sp [mk .classExpr csp cs] => do
    return mk .exportDefaultDecl sp [mk .classExpr csp (← withoutClassesAll cs)]
  | mk form sp cs => do lowerClass (mk form sp (← withoutClassesAll cs))
/-- Nodes without classes. -/
def withoutClassesAll : List Node → Lowering (List Node)
  | [] => return []
  | c :: cs => do
    let c ← c.withoutClasses
    return c :: (← withoutClassesAll cs)
end

end Node

end ScriptHost
