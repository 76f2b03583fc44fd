import ScriptHost.Erase.Enum
import ScriptHost.Erase.Field
import ScriptHost.Erase.Unused
/-!
# Modules without types

Enumerations and namespaces become objects that functions fill, imports and
exports of older kinds become variables, and all else that is only about types
is left out.

- `Node.substitute`: the tree with expressions for some of its variables.
- `Node.hasForeignItems`: whether there are items that no namespace may have.
- `Node.eraseTypes`: the module without types.
-/

namespace ScriptHost

namespace Node

/-! ## Variables that are reached through an object -/

/-- The variables that stay those of the code around a function with the given parameters. -/
def unhidden (subst : List (VarId × Node)) (params : Node) :
    List (VarId × Node) :=
  let bound := params.collect fun n => n.identId?.toList
  subst.filter fun s => !bound.contains s.1

mutual
/-- Puts expressions in the place of variables. -/
def substitute (subst : List (VarId × Node)) : Node → Node
  | mk (.ident name scope o) sp cs =>
    ((subst.lookup (name, scope)).map (·.withSpan sp)).getD (mk (.ident name scope o) sp cs)
  | mk (.func a g) sp [ds, ps, body, tps, result] =>
    let inner := unhidden subst ps
    mk (.func a g) sp
      [ds.substitute subst, ps.substitute inner, body.substitute inner, tps, result]
  | mk .object sp cs => mk .object sp (substituteProps subst cs)
  | mk (.declarator d) sp [pattern, init] =>
    mk (.declarator d) sp [pattern, init.substitute subst]
  | mk .shorthandPat sp [id, default] =>
    let default := default.substitute subst
    match id.identId?.bind fun i => subst.lookup i with
    | some e => mk .keyPat sp
        [id.asProperty, if default.isNone then e else made .assignPat [e, default]]
    | Option.none => mk .shorthandPat sp [id, default]
  | mk form sp cs => mk form sp (substituteAll subst cs)
/-- Puts expressions in the place of variables in nodes. -/
def substituteAll (subst : List (VarId × Node)) : List Node → List Node
  | [] => []
  | c :: cs => c.substitute subst :: substituteAll subst cs
/-- Puts expressions in the place of variables in the properties of an object literal. -/
def substituteProps (subst : List (VarId × Node)) : List Node → List Node
  | [] => []
  | c :: cs =>
    (match c.identId?.bind fun i => subst.lookup i with
      | some e => mk .keyValue c.span [c.asProperty, e]
      | Option.none => c.substitute subst) :: substituteProps subst cs
end

/-! ## Parts of the output -/

/-- `(function(name) { body })(name || (name = {}))` for an object that `holder` holds, with the
spans of the declaration and of its body. -/
def fillObject (name holder : Node) (span bodySpan : Span) (body : List Node) : Node :=
  let code := (funcOf [name.asVar] [] false false).setChild 2 (mk .block bodySpan body)
  let f := made .fnExpr [none, code]
  (stmt (callOf f [made (.binary .or) [holder, assignTo holder (made .object [])]])).withSpan span

/-- The variables of a namespace that are reached through its object. -/
def exportedVars (item : Node) : List Node :=
  match item with
  | mk .exportDecl _ [decl] =>
    match decl.form with
    | .varDecl .. => decl.children.flatMap fun (d : Node) => (d.child 0).boundIdents
    | .enumDecl .. | .moduleDecl .. => [decl.child 0]
    | _ => []
  | mk (.nestedNamespace ..) _ (name :: _) => [name]
  | mk (.importEquals true _) _ (name :: _) => [name]
  | _ => []

/-- What an `import` of the older kind stands for: a module or a part of a namespace. -/
def importTarget : Node → Node
  | mk .externalRef _ [source] => callOf (global "require") [source]
  | mk .qualified sp [left, name] => mk .member sp [left.importTarget, name.asProperty]
  | n => n

/-- The assignments of the variables of an exported declaration, with the span of the export. -/
def setExported (span : Span) (decls : List Node) : List Node :=
  let sets := decls.filterMap fun d =>
    if (d.child 1).isNone then Option.none
    else some ((assignTo (d.child 0) (d.child 1)).withSpan d.span)
  match sets with
  | [] => []
  | [set] => [(stmt set).withSpan span]
  | sets => [(stmt (made .seq sets)).withSpan span]

end Node

/-! ## Walking a module -/

/-- What is known while a module is walked. -/
structure EraseState where
  table : EnumTable
  /-- The names that are exported apart from their declarations. -/
  exported : List VarId := []
  /-- The enumerations and namespaces, and what may be merged with them, that were declared. -/
  declared : List VarId := []
  /-- The variables to declare at the end. -/
  vars : List Node := []
  /-- The variables to declare and export at the end. -/
  exportVars : List Node := []
deriving Inhabited

/-- Computations that walk a module. -/
abbrev Erasing := StateT EraseState Lowering

namespace Erasing

/-- Notes a declaration and tells whether it is the first of its name. -/
def isFirst (name : Node) : Erasing Bool :=
  modifyGet fun s =>
    match name.identId? with
    | some id =>
      if s.declared.contains id then (false, s) else (true, { s with declared := id :: s.declared })
    | none => (true, s)

/-- Adds variables to declare at the end. -/
def addVars (vars : List Node) : Erasing Unit := modify fun s => { s with vars := s.vars ++ vars }

/-- Statements with the variables that were added to declare at their end. -/
def withOwnVars (code : Erasing (List Node)) : Erasing (List Node) := do
  let vars := (← get).vars
  modify fun s => { s with vars := [] }
  let stmts ← code
  let inner := (← get).vars
  modify fun s => { s with vars }
  return stmts ++ Node.declareVars inner

/-- The code of an enumeration; `space` is the object of the namespace that exports it. -/
def enumCode (space : Option Node) (isExport isConst : Bool) (span : Span) (name members : Node) :
    Erasing Node := do
  let s ← get
  let first ← isFirst name
  let id := name.identId?.getD ("", Scope.top)
  let canDrop := isConst && !isExport && !s.exported.contains id
  let kept := members.items.filter fun m =>
    let v := s.table.find? id ((m.child 0).nameText?.getD "")
    !(canDrop && (v.map EnumValue.isKnown).getD false)
  if kept.isEmpty && isConst then return Node.made .empty []
  let body := s.table.code name.asVar (members.withChildren kept)
  match space with
  | some object =>
    return name.fillObject (Node.memberOf object name.asProperty) span .synthetic body
  | none =>
    if first then
      let isTop := isExport || id.2 == Scope.top
      let f := Node.made .fnExpr
        [Node.none, Node.funcOf [name.asVar] (body ++ [Node.returnOf name.asVar]) false false]
      let empty := Node.made .object []
      let start := if isTop && !isExport then Node.made (.binary .or) [name.asVar, empty] else empty
      let value := (Node.callOf f [start]).withSpan .pureMark
      let decl := Node.declare (if isTop then .var else .lexical) [(name.asVar, value)]
      return (decl.mapChildren (·.withSpan span)).withSpan span
    else
      let f := Node.made .fnExpr [Node.none, Node.funcOf [name.asVar] body false false]
      return (Node.stmt (Node.callOf f [name.asVar])).withSpan span

/-- The code of a namespace from the code of what it holds. -/
def spaceCode (space : Option Node) (isExport : Bool) (span bodySpan : Span) (name : Node)
    (body : List Node) : Erasing Node := do
  let first ← isFirst name
  if first && space.isNone then
    if isExport then modify fun s => { s with exportVars := s.exportVars ++ [name.asVar] }
    else addVars [name.asVar]
  let holder := match space with
    | some object => Node.memberOf object name.asProperty
    | none => name.asVar
  return name.fillObject holder span bodySpan body

/-- The variables of a namespace with the properties of its object that they are. -/
def spaceSubst (name : Node) (items : List Node) : List (VarId × Node) :=
  (items.flatMap Node.exportedVars).filterMap fun v =>
    v.identId?.map fun id => (id, Node.memberOf name.asVar v.asProperty)

end Erasing

open Erasing in
mutual
/-- A node without enumerations, namespaces and other declarations that are not run. -/
def Node.erase : Node → Erasing Node
  | .mk (.enumDecl _ isConst) sp [name, members] =>
    enumCode Option.none false isConst sp name members
  | .mk .exportDecl sp [.mk (.enumDecl _ isConst) esp [name, members]] => do
    let code ← enumCode Option.none true isConst esp name members
    return if code.form matches .exprStmt then code else .mk .exportDecl sp [code]
  | .mk (.moduleDecl ..) sp [name, body] => do
    spaceCode Option.none false sp body.span name (← name.eraseSpace body)
  | .mk .exportDecl _ [.mk (.moduleDecl ..) sp [name, body]] => do
    spaceCode Option.none true sp body.span name (← name.eraseSpace body)
  | .mk (.importEquals isExport _) sp [name, target] => do
    let value := target.importTarget
    let value := if isExport && target.form == .externalRef then
      Node.assignTo (Node.memberOf (Node.global "exports") name.asProperty) value else value
    let decl := (Node.declare .const [(name, value)]).withSpan sp
    return if isExport && target.form != .externalRef then .mk .exportDecl sp [decl] else decl
  | .mk .exportAssign sp [e] => do
    let e ← e.erase
    return (Node.stmt (Node.assignTo (Node.dot (Node.global "module") "exports") e)).withSpan sp
  | .mk (.classBody isAbstract) sp cs => do
    let cs ← Node.eraseAll cs
    let (body, vars) ← (Node.mk (.classBody isAbstract) sp cs).withFields
    addVars vars
    return body
  | .mk (.fnDecl isDeclare) sp [name, f] => do
    let _ ← isFirst name
    return .mk (.fnDecl isDeclare) sp [name, ← f.erase]
  | .mk (.classDecl isDeclare) sp [name, body] => do
    let _ ← isFirst name
    return .mk (.classDecl isDeclare) sp [name, ← body.erase]
  | .mk .block sp stmts => do return .mk .block sp (← withOwnVars (Node.eraseAll stmts))
  | .mk .case sp [test, .mk .list lsp stmts] => do
    let test ← test.erase
    return .mk .case sp [test, .mk .list lsp (← withOwnVars (Node.eraseAll stmts))]
  | .mk form sp cs => do return .mk form sp (← Node.eraseAll cs)
/-- Nodes without declarations that are not run. -/
def Node.eraseAll : List Node → Erasing (List Node)
  | [] => return []
  | c :: cs => do
    let c ← c.erase
    return c :: (← Node.eraseAll cs)
/-- What the body of a namespace is run as. -/
def Node.eraseSpace (name : Node) : Node → Erasing (List Node)
  | .mk .moduleBlock _ items => do
    let body ← withOwnVars (Node.eraseItems name items)
    return body.map (Node.substitute (spaceSubst name items))
  | .mk (.nestedNamespace _ _) _ [inner, body] => do
    let code ← inner.eraseSpace body
    return [← spaceCode (some name.asVar) true .synthetic body.span inner code]
  | _ => return []
/-- What the items of a namespace are run as. -/
def Node.eraseItems (name : Node) : List Node → Erasing (List Node)
  | [] => return []
  | .mk .exportDecl sp [.mk (.varDecl ..) _ decls] :: items => do
    let sets := Node.setExported sp (← Node.eraseAll decls)
    return sets ++ (← Node.eraseItems name items)
  | .mk .exportDecl _ [.mk (.enumDecl _ isConst) sp [inner, members]] :: items => do
    let code ← enumCode (some name.asVar) true isConst sp inner members
    return code :: (← Node.eraseItems name items)
  | .mk .exportDecl _ [.mk (.moduleDecl ..) sp [inner, body]] :: items => do
    let code ← spaceCode (some name.asVar) true sp body.span inner (← inner.eraseSpace body)
    return code :: (← Node.eraseItems name items)
  | .mk .exportDecl sp [decl] :: items => do
    let code ← decl.erase
    let set := Node.stmt
      (Node.assignTo (Node.memberOf name.asVar (code.child 0).asProperty) (code.child 0).asVar)
    return code :: set.withSpan sp :: (← Node.eraseItems name items)
  | .mk (.importEquals true _) sp [inner, target] :: items => do
    let set := Node.stmt
      (Node.assignTo (Node.memberOf name.asVar inner.asProperty) target.importTarget)
    return set.withSpan sp :: (← Node.eraseItems name items)
  | item :: items => do
    let code ← item.erase
    return code :: (← Node.eraseItems name items)
end

namespace Node

/-- Whether an item makes a file a module in the output. -/
def isModulePart (item : Node) : Bool :=
  match item.form with
  | .importDecl _ | .exportDecl | .exportNamed _ | .exportDefaultDecl | .exportDefault
  | .exportAll _ => true
  | _ => false

/-- The names that a module exports apart from their declarations. -/
def exportedApart (item : Node) : List VarId :=
  match item with
  | mk (.exportNamed _) _ [specs, source, _] =>
    if source.isSome then [] else specs.items.filterMap fun s => (s.child 0).identId?
  | mk .exportDefault _ [e] => e.identId?.toList
  | _ => []

/-- The statement that only makes a file a module. -/
def emptyExport : Node := made (.exportNamed false) [ofList [], none, none]

/-- Whether an item of a namespace is one that only a module may have. -/
def isForeignToSpace (item : Node) : Bool :=
  match item with
  | mk (.importEquals ..) _ [_, target] => target.form == .externalRef
  | mk .exportAssign _ _ | mk .exportDefault _ _ | mk .exportDefaultDecl _ _
  | mk (.exportAll _) _ _ | mk (.exportNamed _) _ _ | mk (.importDecl _) _ _ => true
  | _ => false

/-- Whether a namespace of the module holds what only a module may have. -/
def hasForeignItems (module : Node) : Bool :=
  module.withoutUnused.withoutTypes.any fun n =>
    n.form == .moduleBlock && n.children.any isForeignToSpace

/-- The module without types. -/
def eraseTypes (module : Node) : Lowering Node := do
  let isModule := module.children.any isModulePart
  let module := module.withoutUnused.withoutTypes
  let table := EnumTable.ofModule module
  let module := table.inline false module
  let exported := module.children.flatMap exportedApart
  let (items, s) ← (eraseAll module.children).run { table, exported }
  let exports := if s.exportVars.isEmpty then []
    else (declareVars s.exportVars).map fun decl => made .exportDecl [decl]
  let items := items ++ exports ++ declareVars s.vars
  let items := if isModule && !items.any isModulePart then items ++ [emptyExport] else items
  return module.withChildren items

end Node

end ScriptHost
