import ScriptHost.Decorator.Member
/-!
# Standard decorators

The helper that calls decorators is called from the first static block of a
class. A class with decorators of its own is followed by a variable for the
class that takes its place. Where such a class has static members, they have to
belong to that class, so the class is made inside of another one.

- `Node.applyBody`: a class without decorators on its members.
- `Node.applyDecl`, `Node.applyValue`: a class without decorators of its own.
- `Node.lowerStandard`: a module without decorators of this kind.
-/

namespace ScriptHost

namespace Node

/-! ## New objects -/

/-- A field of each object that has a value, if the member is one: the value, and the field with
another one. -/
def valuedField? (member : Node) : Option Node :=
  match member with
  | mk (.classField mods) _ [_, _, value, _] =>
    if mods.isStatic || value.isNone then Option.none else some value
  | _ => Option.none

/-- The members of a class that evaluate an expression for each new object: in front of the value
of the first field that has one, or else in the constructor. -/
def startObjects (hasBase : Bool) (start : Node) (members : List Node) : Lowering (List Node) := do
  match members.dropWhile (·.valuedField?.isNone) with
  | field :: rest =>
    let value := made .seq [start, field.child 2]
    return members.takeWhile (·.valuedField?.isNone) ++ field.setChild 2 value :: rest
  | [] =>
    if members.any isConstructor then
      return members.map fun m => m.extendConstructor hasBase [start]
    else
      let args ← Lowering.fresh "args"
      return (plainConstructor hasBase args).extendConstructor hasBase [start] :: members

/-! ## The call of the helper -/

/-- `static { code }`. -/
def staticBlockOf (code : List Node) : Node := made .staticBlock [blockOf code]

/-- What the helper is told of a class, apart from its members. -/
structure ClassTold where
  /-- The decorators of the class. -/
  decorators : List Node := []
  /-- The variables for what the helper answers for the class. -/
  answers : List Node := []
  /-- The variable of the base class. -/
  base : Option Node := Option.none

/-- The statement that calls the helper and takes its answers. -/
def applyStmt (answers classAnswers : List Node) (call : Node) : Node :=
  let part (key : String) (targets : List Node) : List Node :=
    if targets.isEmpty then []
    else [made .keyPat [propName key, made (.arrayPat false) [ofList targets, none]]]
  let parts := part "e" answers ++ part "c" classAnswers
  stmt (assignTo (made (.objectPat false) [ofList parts, none]) call)

/-- Values of the class itself in front of those of its objects. -/
def staticFirst (values : List (Bool × Node)) : List Node :=
  (values.filter (·.1)).map (·.2) ++ (values.filter (!·.1)).map (·.2)

/-- The static block that calls the helper for what was noted of a class, if anything was. -/
def applyBlock (c : ClassTold) : Applying (List Node) := do
  let n := (← get).notes
  if n.entries.isEmpty && c.decorators.isEmpty then return []
  else
    n.initObject.forM Applying.declare
    n.initStatic.forM Applying.declare
    let call ← Lowering.callHelper .applyDecorators
      ([made .this [], made .array (staticFirst n.entries), made .array c.decorators]
        ++ c.base.toList)
    let answers := staticFirst n.answers ++ n.initObject.toList ++ n.initStatic.toList
    let starts := n.initStatic.toList.map fun f => stmt (callOf f [made .this []])
    return [staticBlockOf (applyStmt answers c.answers call :: starts)]

/-! ## Bodies of classes -/

/-- The members that a member becomes before fields are gone through, and whether it is still to
be gone through. -/
def applyMember (rec : Node → Applying Node) (m : Node) : Applying (List (Bool × Node)) := do
  match m with
  | mk (.classField mods) sp cs => return [(true, mk (.classField mods) sp cs)]
  | mk (.accessorField mods) sp [ds, key, value, _] =>
    let value ← rec value
    return (← applyAccessor mods sp ds key value).map fun m => (false, m)
  | mk (.classMethod kind mods) sp [key, f] =>
    return [(false, ← applyMethod kind mods sp (← rec key) (← rec f))]
  | m => return [(false, ← rec m)]

/-- A class without decorators on its members, given what else the helper is told. -/
def applyBody (rec : Node → Applying Node) (c : ClassTold) (body : Node) : Applying Node := do
  let outer := (← get).notes
  Applying.note fun _ => {}
  let head ← (body.children.take 5).mapM rec
  let members ← (body.child 5).items.mapM (applyMember rec)
  let members ← members.flatten.mapM fun (isField, m) =>
    if isField then do applyField (← rec m) else pure m
  let hasBase := (body.child 1).isSome
  let members ← match (← get).notes.initObject with
    | some f => startObjects hasBase (callOf f [made .this []]) members
    | Option.none => pure members
  let first ← applyBlock c
  Applying.note fun _ => outer
  return body.withChildren (head ++ [(body.child 5).withChildren (first ++ members)])

/-- A base class that is kept in a variable, and that variable. -/
def keepBase (base : Node) : Applying (Node × Option Node) := do
  if base.isNone then return (base, Option.none)
  else
    let var ← Lowering.freshFor base "_super"
    Applying.declare var
    return (assignTo var base, some var)

/-! ## Static members -/

/-- Whether a member belongs to the class itself. -/
def isStaticMember (m : Node) : Bool :=
  match m.form with
  | .classMethod _ mods | .classField mods | .accessorField mods => mods.isStatic
  | .staticBlock => true
  | _ => false

/-- A call of an arrow function with the given code, if there is any. -/
def runCode (code : List Node) : List Node :=
  if code.isEmpty then []
  else [callOf (made (.arrow false false) [ofList [], blockOf code, none, none]) []]

/-- Members without static blocks: their code runs in front of the value of the next static field
that has one. What is left is answered too; `code` is that of the blocks so far. -/
def moveStaticBlocks (code : List Node) : List Node → List Node × List Node
  | [] => ([], code)
  | mk .staticBlock _ [body] :: ms => moveStaticBlocks (code ++ body.children) ms
  | mk (.classField mods) sp [ds, key, value, ann] :: ms =>
    if mods.isStatic && value.isSome && !code.isEmpty then
      let value := made .seq (runCode code ++ [value])
      let (ms, code) := moveStaticBlocks [] ms
      (mk (.classField mods) sp [ds, key, value, ann] :: ms, code)
    else
      let (ms, code) := moveStaticBlocks code ms
      (mk (.classField mods) sp [ds, key, value, ann] :: ms, code)
  | m :: ms =>
    let (ms, code) := moveStaticBlocks code ms
    (m :: ms, code)

/-- A private static member as one of an object, if it is one. -/
def ofObject? (m : Node) : Option Node :=
  if !m.isPrivateMember then Option.none
  else match m with
    | mk (.classMethod kind mods) sp cs =>
      if mods.isStatic then some (mk (.classMethod kind { mods with isStatic := false }) sp cs)
      else Option.none
    | mk (.classField mods) sp cs =>
      if mods.isStatic then some (mk (.classField { mods with isStatic := false }) sp cs)
      else Option.none
    | _ => Option.none

/-- The statement that makes a class inside of another one, which starts the class that takes its
place. -/
def makeInside (decorated init : Node) (left : List Node) (decl : Node) : Lowering Node := do
  let starts := callOf (made .superRef []) [decorated] :: runCode left ++ [callOf init []]
  let constructor := made (.constructor {})
    [propName "constructor", ofList [], blockOf [stmt (made .seq starts)]]
  let body := decl.child 1
  let members := (body.child 5).items
  let inner := decl.setChild 1
    (body.withMembers (members.filter (·.ofObject?.isNone)))
  let members := constructor :: staticBlockOf [inner] :: members.filterMap ofObject?
  let outer := made (.classBody false)
    [ofList [], ← Lowering.helper .identity, none, none, ofList [], ofList members]
  return stmt (made .new [made .classExpr [none, outer], none, ofList []])

/-! ## Classes with decorators of their own -/

/-- Whether the class of a body has decorators of its own. -/
def hasOwnDecorators (body : Node) : Bool := !(body.child 0).items.isEmpty

/-- A variable with the one that takes its place. -/
def replaceIdent (replaced : List (VarId × Node)) (n : Node) : Node :=
  match n with
  | mk (.ident name scope o) sp cs =>
    match (replaced.lookup (name, scope)).bind identId? with
    | some (name, scope) => mk (.ident name scope o) sp cs
    | Option.none => mk (.ident name scope o) sp cs
  | n => n

/-- A statement in the place of a declaration of a class with decorators of its own. -/
def applyDecl (rec : Node → Applying Node) (sp : Span) (name body : Node) : Applying Node := do
  let own ← keepDecorators (body.child 0)
  let init ← Applying.newVar "_initClass"
  let decorated ← Lowering.fresh ("_" ++ name.identName?.getD "")
  let inner ← Lowering.fresh (name.identName?.getD "")
  modify fun s => { s with
    lets := s.lets ++ [decorated]
    replaced := (name.identId?.map fun id => (id, decorated)).toList ++ s.replaced }
  let (base, baseVar) ← keepBase (body.child 1)
  let c : ClassTold := ⟨own.decoratorExprs, [decorated, init], baseVar⟩
  let members ← (body.child 5).items.mapM keepMember
  let body := (body.withMembers members).setChild 1 base
  if members.any isStaticMember then
    let (members, left) := moveStaticBlocks [] members
    let body ← applyBody rec c (body.withMembers members)
    makeInside decorated init left (mk (.classDecl false) sp [inner, body])
  else
    let body ← applyBody rec c (body.withMembers
      (members.filter isConstructor ++ members.filter (!·.isConstructor)))
    let final := staticBlockOf [stmt (callOf init [])]
    return mk (.classDecl false) sp [inner, body.withMembers ((body.child 5).items ++ [final])]

/-- An expression in the place of a class that is a value and has decorators of its own. -/
def applyValue (rec : Node → Applying Node) (sp : Span) (name body : Node) : Applying Node := do
  let init ← Applying.newVar "_initClass"
  let decorated ← Applying.newVar ("_" ++ name.identName?.getD "class")
  let body := match name.identId? with
    | some id => body.rewrite (replaceIdent [(id, decorated)])
    | Option.none => body
  let (base, baseVar) ← keepBase (body.child 1)
  let own ← keepDecorators (body.child 0)
  let c : ClassTold := ⟨own.decoratorExprs, [decorated, init], baseVar⟩
  let members ← (body.child 5).items.mapM keepMember
  let body ← applyBody rec c ((body.withMembers members).setChild 1 base)
  let final := staticBlockOf [stmt (callOf init [])]
  let body := body.withMembers ((body.child 5).items ++ [final])
  return mk .seq sp [mk .classExpr sp [name, body], decorated]

/-! ## Modules -/

/-- Exports a variable at the end of the module. -/
def exportLast (name exported : Node) : Applying Unit :=
  modify fun s => { s with
    exports := s.exports ++ [made (.exportSpecifier false) [name, exported]] }

/-- Statements without decorators, each behind what is evaluated in front of it. -/
def applyEach (rec : Node → Applying Node) : List Node → Applying (List Node)
  | [] => return []
  | s :: ss => do
    let s ← rec s
    let state ← get
    set { state with lets := [], before := [] }
    let lets := if state.lets.isEmpty then []
      else [Node.declare .lexical (state.lets.map fun v => (v, none))]
    let before := match state.before with
      | [] => []
      | [e] => [stmt e]
      | es => [stmt (made .seq es)]
    return lets ++ before ++ s :: (← applyEach rec ss)

/-- Statements without decorators, behind the variables that they need. -/
def applyStmts (rec : Node → Applying Node) (stmts : List Node) : Applying (List Node) := do
  let outer ← get
  set { outer with vars := [], lets := [], before := [], notes := {} }
  let stmts ← applyEach rec stmts
  let vars := (← get).vars
  modify fun s => { s with
    vars := outer.vars, lets := outer.lets, before := outer.before, notes := outer.notes }
  return prependStmts (declareVars vars) stmts

/-- A node without decorators, given how its parts are rewritten. -/
def applyDecorators (rec : Node → Applying Node) (n : Node) : Applying Node := do
  match n with
  | mk .block sp stmts => return mk .block sp (← applyStmts rec stmts)
  | mk .moduleBlock sp stmts => return mk .moduleBlock sp (← applyStmts rec stmts)
  | mk (.module shebang) sp stmts => return mk (.module shebang) sp (← applyStmts rec stmts)
  | mk .case sp [test, mk .list lsp stmts] =>
    return mk .case sp [← rec test, mk .list lsp (← applyStmts rec stmts)]
  | mk (.classDecl _) sp [name, body] =>
    if body.hasOwnDecorators then applyDecl rec sp name body
    else n.mapChildrenM rec
  | mk .exportDecl esp [mk (.classDecl d) sp [name, body]] =>
    if body.hasOwnDecorators then
      exportLast name none
      applyDecl rec sp name body
    else return mk .exportDecl esp [← rec (mk (.classDecl d) sp [name, body])]
  | mk .exportDefaultDecl esp [mk .classExpr sp [name, body]] =>
    if body.hasOwnDecorators then
      let name ← if name.isNone then Lowering.fresh "_class" else pure name
      exportLast name (propName "default")
      applyDecl rec sp name body
    else return mk .exportDefaultDecl esp [mk .classExpr sp [name, ← rec body]]
  | mk .classExpr sp [name, body] =>
    if body.hasOwnDecorators then applyValue rec sp name body
    else n.mapChildrenM rec
  | mk (.classBody _) _ _ => applyBody rec {} n
  | n => n.mapChildrenM rec

/-- A node whose names for variables that others take the place of are written out. -/
def spellNames (replaced : List (VarId × Node)) (n : Node) : Node :=
  let isReplaced (n : Node) : Bool := n.identId?.any fun id => (replaced.lookup id).isSome
  match n with
  | mk .object sp props =>
    mk .object sp (props.map fun p =>
      if isReplaced p then mk .keyValue p.span [propName (p.identName?.getD ""), p] else p)
  | mk (.exportSpecifier t) sp [name, exported] =>
    if exported.isNone && isReplaced name then
      mk (.exportSpecifier t) sp [name, propName (name.identName?.getD "")]
    else n
  | n => n

/-- A module without decorators of this kind. The code of static blocks becomes a few levels deeper
where it moves. -/
def lowerStandard (module : Node) : Lowering Node := do
  let (module, s) ← (visitWith applyDecorators (4 * module.height + 4) module).run {}
  let module := if s.exports.isEmpty then module
    else module.withChildren
      (module.children ++ [made (.exportNamed false) [ofList s.exports, none, none]])
  if s.replaced.isEmpty then return module
  else return (module.rewrite (spellNames s.replaced)).rewrite (replaceIdent s.replaced)

end Node

end ScriptHost
