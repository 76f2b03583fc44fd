import ScriptHost.Decorator.Basic
import ScriptHost.Decorator.TypeValue
import ScriptHost.Erase.Types
/-!
# Experimental decorators

The older kind of decorators is called behind the class, with the object that
holds a member and its name. They may be told the types of members.

- `Node.decorateMember`: a member without decorators, and the call for it.
- `Node.lowerExperimental`: a module without decorators of this kind.
-/

namespace ScriptHost

/-- What is known while the decorators of a class are taken out. -/
structure ExperimentalContext where
  /-- Whether decorators are told types. -/
  tellsTypes : Bool
  types : TypeContext
  /-- The variable of the class. -/
  owner : Node

namespace Node

/-! ## What decorators are told -/

/-- What the type of an annotation is, if there is one. -/
def annotatedType (c : TypeContext) (ann : Node) : RunType :=
  if ann.isNone then .nothing else ann.runType c.self

/-- A decorator that tells a type under a key. -/
def tellType (key : String) (value : Node) : Lowering Node :=
  Lowering.callHelper .tsMetadata [string key, value]

/-- The types of parameters. -/
def paramTypes (c : TypeContext) (params : List Node) : Node :=
  made .array (params.map fun p => (annotatedType c (p.child 1).patternType).expr)

/-- What a function answers, by its annotation unless it is asynchronous. -/
def resultType (c : TypeContext) (f : Node) : RunType :=
  match f with
  | mk (.func isAsync _) _ [_, _, _, _, ann] =>
    if isAsync then .builtIn "Promise" else annotatedType c ann
  | _ => .nothing

/-- The decorators that tell the types of a method. -/
def methodTypes (c : TypeContext) (kind : MethodKind) (f : Node) : Lowering (List Node) := do
  let params := (f.child 1).items
  let own := match kind with
    | .method => RunType.builtIn "Function"
    | .getter => resultType c f
    | .setter => annotatedType c ((params.headD none).child 1).patternType
  let first ← tellType "design:type" own.expr
  let second ← tellType "design:paramtypes" (paramTypes c params)
  if kind == .method then
    return [first, second, ← tellType "design:returntype" (resultType c f).expr]
  else return [first, second]

/-- The decorators that tell the type of a field. -/
def fieldType (c : TypeContext) (ann : Node) : Lowering (List Node) := do
  return [← tellType "design:type" (ann.fieldRunType c).expr]

/-- Decorators of parameters as decorators of the function, from the parameter with the given number
on. -/
def paramDecorators (i : Nat) : List Node → Lowering (List Node)
  | [] => return []
  | p :: ps => do
    let own ← (p.child 0).decoratorExprs.mapM fun e =>
      Lowering.callHelper .tsParam [nat i, e]
    return own ++ (← paramDecorators (i + 1) ps)

/-- A list of parameters without decorators. -/
def plainParams (params : Node) : Node :=
  params.withChildren (params.items.map fun p => p.setChild 0 (ofList []))

/-! ## Members -/

/-- A key that is read twice: the key with its value kept, and an expression for it. -/
def keptKey (key : Node) : Decorating (Node × Node) := do
  match key with
  | mk .computed sp [e] =>
    if e.form matches .str .. | .num .. then return (key, e)
    else
      let var ← Decorating.keep "_key" e
      return (mk .computed sp [var], var)
  | mk (.name text) _ _ => return (key, string text)
  | mk (.privateName text _) _ _ => return (key, string text)
  | key => return (key, key)

/-- The object that holds a member. -/
def holder (c : ExperimentalContext) (isStatic : Bool) : Node :=
  if isStatic then c.owner else dot c.owner "prototype"

/-- Calls the decorators of a member behind the class. -/
def callDecorators (c : ExperimentalContext) (decorators : List Node) (isStatic : Bool)
    (key descriptor : Node) : Decorating Unit := do
  Decorating.last (← Lowering.callHelper .tsDecorate
    [made .array decorators, holder c isStatic, key, descriptor])

/-- A member without decorators. -/
def decorateMember (c : ExperimentalContext) (m : Node) : Decorating Node := do
  if !m.isDecoratedMember || m.isPrivateMember then return m else
  match m with
  | mk (.constructor mods) sp [key, params, body] =>
    return mk (.constructor mods) sp [key, params.plainParams, body]
  | mk (.classMethod kind mods) sp [key, f] =>
    let (key, name) ← keptKey key
    let own := (f.child 0).decoratorExprs
    let params ← paramDecorators 0 (f.child 1).items
    let types ← if c.tellsTypes then methodTypes c.types kind f else pure []
    callDecorators c (own ++ params ++ types) mods.isStatic name (made .null [])
    let f := (f.setChild 0 (ofList [])).setChild 1 (f.child 1).plainParams
    return mk (.classMethod kind mods) sp [key, f]
  | mk (.classField mods) sp [ds, key, value, ann] =>
    let (key, name) ← keptKey key
    let types ← if c.tellsTypes && ann.isSome then fieldType c.types ann else pure []
    callDecorators c (ds.decoratorExprs ++ types) mods.isStatic name undefined
    return mk (.classField mods) sp [ofList [], key, value, ann]
  | mk (.accessorField mods) sp [ds, key, value, ann] =>
    let (key, name) ← keptKey key
    callDecorators c ds.decoratorExprs mods.isStatic name (made .null [])
    return mk (.accessorField mods) sp [ofList [], key, value, ann]
  | m => return m

/-! ## Classes -/

/-- The decorators of a class, with those of the parameters of its constructor. -/
def classDecorators (c : ExperimentalContext) (body : Node) : Lowering (List Node) := do
  let constructor := (body.child 5).items.find? fun m =>
    (m.form matches .constructor _) && (m.child 2).isSome
  let params := (constructor.map fun m => (m.child 1).items).getD []
  let own := (body.child 0).decoratorExprs ++ (← paramDecorators 0 params)
  if c.tellsTypes && constructor.isSome && !own.isEmpty then
    return own ++ [← tellType "design:type" (global "Function"),
      ← tellType "design:paramtypes" (paramTypes c.types params)]
  else return own

/-- The class of a body without decorators. -/
def decorateBody (c : ExperimentalContext) (body : Node) : Decorating Node := do
  let members ← (body.child 5).items.mapM fun m => decorateMember c m
  let decorators ← classDecorators c body
  if !decorators.isEmpty then
    let call ← Lowering.callHelper .tsDecorate [made .array decorators, c.owner]
    Decorating.last (assignTo c.owner call)
  return body.withMembers members

/-- A reference to the variable that a name declares. -/
def asReference (name : Node) : Node :=
  match name with
  | mk (.ident name scope _) _ _ => var name scope
  | n => n

/-- Whether the class of a body has decorators of this kind: those of private members are none. -/
def isDecorated (body : Node) : Bool :=
  !(body.child 0).items.isEmpty
    || (body.child 5).items.any fun m => m.isDecoratedMember && !m.isPrivateMember

/-- The statements for a declaration of a class, given how the class without its decorators is
declared. -/
def decorateDecl (tellsTypes : Bool) (enums : List (VarId × RunType)) (name body : Node)
    (declareClass : Node → Node) : Lowering (List Node) := do
  let c : ExperimentalContext := ⟨tellsTypes, ⟨name.identId?, enums⟩, name.asReference⟩
  let (body, around) ← (decorateBody c body).run {}
  return declareVars around.vars ++ around.before.map stmt
    ++ declareClass body :: around.after.map stmt

/-- A statement that may declare a decorated class, as those without decorators. -/
def decorateStmt (tellsTypes : Bool) (enums : List (VarId × RunType)) (s : Node) :
    Lowering (List Node) := do
  match s with
  | mk (.classDecl d) sp [name, body] =>
    if !body.isDecorated then return [s]
    else decorateDecl tellsTypes enums name body fun body => mk (.classDecl d) sp [name, body]
  | mk .exportDecl esp [mk (.classDecl d) sp [name, body]] =>
    if !body.isDecorated then return [s]
    else
      let declareClass (body : Node) : Node :=
        mk .exportDecl esp [mk (.classDecl d) sp [name, body]]
      decorateDecl tellsTypes enums name body declareClass
  | mk .exportDefaultDecl esp [mk .classExpr sp [name, body]] =>
    if !body.isDecorated then return [s]
    else
      let name ← if name.isNone then Lowering.fresh "_class" else pure name
      let declareClass (body : Node) : Node :=
        mk .exportDefaultDecl esp [mk .classExpr sp [name, body]]
      decorateDecl tellsTypes enums name body declareClass
  | s => return [s]

/-- A class that is a value as an expression without decorators. -/
def decorateValue (tellsTypes : Bool) (enums : List (VarId × RunType)) (sp : Span)
    (name body : Node) : StateT (List Node) Lowering Node := do
  let owner ← Lowering.fresh "_class"
  let c : ExperimentalContext := ⟨tellsTypes, ⟨name.identId?, enums⟩, owner⟩
  let (body, around) ← (decorateBody c body).run {}
  modify fun vars => vars ++ owner :: around.vars
  return mk .seq sp (around.before ++ assignTo owner (mk .classExpr sp [name, body])
    :: around.after ++ [owner])

mutual
/-- The tree without decorators of this kind. -/
def decorateAll (tellsTypes : Bool) (enums : List (VarId × RunType)) :
    Node → StateT (List Node) Lowering Node
  | mk .exportDefaultDecl esp [mk .classExpr sp cs] => do
    return mk .exportDefaultDecl esp [mk .classExpr sp (← decorateEach tellsTypes enums cs)]
  | mk form sp cs => do
    let cs ← decorateEach tellsTypes enums cs
    match form, cs with
    | .classExpr, [name, body] =>
      if body.isDecorated then decorateValue tellsTypes enums sp name body
      else return mk form sp cs
    | .block, _ | .list, _ | .module _, _ | .moduleBlock, _ =>
      return mk form sp (← cs.mapM fun s => decorateStmt tellsTypes enums s).flatten
    | _, _ => return mk form sp cs
/-- Nodes without decorators of this kind. -/
def decorateEach (tellsTypes : Bool) (enums : List (VarId × RunType)) :
    List Node → StateT (List Node) Lowering (List Node)
  | [] => return []
  | c :: cs => do
    let c ← decorateAll tellsTypes enums c
    return c :: (← decorateEach tellsTypes enums cs)
end

/-- A module without decorators of this kind. -/
def lowerExperimental (tellsTypes : Bool) (module : Node) : Lowering Node := do
  let (module, vars) ← (decorateAll tellsTypes module.enumTypes module).run []
  return module.withChildren (prependStmts (declareVars vars) module.children)

end Node

end ScriptHost
