import ScriptHost.Scope.Declared
/-!
# Binding names to scopes

Every identifier that reads or declares a variable gets the number of the
scope that declares it, so that two identifiers name the same variable exactly
if they agree in name and scope. A name that no declaration of the file binds
gets `Scope.unresolved`.

- `Scopes`: the scopes around a place, innermost first.
- `Scopes.find`: the scope in which a name is bound.
- `Node.resolve`: the tree with every name bound.
-/

namespace ScriptHost

/-- The names that one scope declares. -/
structure Scope where
  id : ScopeId
  values : List String := []
  types : List String := []
deriving Repr, Inhabited

namespace Scope

/-- The number of names that are not resolved yet. -/
def untouched : ScopeId := 0

/-- The number of names that no declaration of the file binds. -/
def unresolved : ScopeId := 1

/-- The number of names that the file declares at its top. -/
def top : ScopeId := 2

/-- The number of the functions that a compiled file brings along. -/
def helpers : ScopeId := 3

/-- The first number for the scopes inside a file. -/
def firstInner : ScopeId := 4

end Scope

/-- The scopes around a place. -/
structure Scopes where
  /-- The scopes that declare names, innermost first. -/
  around : List Scope := []
  /-- The scope to which `var` declares. -/
  functionScope : ScopeId := Scope.top
  /-- Whether a name stands for a type before it stands for a value. -/
  inType : Bool := false
deriving Repr, Inhabited

namespace Scopes

/-- The innermost scope. -/
def current (s : Scopes) : ScopeId := (s.around.head?.map (·.id)).getD Scope.top

/-- The scope that binds a name as a value. -/
def findValue (s : Scopes) (name : String) : Option ScopeId :=
  (s.around.find? fun scope => scope.values.contains name).map (·.id)

/-- The scope that binds a name as a type. -/
def findType (s : Scopes) (name : String) : Option ScopeId :=
  (s.around.find? fun scope => scope.types.contains name).map (·.id)

/-- The scope in which a name is bound. -/
def find (s : Scopes) (inType : Bool) (name : String) : ScopeId :=
  let value := s.findValue name
  let found := if inType then (s.findType name).or value else value
  found.getD Scope.unresolved

/-- Looks names up as types. -/
def asTypes (s : Scopes) : Scopes := { s with inType := true }

/-- The scope of a name in a role. -/
def scopeOf (s : Scopes) (role : Role) (name : String) : ScopeId :=
  match role with
  | .value | .body | .target => s.find s.inType name
  | .binding => s.current
  | .varBinding => s.functionScope
  | .name => Scope.untouched
  | .type => s.find true name

/-- The scopes with more names in the innermost one. -/
def declare (s : Scopes) (values types : List String) : Scopes :=
  match s.around with
  | scope :: rest =>
    { s with around := { scope with values := values ++ scope.values
                                    types := types ++ scope.types } :: rest }
  | [] => s

end Scopes

/-- Computations that number new scopes. -/
abbrev Numbering := StateM ScopeId

namespace Numbering

/-- A number that no scope has. -/
def fresh : Numbering ScopeId := modifyGet fun n => (n, n + 1)

end Numbering

namespace Scopes

/-- The scopes inside a block that declares names. -/
def enter (s : Scopes) (values types : List String) : Numbering Scopes := do
  let id ← Numbering.fresh
  return { s with around := ⟨id, values, types⟩ :: s.around }

/-- The scopes inside a function that declares names. -/
def enterFunction (s : Scopes) (values types : List String) : Numbering Scopes := do
  let id ← Numbering.fresh
  return { s with around := ⟨id, values, types⟩ :: s.around, functionScope := id }

end Scopes

namespace Node

/-! ## What the parts of functions and types declare -/

/-- The names that a parameter binds. -/
def paramNames (param : Node) : List String :=
  match param.form with
  | .param | .paramProp _ => (param.child 1).boundNames
  | _ => param.boundNames

/-- The names of type parameters. -/
def typeParamNames (params : Node) : List String :=
  params.items.filterMap fun p => (p.child 0).nameText?

/-- The names that statements declare where they stand. -/
def blockNamesOf (stmts : List Node) : List String := stmts.flatMap blockNames

/-- The types that statements declare where they stand. -/
def blockTypesOf (stmts : List Node) : List String := stmts.flatMap blockTypes

/-- The names that the body of a function declares for the whole function. -/
def functionNames (body : Node) : List String :=
  match body with
  | mk .block _ stmts => blockNamesOf stmts ++ varNamesAll stmts
  | _ => []

/-- The types that the body of a function declares for the whole function. -/
def functionTypes (body : Node) : List String :=
  match body with
  | mk .block _ stmts => blockTypesOf stmts
  | _ => []

/-- The names that the first part of a `for` declares for the statement. -/
def headNames (head : Node) : List String := head.blockNames

/-- The names of the members of an enumeration. -/
def memberNames (members : List Node) : List String :=
  members.filterMap fun m => (m.child 0).identName?

/-- Whether the name of a markup element stands for itself. -/
def isIntrinsicName (name : Node) : Bool :=
  match name.identName? with
  | some text => (text.toList.head?.map fun c => 'a' ≤ c && c ≤ 'z').getD false
  | Option.none => false

/-! ## Resolution -/

mutual
/-- Binds the names of a node that plays a role. -/
def resolveIn (s : Scopes) (role : Role) : Node → Numbering Node
  | mk (.ident name _ isOptional) sp cs => do
    let cs ← resolveParts s (.ident name 0 isOptional) role 0 cs
    return mk (.ident name (s.scopeOf role name) isOptional) sp cs
  | mk .block sp cs => do
    let inner ← if role == .body then pure s else s.enter (blockNamesOf cs) (blockTypesOf cs)
    return mk .block sp (← resolveParts inner .block .value 0 cs)
  | mk (.func isAsync isGenerator) sp [ds, ps, body, tps, result] => do
    let ds ← resolveIn s .value ds
    let inner ← s.enterFunction (ps.items.flatMap paramNames ++ body.functionNames)
      (tps.typeParamNames ++ body.functionTypes)
    let tps ← resolveIn inner .type tps
    let ps ← resolveIn inner .binding ps
    let result ← resolveIn inner .type result
    let body ← resolveIn inner .body body
    return mk (.func isAsync isGenerator) sp [ds, ps, body, tps, result]
  | mk (.arrow isAsync isGenerator) sp [ps, body, tps, result] => do
    let inner ← s.enterFunction (ps.items.flatMap boundNames ++ body.functionNames)
      (tps.typeParamNames ++ body.functionTypes)
    let tps ← resolveIn inner .type tps
    let ps ← resolveIn inner .binding ps
    let body ← resolveIn inner .body body
    let result ← resolveIn inner .type result
    return mk (.arrow isAsync isGenerator) sp [ps, body, tps, result]
  | mk .fnExpr sp [name, f] => do
    if name.isNone then return mk .fnExpr sp [name, ← resolveIn s .value f]
    let inner ← s.enter name.identName?.toList []
    let name ← resolveIn inner .binding name
    return mk .fnExpr sp [name, ← resolveIn inner .value f]
  | mk .classExpr sp [name, body] => do
    let inner ← s.enter name.identName?.toList []
    let name ← resolveIn inner .binding name
    return mk .classExpr sp [name, ← resolveIn inner .value body]
  | mk (.classBody isAbstract) sp (ds :: super :: superArgs :: tps :: rest) => do
    let ds ← resolveIn s .value ds
    let inner ← s.enter [] tps.typeParamNames
    let super ← resolveIn inner .value super
    let tps ← resolveIn inner .type tps
    let superArgs ← resolveIn inner .type superArgs
    let rest ← resolveParts inner (.classBody isAbstract) .value 4 rest
    return mk (.classBody isAbstract) sp (ds :: super :: superArgs :: tps :: rest)
  | mk (.constructor mods) sp [key, ps, body] => do
    let inner ← s.enterFunction (ps.items.flatMap paramNames ++ body.functionNames)
      body.functionTypes
    let ps ← resolveIn inner .binding ps
    return mk (.constructor mods) sp [key, ps, ← resolveIn inner .body body]
  | mk .staticBlock sp [body] => do
    let inner ← s.enterFunction body.functionNames body.functionTypes
    return mk .staticBlock sp [← resolveIn inner .body body]
  | mk .switch sp [subject, mk .list lsp cases] => do
    let subject ← resolveIn s .value subject
    let inner ← s.enter [] []
    return mk .switch sp [subject, mk .list lsp (← resolveCases inner cases)]
  | mk .catchClause sp [pattern, body] => do
    let names := match body with
      | mk .block _ stmts => blockNamesOf stmts
      | _ => []
    let inner ← s.enter (pattern.boundNames ++ names) body.functionTypes
    let pattern ← resolveIn inner .binding pattern
    return mk .catchClause sp [pattern, ← resolveIn inner .body body]
  | mk .forStmt sp (init :: rest) => do
    let inner ← s.enter init.headNames []
    let init ← resolveIn inner .value init
    return mk .forStmt sp (init :: (← resolveParts inner .forStmt .value 1 rest))
  | mk .forIn sp (left :: rest) => do
    let inner ← s.enter left.headNames []
    let left ← resolveIn inner .target left
    return mk .forIn sp (left :: (← resolveParts inner .forIn .value 1 rest))
  | mk (.forOf isAwait) sp (left :: rest) => do
    let inner ← s.enter left.headNames []
    let left ← resolveIn inner .target left
    return mk (.forOf isAwait) sp (left :: (← resolveParts inner (.forOf isAwait) .value 1 rest))
  | mk (.enumDecl isDeclare isConst) sp (name :: members) => do
    let name ← resolveIn s .binding name
    let inner ← s.enterFunction (members.flatMap fun ms => memberNames ms.items) []
    return mk (.enumDecl isDeclare isConst) sp
      (name :: (← resolveParts inner (.enumDecl isDeclare isConst) .value 1 members))
  | mk (.moduleDecl isDeclare isGlobal) sp [name, body] => do
    let name ← resolveIn s .binding name
    let inner ← s.enterFunction [] []
    return mk (.moduleDecl isDeclare isGlobal) sp [name, ← resolveSpace inner body]
  | mk (.interfaceDecl isDeclare) sp (name :: tps :: rest) => do
    let name ← resolveIn s .binding name
    let inner ← s.asTypes.enter [] tps.typeParamNames
    let tps ← resolveIn inner .type tps
    return mk (.interfaceDecl isDeclare) sp
      (name :: tps :: (← resolveParts inner (.interfaceDecl isDeclare) .value 2 rest))
  | mk (.typeAlias isDeclare) sp (name :: tps :: rest) => do
    let name ← resolveIn s .binding name
    let inner ← s.asTypes.enter [] tps.typeParamNames
    let tps ← resolveIn inner .type tps
    return mk (.typeAlias isDeclare) sp
      (name :: tps :: (← resolveParts inner (.typeAlias isDeclare) .type 2 rest))
  | mk .exportDefaultDecl sp [mk .fnExpr fsp [name, f]] => do
    let name ← resolveIn s .binding name
    return mk .exportDefaultDecl sp [mk .fnExpr fsp [name, ← resolveIn s .value f]]
  | mk .exportDefaultDecl sp [mk .classExpr csp [name, body]] => do
    let name ← resolveIn s .binding name
    return mk .exportDefaultDecl sp [mk .classExpr csp [name, ← resolveIn s .value body]]
  | mk (.exportNamed isTypeOnly) sp [specs, from', attributes] => do
    if from'.isSome then return mk (.exportNamed isTypeOnly) sp [specs, from', attributes]
    return mk (.exportNamed isTypeOnly) sp [← resolveIn s .target specs, from', attributes]
  | mk (.exportSpecifier isTypeOnly) sp (mk (.ident name _ isOptional) isp cs :: rest) =>
    let scope := ((s.findValue name).or (s.findType name)).getD Scope.unresolved
    return mk (.exportSpecifier isTypeOnly) sp (mk (.ident name scope isOptional) isp cs :: rest)
  | mk .heritage sp cs => return mk .heritage sp (← resolveParts s.asTypes .heritage role 0 cs)
  | mk (.jsxOpening selfClosing) sp (name :: rest) => do
    let name ← if name.isIntrinsicName then resolveIn {} .value name
      else resolveIn s .target name
    return mk (.jsxOpening selfClosing) sp
      (name :: (← resolveParts s (.jsxOpening selfClosing) .value 1 rest))
  | mk .jsxClosing sp [name] => do
    let name ← if name.isIntrinsicName then resolveIn {} .value name
      else resolveIn s .target name
    return mk .jsxClosing sp [name]
  | mk form sp cs => return mk form sp (← resolveParts s form role 0 cs)
/-- Binds the names of the parts of a node from the one with the given number on. -/
def resolveParts (s : Scopes) (form : Form) (own : Role) (i : Nat) :
    List Node → Numbering (List Node)
  | [] => return []
  | c :: cs => do
    let c ← resolveIn s (form.childRole own i) c
    return c :: (← resolveParts s form own (i + 1) cs)
/-- Binds the names of the cases of a `switch`, each of which sees the ones before it. -/
def resolveCases (s : Scopes) : List Node → Numbering (List Node)
  | [] => return []
  | mk .case sp [test, mk .list lsp body] :: cs => do
    let s := s.declare (blockNamesOf body) (blockTypesOf body)
    let body ← resolveParts s .list .value 0 body
    let test ← resolveIn s .value test
    return mk .case sp [test, mk .list lsp body] :: (← resolveCases s cs)
  | c :: cs => do return c :: (← resolveCases s cs)
/-- Binds the names of what a namespace holds. -/
def resolveSpace (s : Scopes) : Node → Numbering Node
  | mk .moduleBlock sp cs => do
    let s := s.declare (blockNamesOf cs ++ varNamesAll cs) (blockTypesOf cs)
    return mk .moduleBlock sp (← resolveParts s .moduleBlock .value 0 cs)
  | mk (.nestedNamespace isDeclare isGlobal) sp [name, body] => do
    let s := s.declare name.identName?.toList []
    let name ← resolveIn s .binding name
    return mk (.nestedNamespace isDeclare isGlobal) sp [name, ← resolveSpace s body]
  | n => return n
end

/-- Items with their names bound, where the scope around them is given. -/
def resolveItems (top : Scope) (items : List Node) : Numbering (List Node) :=
  resolveParts { around := [top], functionScope := top.id } (.module Option.none) .value 0 items

/-- The module with its names bound, and the first number that no scope has. -/
def resolve (module : Node) : Node × ScopeId :=
  let items := module.children
  let top : Scope :=
    ⟨Scope.top, blockNamesOf items ++ varNamesAll items, blockTypesOf items⟩
  let (items, next) := (resolveItems top items).run Scope.firstInner
  (module.withChildren items, next)

end Node

end ScriptHost
