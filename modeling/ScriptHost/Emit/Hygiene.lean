import ScriptHost.Scope.Declared
/-!
# Names that do not collide

After rewriting, two variables may have the same name where only their scopes
tell them apart. Variables get other names such that the text alone says which
variable a name stands for.

- `NameScope`: what a piece of code declares and uses.
- `NameScope.rename`: names for all variables, so that none hides another in use.
- `Node.withDistinctNames`: the module with those names.
-/

namespace ScriptHost

/-- The variables that a piece of code declares, in order, and those that occur in it, with the
pieces of code inside of it. -/
inductive NameScope where
  | mk (declared used : List VarId) (inner : List NameScope)
deriving Inhabited

namespace NameScope

/-- The variables that a scope declares itself. -/
def declared : NameScope → List VarId
  | mk ds _ _ => ds

mutual
/-- All variables that occur in a scope and in those inside of it. -/
def occurring : NameScope → List VarId
  | mk ds us inner => ds ++ us ++ occurringAll inner
/-- All variables that occur in scopes. -/
def occurringAll : List NameScope → List VarId
  | [] => []
  | s :: ss => s.occurring ++ occurringAll ss
end

/-! ## Collecting -/

/-- What is known of a scope while its code is read. -/
structure Draft where
  declared : List VarId := []
  used : List VarId := []
  inner : List NameScope := []
  /-- What `var` declares for the function around a block. -/
  hoisted : List VarId := []

namespace Draft

/-- A variable that the scope declares. -/
def declare (d : Draft) (id : VarId) : Draft :=
  if id.1 == "arguments" || d.declared.contains id then d
  else { d with declared := d.declared ++ [id] }

/-- A variable that the function around declares. -/
def declareVar (d : Draft) (isFunction : Bool) (id : VarId) : Draft :=
  if isFunction then d.declare id else { d with hoisted := d.hoisted ++ [id] }

/-- A variable that occurs in the scope. -/
def use (d : Draft) (id : VarId) : Draft := { d with used := id :: d.used }

/-- The scope that the draft describes. -/
def scope (d : Draft) : NameScope := .mk d.declared (d.hoisted ++ d.used) d.inner

/-- A function inside of the scope. -/
def addFunction (d inner : Draft) : Draft := { d with inner := d.inner ++ [inner.scope] }

/-- A block inside of the scope. -/
def addBlock (d : Draft) (isFunction : Bool) (inner : Draft) : Draft :=
  inner.hoisted.foldl (declareVar · isFunction) { d with inner := d.inner ++ [inner.scope] }

end Draft

end NameScope

open NameScope in
mutual
/-- What a node adds to the draft of the scope around it. -/
def Node.names (isFunction : Bool) (role : Role) (d : Draft) : Node → Draft
  | .mk (.ident name scope _) _ _ =>
    match role with
    | .value | .body | .target => d.use (name, scope)
    | .binding => d.declare (name, scope)
    | .varBinding => d.declareVar isFunction (name, scope)
    | .name | .type => d
  | .mk .block _ cs =>
    if role == .body then Node.namesFrom isFunction .block .value 0 d cs
    else d.addBlock isFunction (Node.namesFrom false .block .value 0 {} cs)
  | .mk (.func isAsync isGenerator) _ (ds :: rest) =>
    let d := ds.names isFunction .value d
    d.addFunction (Node.namesFrom true (.func isAsync isGenerator) .value 1 {} rest)
  | .mk (.method .getter) _ [key, .mk _ _ [_, _, body, _, _]] =>
    body.names isFunction .value (key.names isFunction .value d)
  | .mk (.method .setter) _ [key, .mk _ _ [_, .mk .list _ ps, body, _, _]] =>
    let d := Node.namesOfSetter isFunction (key.names isFunction .value d) ps
    body.names isFunction .value d
  | .mk (.arrow isAsync isGenerator) _ cs =>
    d.addFunction (Node.namesFrom true (.arrow isAsync isGenerator) .value 0 {} cs)
  | .mk (.constructor mods) _ cs =>
    d.addFunction (Node.namesFrom true (.constructor mods) .value 0 {} cs)
  | .mk .staticBlock _ cs => d.addFunction (Node.namesFrom true .staticBlock .value 0 {} cs)
  | .mk .fnExpr _ [name, f] =>
    if name.isNone then f.names isFunction .value d
    else
      let inner := name.names true .binding {}
      d.addFunction (f.names true .value inner)
  | .mk .classExpr _ [name, body] =>
    if name.isNone then d.addBlock isFunction (body.names false .value {})
    else
      let inner := name.names true .binding {}
      d.addFunction (inner.addBlock true (body.names false .value {}))
  | .mk (.fnDecl _) _ [name, f] =>
    f.names isFunction .value (name.names isFunction .varBinding d)
  | .mk (.classDecl _) _ [name, body] =>
    (name.names isFunction .binding d).addBlock isFunction (body.names false .value {})
  | .mk .exportDefaultDecl _ [.mk form _ [name, body]] =>
    let d := name.names isFunction .binding d
    if form matches .classExpr then d.addBlock isFunction (body.names false .value {})
    else body.names isFunction .value d
  | .mk .catchClause _ cs =>
    d.addBlock isFunction (Node.namesFrom false .catchClause .value 0 {} cs)
  | .mk .forStmt _ [init, test, update, body] =>
    let inner := init.names false .value {}
    let inner := test.names false .value inner
    let inner := update.names false .value inner
    d.addBlock isFunction (body.names false .body inner)
  | .mk .forIn _ [left, right, body] =>
    let inner := right.names false .value (left.names false .target {})
    d.addBlock isFunction (body.names false .body inner)
  | .mk (.forOf _) _ [left, right, body] =>
    let inner := right.names false .value (left.names false .target {})
    d.addBlock isFunction (body.names false .body inner)
  | .mk .switch _ [subject, cases] =>
    let d := subject.names isFunction .value d
    d.addBlock isFunction (cases.names false .value {})
  | .mk (.exportNamed _) _ [specs, source, _] =>
    if source.isSome then d else specs.names isFunction .target d
  | .mk form _ cs => Node.namesFrom isFunction form role 0 d cs
/-- What the parts of a node add from the one with the given number on. -/
def Node.namesFrom (isFunction : Bool) (form : Form) (own : Role) (i : Nat) (d : Draft) :
    List Node → Draft
  | [] => d
  | c :: cs =>
    Node.namesFrom isFunction form own (i + 1) (c.names isFunction (form.childRole own i) d) cs
/-- What the parameters of a setter of an object literal add: they count as used, not as
declared. -/
def Node.namesOfSetter (isFunction : Bool) (d : Draft) : List Node → Draft
  | [] => d
  | .mk _ _ cs :: ps => Node.namesOfSetter isFunction (Node.namesFrom isFunction .list .target 0 d cs) ps
end

/-! ## Choosing names -/

namespace NameScope

/-- A variable's name, with a number behind it from one on. -/
def candidate (name : String) (n : Nat) : String := if n == 0 then name else name ++ toString n

/-- Whether a variable may have a name that other variables have: none of them occurs with it. -/
def isFree (occurring : List VarId) (taken : List (String × VarId)) (id : VarId) (name : String) :
    Bool :=
  taken.all fun (other, owner) => other != name || owner == id || !occurring.contains owner

/-- The first name from a number on that a variable may have. -/
def choose (unresolved : List String) (occurring : List VarId) (taken : List (String × VarId))
    (id : VarId) : Nat → Nat → String
  | 0, n => candidate id.1 n
  | fuel + 1, n =>
    let name := candidate id.1 n
    if unresolved.contains name || !isFree occurring taken id name then
      choose unresolved occurring taken id fuel (n + 1)
    else name

/-- The names that variables were given, and the variables that were given names around. -/
structure Naming where
  given : List (VarId × String) := []
  taken : List (String × VarId) := []

/-- Names a variable. -/
def Naming.add (unresolved : List String) (occurring : List VarId) (n : Naming) (id : VarId) :
    Naming :=
  if (n.given.lookup id).isSome || id.1 == "eval" then n
  else
    let fuel := unresolved.length + n.taken.length + 1
    let name := choose unresolved occurring n.taken id fuel 0
    ⟨(id, name) :: n.given, (name, id) :: n.taken⟩

mutual
/-- Names the variables of a scope and of those inside of it. -/
def rename (unresolved : List String) (taken : List (String × VarId))
    (given : List (VarId × String)) : NameScope → List (VarId × String)
  | mk ds us inner =>
    let occurring := (mk ds us inner).occurring
    let n := ds.foldl (Naming.add unresolved occurring) ⟨given, taken⟩
    renameAll unresolved n.taken n.given inner
/-- Names the variables of scopes next to each other. -/
def renameAll (unresolved : List String) (taken : List (String × VarId))
    (given : List (VarId × String)) : List NameScope → List (VarId × String)
  | [] => given
  | s :: ss => renameAll unresolved taken (s.rename unresolved taken given) ss
end

mutual
/-- All variables that a scope or one inside of it declares. -/
def bound : NameScope → List VarId
  | mk ds _ inner => ds ++ boundAll inner
/-- All variables that scopes declare. -/
def boundAll : List NameScope → List VarId
  | [] => []
  | s :: ss => s.bound ++ boundAll ss
end

/-- The names that occur without a declaration. -/
def unresolved (s : NameScope) : List String :=
  let bound := s.bound
  ((s.occurring.filter fun id => !bound.contains id).map (·.1)).eraseDups

/-- The variables whose names change, with their new names. -/
def changes (s : NameScope) : List (VarId × String) :=
  (s.rename s.unresolved [] []).filter fun (id, name) => id.1 != name

end NameScope

/-! ## Renaming -/

namespace Node

/-- The identifier with its new name. -/
def withNewName (changes : List (VarId × String)) (n : Node) : Node :=
  match n with
  | mk (.ident name scope isOptional) sp cs =>
    mk (.ident ((changes.lookup (name, scope)).getD name) scope isOptional) sp cs
  | n => n

/-- Whether an identifier gets a new name. -/
def isRenamed (changes : List (VarId × String)) (n : Node) : Bool :=
  (n.identId?.bind fun id => changes.lookup id).isSome

/-- The name of an identifier as it is spelled where it is no variable. -/
def asName (n : Node) : Node :=
  match n with
  | mk (.ident name _ _) sp _ => mk (.name name) sp []
  | n => n

mutual
/-- Gives identifiers their new names; what only spells a name keeps it. -/
def renameVars (changes : List (VarId × String)) : Node → Node
  | mk (.ident name scope isOptional) sp cs =>
    (mk (.ident name scope isOptional) sp cs).withNewName changes
  | mk .object sp cs => mk .object sp (renameProps changes cs)
  | mk .shorthandPat sp [id, default] =>
    let default := default.renameVars changes
    if id.isRenamed changes then
      let id' := id.withNewName changes
      mk .keyPat sp [id.asName, if default.isNone then id' else made .assignPat [id', default]]
    else mk .shorthandPat sp [id, default]
  | mk (.exportSpecifier t) sp [id, exported] =>
    if id.isRenamed changes && exported.isNone then
      mk (.exportSpecifier t) sp [id.withNewName changes, id.asName]
    else mk (.exportSpecifier t) sp [id.withNewName changes, exported]
  | mk (.importNamed t) sp [id, imported] =>
    if id.isRenamed changes && imported.isNone then
      mk (.importNamed t) sp [id.withNewName changes, id.asName]
    else mk (.importNamed t) sp [id.withNewName changes, imported]
  | mk form sp cs => mk form sp (renameVarsAll changes cs)
/-- Gives the identifiers in nodes their new names. -/
def renameVarsAll (changes : List (VarId × String)) : List Node → List Node
  | [] => []
  | c :: cs => c.renameVars changes :: renameVarsAll changes cs
/-- Gives the identifiers in the properties of an object literal their new names. -/
def renameProps (changes : List (VarId × String)) : List Node → List Node
  | [] => []
  | c :: cs =>
    (if c.isRenamed changes then mk .keyValue c.span [c.asName, c.withNewName changes]
      else c.renameVars changes) :: renameProps changes cs
end

/-- An exported declaration, with an export of its own for names that changed. -/
def exportRenamed (changes : List (VarId × String)) (item : Node) : List Node :=
  match item with
  | mk .exportDecl _ [decl] =>
    let names : List Node := match decl.form with
      | .fnDecl _ | .classDecl _ => [decl.child 0]
      | .varDecl .. => decl.children.flatMap fun (d : Node) => (d.child 0).boundIdents
      | _ => []
    if names.any (isRenamed changes) then
      let specs := names.map fun id =>
        made (.exportSpecifier false)
          [id.withNewName changes, if id.isRenamed changes then id.asName else none]
      [decl.renameVars changes, made (.exportNamed false) [ofList specs, none, none]]
    else [item.renameVars changes]
  | item => [item.renameVars changes]

/-- The module with names that tell its variables apart. -/
def withDistinctNames (module : Node) : Node :=
  let changes := (module.names true .value {}).scope.changes
  if changes.isEmpty then module
  else module.withChildren (module.children.flatMap (exportRenamed changes))

end Node

end ScriptHost
