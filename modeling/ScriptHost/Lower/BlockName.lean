import ScriptHost.Lower.Basic
import ScriptHost.Source.SourceFile
/-!
# Names of blocks

A variable of a block becomes one of the whole function. Where a function uses
a name that it declares twice, once inside of the scope of the other, the
variables of blocks among them get another name.

- `ScopedVar`: a variable with the scope that declares it.
- `Node.withBlockNames`: the module with such variables renamed.
-/

namespace ScriptHost

/-- A variable that a function declares. -/
structure ScopedVar where
  id : VarId
  /-- Where the scope that declares it is in the function, innermost first. -/
  scope : List Nat
  /-- Whether it belongs to a block. -/
  ofBlock : Bool
deriving BEq, Repr

namespace ScopedVar

/-- Whether one of two variables of a name is declared inside of the scope of the other. -/
def meets (a b : ScopedVar) : Bool :=
  a.id.1 == b.id.1 && a.scope != b.scope
    && (a.scope.isSuffixOf b.scope || b.scope.isSuffixOf a.scope)

/-- Whether the variable is one that a pass has made; these are told apart later on. -/
def isMade (v : ScopedVar) : Bool := Path.startsWith "_" v.id.1

/-- The variables of blocks that get another name, given the variables that a function uses. -/
def renamed (vars : List ScopedVar) (used : List VarId) : List VarId :=
  let clashes := vars.filter fun v =>
    v.ofBlock && !v.isMade && vars.any fun w => v.meets w && (used.contains v.id || used.contains w.id)
  clashes.map (·.id)

end ScopedVar

namespace Node

/-- The variables that patterns bind. -/
def boundIds (patterns : List Node) : List VarId :=
  patterns.flatMap fun p => p.boundIdents.filterMap identId?

/-- Whether a node opens a scope for the variables of a block. -/
def opensScope (n : Node) : Bool :=
  n.form matches .block | .forStmt | .forIn | .forOf _ | .switch | .catchClause

mutual
/-- The variables that a part of a function declares, which is found at `here` in the function, in
the given scope. -/
def scopedVars (here scope : List Nat) : Node → List ScopedVar
  | mk (.varDecl kind _) _ decls =>
    let ids := boundIds (decls.map fun (d : Node) => d.child 0)
    if kind == .var then ids.map fun id => ⟨id, [], false⟩
    else ids.map fun id => ⟨id, scope, true⟩
  | mk (.fnDecl _) _ (name :: _) => (boundIds [name]).map fun id => ⟨id, scope, false⟩
  | mk (.func ..) _ _ | mk (.classBody _) _ _ => []
  | mk .catchClause _ [pattern, mk .block _ stmts] =>
    (boundIds [pattern]).map (⟨·, here, false⟩) ++ scopedVarsAll here here 0 stmts
  | mk form sp cs =>
    scopedVarsAll here (if (mk form sp []).opensScope then here else scope) 0 cs
/-- The variables that parts of a function declare, from the one with the given number on. -/
def scopedVarsAll (here scope : List Nat) (i : Nat) : List Node → List ScopedVar
  | [] => []
  | c :: cs => scopedVars (i :: here) scope c ++ scopedVarsAll here scope (i + 1) cs
end

mutual
/-- The variables that the code of a function uses itself. -/
def usedIds : Node → List VarId
  | mk (.ident name scope _) _ _ => [(name, scope)]
  | mk (.func ..) _ _ | mk (.classBody _) _ _ => []
  | mk (.fnDecl _) _ _ => []
  | mk .fnExpr _ _ => []
  | mk (.declarator _) _ [mk (.ident ..) _ _, init] => init.usedIds
  | mk .param _ [_, mk (.ident ..) _ _] => []
  | mk .catchClause _ [mk (.ident ..) _ _, body] => body.usedIds
  | mk _ _ cs => usedIdsAll cs
/-- The variables that parts of a function use. -/
def usedIdsAll : List Node → List VarId
  | [] => []
  | c :: cs => c.usedIds ++ usedIdsAll cs
end

/-- The variables of blocks of a function that get another name, or those of a module. -/
def renamedIn (n : Node) : List VarId :=
  match n with
  | mk (.func ..) _ [_, params, mk .block _ stmts, _, _] =>
    let own := (boundIds (params.items.map fun p => p.child 1)).map (⟨·, [], false⟩)
    ScopedVar.renamed (own ++ scopedVarsAll [] [] 0 stmts)
      (params.usedIds ++ usedIdsAll stmts)
  | mk (.module _) _ items => ScopedVar.renamed (scopedVarsAll [] [] 0 items) (usedIdsAll items)
  | _ => []

/-- The module in which variables of blocks have other names where two of them meet. -/
def withBlockNames (module : Node) : Node :=
  let ids := module.collect renamedIn
  if ids.isEmpty then module
  else module.rewrite fun n =>
    match n with
    | mk (.ident name scope o) sp cs =>
      if ids.contains (name, scope) then mk (.ident ("_$" ++ name) scope o) sp cs else n
    | n => n

end Node

end ScriptHost
