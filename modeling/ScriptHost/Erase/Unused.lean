import ScriptHost.Erase.Types
import ScriptHost.Scope.Resolve
/-!
# Imports that only types use

An import is left out of the output unless a value of its name is used, and an
export unless its name is more than a type.

- `Usage`: the variables that a module reads, and its types.
- `Node.withoutUnused`: the module without what only types use.
-/

namespace ScriptHost

/-- What the names of a module are used for. -/
structure Usage where
  /-- The variables that the module reads. -/
  values : List VarId
  /-- The types that the module declares at its top and that are no variables. -/
  pureTypes : List VarId

namespace Node

mutual
/-- The variables that a node in a role reads or writes. -/
def usedVars (role : Role) : Node → List VarId
  | mk (.ident name scope _) _ _ =>
    if role matches .value | .body | .target then [(name, scope)] else []
  | mk (.interfaceDecl _) _ _ | mk (.typeAlias _) _ _ => []
  | mk (.exportNamed isTypeOnly) _ [specs, source, _] =>
    if isTypeOnly || source.isSome then [] else specs.usedVars .target
  | mk (.exportSpecifier true) _ _ => []
  | mk (.importEquals _ true) _ _ => []
  | mk (.importEquals false false) _ _ => []
  | mk form _ cs => if role == .type then [] else usedVarsFrom form role 0 cs
/-- The variables that the parts of a node read or write from the one with the given number on. -/
def usedVarsFrom (form : Form) (own : Role) (i : Nat) : List Node → List VarId
  | [] => []
  | c :: cs => c.usedVars (form.childRole own i) ++ usedVarsFrom form own (i + 1) cs
end

/-- The variable that an `import` of the older kind makes another name for a part of. -/
def aliasedVar : Node → List VarId
  | mk .qualified _ [left, _] => left.aliasedVar
  | n => n.identId?.toList

/-- What an `import` of the older kind that is no export declares, and what that stands for. -/
def aliases (item : Node) : List (VarId × VarId) :=
  match item with
  | mk (.importEquals false false) _ [name, target] =>
    name.identId?.toList.flatMap fun id => target.aliasedVar.map fun of => (id, of)
  | _ => []

/-- Variables with those that used ones are other names for, at most `fuel` steps away. -/
def throughAliases (aliases : List (VarId × VarId)) : Nat → List VarId → List VarId
  | 0, used => used
  | fuel + 1, used =>
    let more := aliases.filterMap fun (id, of) => if used.contains id then some of else Option.none
    throughAliases aliases fuel (used ++ more.filter fun id => !used.contains id)

/-- The variables that items next to each other read or write. -/
def usedByItems (items : List Node) : List VarId :=
  let aliases := items.flatMap aliases
  throughAliases aliases aliases.length (usedVarsFrom .moduleBlock .value 0 items)

/-- The variables that a statement declares, where it declares more than a type. -/
def declaredValues (item : Node) : List String :=
  if item.isConcrete then item.blockNames ++ item.varNames else []

/-- What the names of a module with its names bound are used for. -/
def usage (module : Node) : Usage :=
  let items := module.children
  let values := items.flatMap declaredValues
  let types := (items.flatMap fun item => if item.isConcrete then [] else
    item.blockTypes ++ item.blockNames).filter fun name => !values.contains name
  ⟨usedByItems items, types.map fun name => (name, Scope.top)⟩

end Node

namespace Usage

/-- Whether the variable that an import declares is used. -/
def uses (u : Usage) (local_ : Node) : Bool :=
  (local_.identId?.map u.values.contains).getD false

/-- Whether an identifier names nothing but a type. -/
def isPureType (u : Usage) (n : Node) : Bool :=
  (n.identId?.map u.pureTypes.contains).getD false

/-- Whether a part of an import stays. -/
def keepsImport (u : Usage) (spec : Node) : Bool :=
  !(spec.form matches .importNamed true) && u.uses (spec.child 0)

/-- Whether a part of an export stays. -/
def keepsExport (u : Usage) (hasSource : Bool) (spec : Node) : Bool :=
  match spec with
  | .mk (.exportSpecifier isTypeOnly) _ (name :: _) =>
    !isTypeOnly && (hasSource || !u.isPureType name)
  | _ => true

/-- What stays of an item of a module. -/
def keep (u : Usage) (item : Node) : List Node :=
  match item with
  | .mk (.importDecl isTypeOnly) sp [specs, source, attributes] =>
    if isTypeOnly then []
    else if specs.items.isEmpty then [item]
    else
      let kept := specs.items.filter u.keepsImport
      if kept.isEmpty then []
      else [.mk (.importDecl false) sp [specs.withChildren kept, source, attributes]]
  | .mk (.exportNamed isTypeOnly) sp [specs, source, attributes] =>
    if isTypeOnly then []
    else if specs.items.isEmpty then [item]
    else
      let kept := specs.items.filter (u.keepsExport source.isSome)
      if kept.isEmpty then []
      else [.mk (.exportNamed false) sp [specs.withChildren kept, source, attributes]]
  | .mk .exportDefault _ [e] => if u.isPureType e then [] else [item]
  | .mk (.exportAll isTypeOnly) _ _ => if isTypeOnly then [] else [item]
  | .mk (.importEquals isExport isTypeOnly) _ (name :: _) =>
    if isTypeOnly || !(isExport || u.uses name) then [] else [item]
  | _ => [item]

end Usage

namespace Node

/-- Whether an item of a namespace is an `import` of the older kind that no other item uses. -/
def isIdleAlias (used : List VarId) (item : Node) : Bool :=
  match item with
  | mk (.importEquals false _) _ (name :: _) => !(name.identId?.map used.contains).getD false
  | _ => false

mutual
/-- A namespace, or an exported one, without what its items import and do not use. -/
def withoutIdleAliases : Node → Node
  | mk (.moduleDecl d g) sp cs => mk (.moduleDecl d g) sp (withoutIdleAliasesAll cs)
  | mk (.nestedNamespace d g) sp cs => mk (.nestedNamespace d g) sp (withoutIdleAliasesAll cs)
  | mk .exportDecl sp [mk (.moduleDecl d g) dsp cs] =>
    mk .exportDecl sp [mk (.moduleDecl d g) dsp (withoutIdleAliasesAll cs)]
  | mk .moduleBlock sp items =>
    let used := usedByItems items
    mk .moduleBlock sp ((withoutIdleAliasesAll items).filter fun item => !item.isIdleAlias used)
  | n => n
/-- Nodes whose namespaces are without what their items import and do not use. -/
def withoutIdleAliasesAll : List Node → List Node
  | [] => []
  | c :: cs => c.withoutIdleAliases :: withoutIdleAliasesAll cs
end

/-- The module without imports and exports that only types use. -/
def withoutUnused (module : Node) : Node :=
  let u := module.usage
  module.withChildren (withoutIdleAliasesAll (module.children.flatMap u.keep))

end Node

end ScriptHost
