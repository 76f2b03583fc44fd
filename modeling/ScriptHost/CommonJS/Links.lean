import ScriptHost.Source.SourceFile
/-!
# What a module imports and exports

The declarations that import and export are taken apart into facts that do not
depend on how they were written.

- `Link`: one thing that a module takes from another one.
- `Exported`: a name that a module exports.
- `ModuleLinks`: all that a module imports and exports.
- `ModuleLinks.ofItems`: the facts that the items of a module state.
-/

namespace ScriptHost

/-- One thing that a module takes from another one. -/
inductive Link where
  /-- A variable of the module is what the other module exports under a name. -/
  | named (var : VarId) (exported : String)
  /-- A variable of the module is the default of the other one. -/
  | default (var : VarId)
  /-- A variable of the module is the other module as an object. -/
  | all (var : VarId)
  /-- What the other module exports under a name is exported again. -/
  | reexport (exported name : String) (span : Span)
  /-- The other module is exported as an object. -/
  | reexportAll (name : String) (span : Span)
  /-- All that the other module exports is exported again. -/
  | star
deriving BEq, Repr, Inhabited

namespace Link

/-- Whether the other module has to be kept in a variable. -/
def needsObject : Link → Bool
  | star => false
  | _ => true

/-- Whether the link is about the default of the other module. -/
def isDefault : Link → Bool
  | default _ => true
  | reexport exported .. => exported == "default"
  | _ => false

/-- Whether the link is about something that the other module exports under a name. -/
def isNamed : Link → Bool
  | named .. => true
  | reexport exported .. => exported != "default"
  | _ => false

/-- Whether the link is about the other module as an object. -/
def isAll : Link → Bool
  | all _ | reexportAll .. => true
  | _ => false

end Link

/-- A name that a module exports, where it is exported, and the expression behind it. -/
structure Exported where
  name : String
  span : Span
  value : Node
deriving Inhabited

/-- All that a module imports and exports. -/
structure ModuleLinks where
  /-- The other modules in order, with what is taken from each. -/
  sources : List (String × Node × List Link) := []
  /-- The names that the module exports, with the variables behind them. -/
  exports : List Exported := []
  /-- The variable that keeps the default, where it has no name of its own. -/
  defaultVar : Node := .none
deriving Inhabited

namespace ModuleLinks

/-- Adds what is taken from another module. -/
def addSource (m : ModuleLinks) (source : Node) (links : List Link) : ModuleLinks :=
  let name := source.strValue?.getD ""
  if (m.sources.lookup name).isSome then
    { m with sources := m.sources.map fun (n, s, ls) =>
        if n == name then (n, s, ls ++ links) else (n, s, ls) }
  else { m with sources := m.sources ++ [(name, source, links)] }

/-- Adds an exported name; of two equal names the later one counts. -/
def addExport (m : ModuleLinks) (name : String) (span : Span) (var : Node) : ModuleLinks :=
  { m with exports := m.exports.filter (·.name != name) ++ [⟨name, span, var⟩] }

/-- What a part of an import takes. -/
def ofImport (spec : Node) : Option Link := do
  let var ← (spec.child 0).identId?
  match spec.form with
  | .importDefault => return .default var
  | .importAll => return .all var
  | _ =>
    let exported := (spec.child 1).nameText?.getD var.1
    return if exported == "default" then .default var else .named var exported

/-- What a part of an export from another module takes. -/
def ofReexport (spec : Node) : Option Link := do
  let exported ← (spec.child 0).nameText?
  match spec.form with
  | .exportAs => return .reexportAll exported (spec.child 0).span
  | _ =>
    let name := if (spec.child 1).isNone then spec.child 0 else spec.child 1
    return .reexport exported (name.nameText?.getD exported) name.span

/-- Adds what an item of a module imports and exports. -/
def add (m : ModuleLinks) (item : Node) : ModuleLinks :=
  match item with
  | .mk (.importDecl _) _ (specs :: source :: _) =>
    m.addSource source (specs.items.filterMap ofImport)
  | .mk .exportDecl _ [decl] =>
    let vars := match decl.form with
      | .fnDecl _ | .classDecl _ => [decl.child 0]
      | .varDecl .. => decl.children.flatMap fun (d : Node) => (d.child 0).boundIdents
      | _ => []
    vars.foldl (fun m var => m.addExport (var.identName?.getD "") var.span var) m
  | .mk (.exportNamed _) _ (specs :: source :: _) =>
    if source.isSome then m.addSource source (specs.items.filterMap ofReexport)
    else specs.items.foldl (fun m spec =>
      let var := spec.child 0
      let name := if (spec.child 1).isNone then var else spec.child 1
      m.addExport (name.nameText?.getD "") name.span var) m
  | .mk .exportDefaultDecl sp [decl] =>
    m.addExport "default" sp (if (decl.child 0).isNone then m.defaultVar else decl.child 0)
  | .mk .exportDefault sp _ => m.addExport "default" sp m.defaultVar
  | .mk (.exportAll _) _ (source :: _) => m.addSource source [.star]
  | _ => m

/-- The facts that the items of a module state; `defaultVar` is to keep a default without a name
of its own. -/
def ofItems (defaultVar : Node) (items : List Node) : ModuleLinks :=
  items.foldl add { defaultVar }

end ModuleLinks

end ScriptHost
