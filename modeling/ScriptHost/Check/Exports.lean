import ScriptHost.Program.Basic
/-!
# What modules export

A module exports what it says and what the modules export that it exports all
of. Of some modules it cannot be known what they export; these are open.

- `Exports`: what a module exports.
- `Program.exports`: what a file of a program exports.
-/

namespace ScriptHost

/-- What a module exports. -/
structure Exports where
  names : List String := []
  hasDefault : Bool := false
  /-- Whether the module may export any name. -/
  isOpen : Bool := false
deriving Repr, Inhabited

namespace Exports

/-- The exports of a module about which nothing is known. -/
def unknown : Exports := { isOpen := true }

/-- The exports with one more name. -/
def addName (e : Exports) (name : String) : Exports :=
  if name == "default" then { e with hasDefault := true }
  else { e with names := e.names ++ [name] }

/-- The exports with all named exports of another module. -/
def addAll (e other : Exports) : Exports :=
  { e with names := e.names ++ other.names, isOpen := e.isOpen || other.isOpen }

end Exports

/-- The name under which a specifier exports. -/
def Node.exportedName (specifier : Node) : String :=
  let name := match specifier.form with
    | .exportSpecifier _ =>
      if (specifier.child 1).isSome then specifier.child 1 else specifier.child 0
    | _ => specifier.child 0
  name.nameText?.getD ""

/-- What an item of a module exports by itself. -/
def Exports.addItem (e : Exports) (item : Node) : Exports :=
  match item.form with
  | .exportDecl => { e with names := e.names ++ (item.child 0).declaredNames }
  | .exportNamed _ =>
    ((item.child 0).items.map Node.exportedName).foldl Exports.addName e
  | .exportDefaultDecl | .exportDefault => { e with hasDefault := true }
  | .exportAssign => { e with isOpen := true }
  | _ => e

namespace Exports

/-- Both exports together. -/
def append (a b : Exports) : Exports :=
  ⟨a.names ++ b.names, a.hasDefault || b.hasDefault, a.isOpen || b.isOpen⟩

theorem append_empty (e : Exports) : e.append {} = e := by
  simp [append]

theorem append_assoc (a b c : Exports) : (a.append b).append c = a.append (b.append c) := by
  simp [append, Bool.or_assoc]

/-- What names add does not depend on what is there. -/
theorem foldl_addName (e : Exports) (names : List String) :
    names.foldl addName e = e.append (names.foldl addName {}) := by
  induction names generalizing e with
  | nil => exact e.append_empty.symm
  | cons name names ih =>
    have hone : e.addName name = e.append (({} : Exports).addName name) := by
      by_cases h : name = "default" <;> simp [addName, append, h]
    rw [List.foldl_cons, ih, hone, append_assoc, ← ih, List.foldl_cons]

/-- Names open nothing. -/
theorem isOpen_foldl_addName (e : Exports) (names : List String) :
    (names.foldl addName e).isOpen = e.isOpen := by
  induction names generalizing e with
  | nil => rfl
  | cons name names ih =>
    rw [List.foldl_cons, ih, addName]
    split <;> rfl

/-- Of the items, one that exports one value for the whole module opens it. -/
theorem isOpen_addItem {e : Exports} {item : Node} :
    (e.addItem item).isOpen = true ↔ e.isOpen = true ∨ item.form = .exportAssign := by
  simp only [addItem]
  split <;> simp_all [isOpen_foldl_addName]

/-- What an item adds does not depend on what is there. -/
theorem addItem_eq_append (e : Exports) (item : Node) :
    e.addItem item = e.append (({} : Exports).addItem item) := by
  simp only [addItem]
  split
  case h_2 => exact foldl_addName e _
  all_goals simp [append]

end Exports

/-- A walk over exporting modules: what was found, and the names of files seen. -/
abbrev ExportWalk := Exports × List String

namespace Program

/-- Adds what an item exports; `follow` answers for another file. -/
def addExports (p : Program) (follow : String → List String → ExportWalk) (file : String)
    (walk : ExportWalk) (item : Node) : ExportWalk :=
  let (e, seen) := walk
  match item.form with
  | .exportAll _ =>
    match p.resolved file ((item.child 0).strValue?.getD "") with
    | some (.file target) =>
      let (other, seen) := follow target seen
      (e.addAll other, seen)
    | _ => ({ e with isOpen := true }, seen)
  | _ => (e.addItem item, seen)

/-- What a file exports that is not among those seen, by at most `fuel` steps. -/
def exportsWithin (p : Program) : Nat → String → List String → ExportWalk
  | 0, _, seen => ({}, seen)
  | fuel + 1, name, seen =>
    if seen.contains name then ({}, seen)
    else
      let seen := name :: seen
      match p.file? name with
      | none => (.unknown, seen)
      | some file =>
        if file.isModule then
          file.items.foldl (p.addExports (p.exportsWithin fuel) name) ({}, seen)
        else (.unknown, seen)

/-- What a file exports. -/
def exports (p : Program) (name : String) : Exports :=
  (p.exportsWithin (p.files.length + 2) name []).1

end Program

end ScriptHost
