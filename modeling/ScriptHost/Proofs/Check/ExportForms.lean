import ScriptHost.Proofs.Check.Imports
import ScriptHost.Proofs.Source.Declared
/-!
# In which forms names are exported

A module exports a name by declaring it, by listing it, as its default, or as
another name for a member of a namespace. It is told from each item alone what
this item exports, and the last of these forms is passed over: such a name is
missed, and whoever imports it gets an error, unless the module is open or
exports the name in another form too.

- `ExportForm`, `Node.ExportsBy`: an item exports a name in a form.
- `Program.ExportsBy`: a file does so, by its own items or by those of files that it forwards.
- `Program.Offers`: a file is known to export a name.
- `Program.load_knowsExports`: which names are found, and which imports of them are errors.
-/

namespace ScriptHost

/-! ## One item -/

/-- The forms in which an item exports a name. -/
inductive ExportForm where
  /-- The name is declared. -/
  | declared
  /-- The name is listed in braces, or stands for all that another module exports. -/
  | listed
  /-- The item is a default export. -/
  | default
  /-- The name is another one for a member of a namespace: `export import a = b.c`. -/
  | aliased
deriving DecidableEq

/-- Whether a name is found that is exported in the form. An alias never is, and a declaration
cannot be that of the default export, whose name is a reserved word. -/
def ExportForm.isFound (name : String) : ExportForm → Bool
  | .aliased => false
  | .declared => name != "default"
  | .listed | .default => true

theorem ExportForm.isFound_eq_false_iff {form : ExportForm} {name : String} :
    form.isFound name = false ↔ form = .aliased ∨ form = .declared ∧ name = "default" := by
  cases form <;> simp [isFound]

namespace Node

/-- The part of a specifier that says under which name it exports: the name that it gives, or else
the one that it starts with. -/
inductive NamedBy (specifier : Node) : Node → Prop where
  | renamed {isTypeOnly : Bool} (hform : specifier.form = .exportSpecifier isTypeOnly)
    (hgiven : (specifier.child 1).isSome = true) : NamedBy specifier (specifier.child 1)
  | kept {isTypeOnly : Bool} (hform : specifier.form = .exportSpecifier isTypeOnly)
    (hgiven : (specifier.child 1).isSome = false) : NamedBy specifier (specifier.child 0)
  | whole (hform : ∀ isTypeOnly, specifier.form ≠ .exportSpecifier isTypeOnly) :
    NamedBy specifier (specifier.child 0)

/-- An item exports a name in a form. -/
inductive ExportsBy (item : Node) : ExportForm → String → Prop where
  | declared {name : String} (hform : item.form = .exportDecl)
    (hdecl : (item.child 0).Declares name) : ExportsBy item .declared name
  | listed {isTypeOnly : Bool} (hform : item.form = .exportNamed isTypeOnly)
    {specifier part : Node} (hmem : specifier ∈ (item.child 0).items)
    (hpart : specifier.NamedBy part) : ExportsBy item .listed (part.nameText?.getD "")
  | default (hform : item.form = .exportDefaultDecl ∨ item.form = .exportDefault) :
    ExportsBy item .default "default"
  | aliased {name : String} {isTypeOnly : Bool} (hform : item.form = .importEquals true isTypeOnly)
    (hname : (item.child 0).identName? = some name) : ExportsBy item .aliased name

/-- An item that exports a name makes its file a module. -/
theorem ExportsBy.isModuleItem {item : Node} {form : ExportForm} {name : String}
    (h : item.ExportsBy form name) : item.isModuleItem = true := by
  rw [Node.isModuleItem]
  cases h with
  | declared hform _ | listed hform _ _ | aliased hform _ => rw [hform]
  | default hform => rcases hform with hform | hform <;> rw [hform]

theorem exportedName_eq_iff {specifier : Node} {name : String} :
    specifier.exportedName = name ↔
      ∃ part, specifier.NamedBy part ∧ part.nameText?.getD "" = name := by
  unfold exportedName
  split
  · next isTypeOnly hform =>
    split
    · next hgiven =>
      constructor
      · exact fun hname => ⟨_, .renamed hform hgiven, hname⟩
      · rintro ⟨part, ⟨-, -⟩ | ⟨-, hnone⟩ | hother, hname⟩
        · exact hname
        · simp [hgiven] at hnone
        · exact absurd hform (hother isTypeOnly)
    · next hgiven =>
      rw [Bool.not_eq_true] at hgiven
      constructor
      · exact fun hname => ⟨_, .kept hform hgiven, hname⟩
      · rintro ⟨part, ⟨-, hsome⟩ | ⟨-, -⟩ | hother, hname⟩
        · simp [hgiven] at hsome
        · exact hname
        · exact hname
  · next hother =>
    constructor
    · exact fun hname => ⟨_, .whole hother, hname⟩
    · rintro ⟨part, ⟨hform, -⟩ | ⟨hform, -⟩ | -, hname⟩
      · exact absurd hform (hother _)
      · exact hname
      · exact hname

end Node

namespace Exports

variable {name : String}

/-- A name is among the exports. -/
def Contains (e : Exports) (name : String) : Prop :=
  if name = "default" then e.hasDefault = true else name ∈ e.names

theorem not_contains_unnamed {isOpen : Bool} :
    ¬ ({ isOpen := isOpen } : Exports).Contains name := by
  unfold Contains
  split <;> simp

theorem contains_default : ({ hasDefault := true } : Exports).Contains name ↔ name = "default" := by
  unfold Contains
  split <;> simp_all

theorem contains_append {a b : Exports} :
    (a.append b).Contains name ↔ a.Contains name ∨ b.Contains name := by
  unfold Contains
  split <;> simp [append]

theorem contains_addName {added : String} :
    (({} : Exports).addName added).Contains name ↔ name = added := by
  unfold addName
  by_cases hadded : added = "default"
  · rw [if_pos (beq_iff_eq.2 hadded), hadded]
    by_cases hname : name = "default" <;> simp [Contains, hname]
  · rw [if_neg (mt beq_iff_eq.1 hadded)]
    by_cases hname : name = "default"
    · simp [Contains, hname, Ne.symm hadded]
    · simp [Contains, hname]

theorem contains_foldl_addName {names : List String} :
    (names.foldl addName {}).Contains name ↔ name ∈ names := by
  induction names with
  | nil => exact iff_of_false not_contains_unnamed List.not_mem_nil
  | cons added names ih =>
    rw [List.foldl_cons, foldl_addName, contains_append, ih, contains_addName, List.mem_cons]

/-- **What one item exports by itself**: the names that it exports in forms that are found. -/
theorem contains_addItem {item : Node} :
    (({} : Exports).addItem item).Contains name ↔
      ∃ form : ExportForm, form.isFound name = true ∧ item.ExportsBy form name := by
  constructor
  · intro h
    unfold addItem at h
    split at h
    case h_1 hform =>
      unfold Contains at h
      split at h
      · cases h
      · next hname =>
        have hdecl := Node.mem_declaredNames_iff.1 h
        exact ⟨.declared, bne_iff_ne.2 hname, .declared hform hdecl⟩
    case h_2 hform =>
      obtain ⟨specifier, hmem, hname⟩ := List.mem_map.1 (contains_foldl_addName.1 h)
      obtain ⟨part, hpart, rfl⟩ := Node.exportedName_eq_iff.1 hname
      exact ⟨.listed, rfl, .listed hform hmem hpart⟩
    case h_3 hform =>
      obtain rfl := contains_default.1 h
      exact ⟨.default, rfl, .default (.inl hform)⟩
    case h_4 hform =>
      obtain rfl := contains_default.1 h
      exact ⟨.default, rfl, .default (.inr hform)⟩
    -- what opens the module, and what exports nothing, names nothing
    case h_5 => exact absurd h not_contains_unnamed
    case h_6 => exact absurd h not_contains_unnamed
  · rintro ⟨form, hfound, hexports⟩
    unfold addItem
    cases hexports with
    | declared hform hdecl =>
      rw [hform, Contains, if_neg (bne_iff_ne.1 hfound)]
      exact Node.mem_declaredNames_iff.2 hdecl
    | listed hform hmem hpart =>
      rw [hform]
      refine contains_foldl_addName.2 (List.mem_map.2 ⟨_, hmem, ?_⟩)
      exact Node.exportedName_eq_iff.2 ⟨_, hpart, rfl⟩
    | default hform =>
      rcases hform with hform | hform <;> rw [hform] <;> rfl
    | aliased hform hname => cases hfound

/-- What the items of a file export is what each of them exports. -/
theorem contains_foldl_addItem {e : Exports} {items : List Node} :
    (items.foldl addItem e).Contains name ↔
      e.Contains name ∨ ∃ item ∈ items, (({} : Exports).addItem item).Contains name := by
  induction items generalizing e with
  | nil => simp
  | cons item items ih =>
    rw [List.foldl_cons, ih, addItem_eq_append, contains_append, List.exists_mem_cons_iff, or_assoc]

end Exports

/-- **What a file exports by its own items**: the names that these export in forms that are
found. -/
theorem SourceFile.contains_ownExports {file : SourceFile} {name : String} :
    file.ownExports.Contains name ↔
      ∃ form : ExportForm, form.isFound name = true ∧
        ∃ item ∈ file.items, item.ExportsBy form name := by
  have hitems : file.ownExports.Contains name ↔
      ∃ item ∈ file.items, ∃ form : ExportForm, form.isFound name = true ∧
        item.ExportsBy form name := by
    rw [ownExports, Exports.contains_foldl_addItem, or_iff_right Exports.not_contains_unnamed]
    simp only [Exports.contains_addItem]
  rw [hitems]
  constructor
  · rintro ⟨item, hmem, form, hfound, hexports⟩
    exact ⟨form, hfound, item, hmem, hexports⟩
  · rintro ⟨form, hfound, item, hmem, hexports⟩
    exact ⟨item, hmem, form, hfound, hexports⟩

namespace Program

/-! ## Files -/

/-- A file exports a name in a form: one of its own items does, or, unless this is the name of the
default export, an item of a file that it forwards. -/
def ExportsBy (p : Program) (f : SourceFile) (form : ExportForm) (name : String) : Prop :=
  ∃ g ∈ p.files, p.Forwards f g ∧ (name = "default" → g = f) ∧
    ∃ item ∈ g.items, item.ExportsBy form name

/-- A file may export any name: one that it forwards is a script, exports one value for the whole
module, or exports all of something that is no file. -/
def IsOpen (p : Program) (f : SourceFile) : Prop :=
  ∃ g ∈ p.files, p.Forwards f g ∧ p.IsOpenFile g

/-- A file is known to export a name: it may export any, or it exports this one in a form that is
found. -/
def Offers (p : Program) (f : SourceFile) (name : String) : Prop :=
  p.IsOpen f ∨ ∃ form : ExportForm, form.isFound name = true ∧ p.ExportsBy f form name

variable {p : Program} {f : SourceFile} {name : String}

/-- **What a file exports**, with the files that it forwards: the names that it exports in forms
that are found. -/
theorem Linked.contains_exports (h : p.Linked) (hf : f ∈ p.files) :
    (p.exports f.name).Contains name ↔
      ∃ form : ExportForm, form.isFound name = true ∧ p.ExportsBy f form name := by
  have hexported := h.exported hf
  have hown : (p.exports f.name).Contains name ↔
      ∃ g ∈ p.files, p.Forwards f g ∧ (name = "default" → g = f) ∧
        g.ownExports.Contains name := by
    unfold Exports.Contains
    by_cases hname : name = "default"
    · -- of a default export, only that of the file itself
      simp only [hname, if_true, true_implies, hexported.hasDefault]
      constructor
      · exact fun hdefault => ⟨f, hf, Relation.ReflTransGen.refl, rfl, hdefault⟩
      · rintro ⟨g, -, -, rfl, hdefault⟩
        exact hdefault
    · simp only [hname, if_false, false_implies, true_and, hexported.names]
  rw [hown]
  simp only [SourceFile.contains_ownExports]
  constructor
  · rintro ⟨g, hg, hforwards, hself, form, hfound, hitem⟩
    exact ⟨form, hfound, g, hg, hforwards, hself, hitem⟩
  · rintro ⟨form, hfound, g, hg, hforwards, hself, hitem⟩
    exact ⟨g, hg, hforwards, hself, form, hfound, hitem⟩

/-- **Which members are lacking**: those that the file is not known to export. -/
theorem Linked.lacks_iff (h : p.Linked) {m : TakenMember} :
    p.Lacks m ↔ ∃ f ∈ p.files, f.name = m.target ∧ ¬ p.Offers f m.member.name := by
  have hmissing {f : SourceFile} (hf : f ∈ p.files) :
      (if m.member.name = "default" then f.ownExports.hasDefault = false
        else ∀ g ∈ p.files, p.Forwards f g → m.member.name ∉ g.ownExports.names) ↔
      ¬ (p.exports f.name).Contains m.member.name := by
    have hexported := h.exported hf
    unfold Exports.Contains
    split
    · rw [hexported.hasDefault, Bool.not_eq_true]
    · rw [hexported.names]
      simp only [not_exists, not_and]
  constructor
  · rintro ⟨f, hf, hname, hclosed, hlacking⟩
    refine ⟨f, hf, hname, ?_⟩
    rintro (⟨g, hg, hforwards, hopen⟩ | hfound)
    · exact hclosed g hg hforwards hopen
    · exact (hmissing hf).1 hlacking ((h.contains_exports hf).2 hfound)
  · rintro ⟨f, hf, hname, hoffers⟩
    refine ⟨f, hf, hname, ?_, (hmissing hf).2 ?_⟩
    · exact fun g hg hforwards hopen => hoffers (.inl ⟨g, hg, hforwards, hopen⟩)
    · exact fun hfound => hoffers (.inr ((h.contains_exports hf).1 hfound))

/-- What is known about the exports of the files of a program. -/
structure KnowsExports (p : Program) : Prop where
  /-- A file with an item that exports a name is a module. -/
  isModule : ∀ f ∈ p.files, ∀ item ∈ f.items, ∀ form name, item.ExportsBy form name →
    f.isModule = true
  /-- A name is among the exports of a file, or this may export any name, exactly if the file is
  known to export it. -/
  found : ∀ f ∈ p.files, ∀ name,
    (p.exports f.name).Contains name ∨ (p.exports f.name).isOpen = true ↔ p.Offers f name
  /-- A name is missed exactly if the file may not export any name, and exports this one as an alias
  only, or by a declaration to which the reserved word for a default export gives its name. -/
  missed : ∀ f ∈ p.files, ∀ name, ¬ p.Offers f name ↔ ¬ p.IsOpen f ∧
    ∀ form, p.ExportsBy f form name → form = .aliased ∨ form = .declared ∧ name = "default"
  /-- The errors about members are those about names that the files from which they are taken are
  not known to export. -/
  reports : ∀ file (report : Report), report.isMemberError = true →
    (report ∈ p.checkImports file ↔
      ∃ item ∈ file.items, ∃ specifier ∈ (item.child 0).items, ∃ m,
        p.Takes file item specifier m ∧ m.report file = report ∧
          ∃ f ∈ p.files, f.name = m.target ∧ ¬ p.Offers f m.member.name)

/-- **Exported names are found, but for aliases.** Whatever the files, the roots and the options
are, a name that a file of the loaded program exports in any other form is among its exports, or
the file may export any name, and no import of the name is an error. -/
theorem load_knowsExports (v : VirtualFiles) (options : CompilerOptions) (roots : List String) :
    (load v.host options roots).KnowsExports := by
  have hs : (Setting.mk v.host options roots).host.Settled := v.host_settled
  have hlinked := (loaded_load hs).linked hs
  constructor
  case isModule =>
    intro f hf item hitem form name hexports
    exact List.any_eq_true.2 ⟨item, hitem, hexports.isModuleItem⟩
  case found =>
    intro f hf name
    rw [hlinked.contains_exports hf, (hlinked.exported hf).isOpen, or_comm]
    rfl
  case missed =>
    intro f hf name
    rw [Offers, not_or, not_exists]
    refine and_congr_right fun _ => forall_congr' fun form => ?_
    rw [not_and', ← ExportForm.isFound_eq_false_iff, Bool.not_eq_true]
  case reports =>
    intro file report herror
    have hmem : report ∈ (load v.host options roots).checkImports file ↔
        report ∈ ((load v.host options roots).checkImports file).filter Report.isMemberError := by
      rw [List.mem_filter, and_iff_left herror]
    rw [hmem, hlinked.reportsLacking.mem_iff]
    simp only [hlinked.lacks_iff, and_comm]

/-- A module that exports another name for a member of a namespace, and a file that imports it. -/
def aliasFiles : VirtualFiles :=
  VirtualFiles.ofMaps
    (.ofList [
      ("a.ts", "import { A } from './b';"),
      ("b.ts", "namespace N { export const B = 1 } export import A = N.B;")]) ∅ {}

/-- The program of both files. -/
def aliasProgram : Program := load aliasFiles.host {} ["a.ts"]

/-- Whether an item exports the name as an alias. -/
def exportsAlias (name : String) (item : Node) : Bool :=
  match item.form with
  | .importEquals true _ => (item.child 0).identName? == some name
  | _ => false

theorem exportsBy_of_exportsAlias {item : Node} (h : exportsAlias name item = true) :
    item.ExportsBy .aliased name := by
  unfold exportsAlias at h
  split at h
  · next hform => exact .aliased hform (beq_iff_eq.1 h)
  · cases h

/-- A module that exports a name as an alias is not known to export it, and who imports the name
gets an error. -/
theorem aliasProgram_missed :
    (∃ f ∈ aliasProgram.files, f.isModule = true ∧ aliasProgram.ExportsBy f .aliased "A" ∧
      ¬ (aliasProgram.exports f.name).Contains "A" ∧
        (aliasProgram.exports f.name).isOpen = false) ∧
    ∃ file ∈ aliasProgram.files,
      (aliasProgram.checkImports file).map (·.code) = [.number 2305] := by
  have hfound : aliasProgram.files.any (fun f => f.isModule && f.items.any (exportsAlias "A")
      && !(aliasProgram.exports f.name).names.contains "A"
      && !(aliasProgram.exports f.name).isOpen) = true := by
    decide +kernel
  have hreported : aliasProgram.files.any (fun file => decide
      ((aliasProgram.checkImports file).map (·.code) = [.number 2305])) = true := by
    decide +kernel
  constructor
  · obtain ⟨f, hf, hfacts⟩ := List.any_eq_true.1 hfound
    simp only [Bool.and_eq_true, Bool.not_eq_true', List.any_eq_true] at hfacts
    obtain ⟨⟨⟨hmodule, item, hitem, halias⟩, hnot⟩, hclosed⟩ := hfacts
    have hexports := exportsBy_of_exportsAlias halias
    refine ⟨f, hf, hmodule, ⟨f, hf, .refl, fun _ => rfl, item, hitem, hexports⟩, ?_, hclosed⟩
    simpa [Exports.Contains] using hnot
  · obtain ⟨file, hfile, hcodes⟩ := List.any_eq_true.1 hreported
    exact ⟨file, hfile, of_decide_eq_true hcodes⟩

end Program

end ScriptHost
