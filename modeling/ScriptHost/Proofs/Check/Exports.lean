import Mathlib.Data.Finset.SDiff
import Mathlib.Data.Finset.Card
import Mathlib.Logic.Relation
import ScriptHost.Check.Exports
import ScriptHost.Proofs.Compile.Success
import ScriptHost.Proofs.Program.Complete
/-!
# What a module exports with what it forwards

A file may export all that another one exports, and so on in any circle. The
walk that gathers exports sees each file once: what it brings back from a file
depends on what it saw before, and only its whole answer is a union over files.

- `Program.Forwards`: a file exports all of another one, over any number of files between.
- `Program.Explored`: what a walk over exporting files has found.
- `Program.explored_exportsWithin`: walks find what the files that they enter export.
- `Program.Linked.exported`: what a file exports is what the forwarded files export by themselves.
-/

namespace ScriptHost

/-- What a file exports by its own items. -/
def SourceFile.ownExports (file : SourceFile) : Exports := file.items.foldl Exports.addItem {}

namespace Node

/-- Whether an item exports all of another module. -/
def isStar (item : Node) : Bool :=
  match item.form with
  | .exportAll _ => true
  | _ => false

/-- The specifier of the module all of which an item exports. -/
def starSpecifier (item : Node) : String := (item.child 0).strValue?.getD ""

theorem isStar_iff {item : Node} :
    item.isStar = true ↔ ∃ isTypeOnly, item.form = .exportAll isTypeOnly := by
  rw [isStar]
  split <;> simp_all

end Node

namespace Program

/-! ## Forwarded files -/

/-- The file all of which an item exports. -/
def starTarget? (p : Program) (file : String) (item : Node) : Option String :=
  match p.resolved file item.starSpecifier with
  | some (.file target) => if item.isStar then some target else none
  | _ => none

theorem starTarget?_eq_some_iff {p : Program} {file target : String} {item : Node} :
    p.starTarget? file item = some target ↔
      item.isStar = true ∧ p.resolved file item.starSpecifier = some (.file target) := by
  rw [starTarget?]
  split <;> simp_all

/-- A file exports all of another one. -/
def Stars (p : Program) (f g : SourceFile) : Prop :=
  g ∈ p.files ∧ ∃ item ∈ f.items, p.starTarget? f.name item = some g.name

/-- A file exports all of another one, over any number of files between. -/
def Forwards (p : Program) : SourceFile → SourceFile → Prop := Relation.ReflTransGen p.Stars

/-- An item may export any name: it exports one value for the whole module, or all of something
that is no file. -/
def Opens (p : Program) (file : String) (item : Node) : Prop :=
  item.form = .exportAssign ∨ item.isStar = true ∧ p.starTarget? file item = none

/-- A file by itself may export any name: it is a script, or an item opens it. -/
def IsOpenFile (p : Program) (file : SourceFile) : Prop :=
  file.isModule = false ∨ ∃ item ∈ file.items, p.Opens file.name item

/-- The files that are found by their names and lead to files: all that the walk asks for. -/
structure Linked (p : Program) : Prop where
  file?_name : ∀ file ∈ p.files, p.file? file.name = some file
  targets : ∀ file specifier name, p.resolved file specifier = some (.file name) → p.Has name

variable {p : Program}

/-- The files of a loaded program are found by their names. -/
theorem Loaded.linked {c : Setting} (h : p.Loaded c) (hs : c.host.Settled) : p.Linked where
  file?_name file hfile := by
    have hsetting := h.setting
    subst hsetting
    rw [h.holds.files] at hfile
    obtain ⟨name, hname, rfl⟩ := List.mem_map.1 hfile
    have hcanon : p.host.canonicalName name = name := h.canonicalName_name hs hname
    have hfile? := (h.file?_eq (hcanon.symm ▸ hname : p.host.canonicalName name ∈ _)).1
    rw [show p.setting.host.canonicalName name = name from hcanon] at hfile?
    exact hfile?
  targets file specifier name hresolved := by
    refine h.complete.targets file specifier name ?_
    rw [resolved, Option.join_eq_some_iff] at hresolved
    exact hresolved

/-- Files with one name are one file. -/
theorem Linked.eq_of_name_eq (h : p.Linked) {f g : SourceFile} (hf : f ∈ p.files)
    (hg : g ∈ p.files) (heq : f.name = g.name) : f = g :=
  Option.some.inj ((h.file?_name f hf).symm.trans (heq ▸ h.file?_name g hg))

/-- The file all of which an item exports is a file of the program. -/
theorem Linked.exists_of_starTarget? (h : p.Linked) {file target : String} {item : Node}
    (htarget : p.starTarget? file item = some target) : ∃ g ∈ p.files, g.name = target :=
  h.targets _ _ _ (starTarget?_eq_some_iff.1 htarget).2

/-- Scripts have no items that export. -/
theorem ownExports_of_script {file : SourceFile} (h : file.isModule = false) :
    file.ownExports = {} ∧ ∀ item ∈ file.items, item.isStar = false := by
  have hitem : ∀ item ∈ file.items, item.isModuleItem = false := by
    simpa [SourceFile.isModule] using h
  have key : ∀ items : List Node, (∀ item ∈ items, item.isModuleItem = false) →
      items.foldl Exports.addItem {} = {} := by
    intro items
    induction items with
    | nil => exact fun _ => rfl
    | cons item items ih =>
      intro hitems
      obtain ⟨hone, hrest⟩ := List.forall_mem_cons.1 hitems
      have hnothing : Exports.addItem {} item = {} := by
        rw [Node.isModuleItem] at hone
        rw [Exports.addItem]
        split at hone <;> simp_all
      rw [List.foldl_cons, hnothing, ih hrest]
  refine ⟨key _ hitem, fun item hmem => ?_⟩
  have hone := hitem item hmem
  rw [Node.isModuleItem] at hone
  rw [Node.isStar]
  split <;> simp_all

/-! ## One item -/

section Item

variable {follow : String → List String → ExportWalk} {file target : String} {e : Exports}
  {seen : List String} {item : Node}

/-- An item that exports all of a file adds what is found there, and nothing by itself. -/
theorem addExports_of_target (h : p.starTarget? file item = some target) :
    p.addExports follow file (e, seen) item =
      (e.addAll (follow target seen).1, (follow target seen).2) := by
  obtain ⟨hstar, hresolved⟩ := starTarget?_eq_some_iff.1 h
  obtain ⟨isTypeOnly, hform⟩ := Node.isStar_iff.1 hstar
  rw [Node.starSpecifier] at hresolved
  simp only [addExports, hform, hresolved]

theorem addItem_of_target (h : p.starTarget? file item = some target) :
    e.addItem item = e ∧ ¬ p.Opens file item := by
  obtain ⟨isTypeOnly, hform⟩ := Node.isStar_iff.1 (starTarget?_eq_some_iff.1 h).1
  refine ⟨by rw [Exports.addItem, hform], ?_⟩
  rintro (hassign | ⟨-, hnone⟩)
  · simp [hform] at hassign
  · simp [h] at hnone

/-- Any other item adds what it exports by itself, and the walk sees no further file. -/
theorem addExports_of_none (e : Exports) (seen : List String)
    (h : p.starTarget? file item = none) :
    ∃ isOpen : Bool, (isOpen = true ↔ e.isOpen = true ∨ p.Opens file item) ∧
      p.addExports follow file (e, seen) item = ({ e.addItem item with isOpen }, seen) := by
  by_cases hstar : item.isStar = true
  · obtain ⟨isTypeOnly, hform⟩ := Node.isStar_iff.1 hstar
    refine ⟨true, by simp [Opens, hstar, h], ?_⟩
    rw [starTarget?, Node.starSpecifier] at h
    simp only [addExports, Exports.addItem, hform]
    split at h <;> simp_all
  · refine ⟨(e.addItem item).isOpen, ?_, ?_⟩
    · rw [Exports.isOpen_addItem]
      simp [Opens, hstar]
    · rw [addExports]
      split
      · next hform => exact absurd (Node.isStar_iff.2 ⟨_, hform⟩) hstar
      · rfl

end Item

/-! ## Files that were seen -/

/-- Some file with a property was seen, and not before. -/
def SomeNew (p : Program) (before after : List String) (P : SourceFile → Prop) : Prop :=
  ∃ g ∈ p.files, g.name ∈ after ∧ g.name ∉ before ∧ P g

section SomeNew

variable {before middle after : List String} {P : SourceFile → Prop}

theorem not_someNew_self : ¬ p.SomeNew before before P := by
  rintro ⟨g, -, hafter, hbefore, -⟩
  exact hbefore hafter

/-- What is new after two steps is new after the first or after the second. -/
theorem someNew_iff_or (hbefore : before ⊆ middle) (hafter : middle ⊆ after) :
    p.SomeNew before after P ↔ p.SomeNew before middle P ∨ p.SomeNew middle after P := by
  constructor
  · rintro ⟨g, hg, hmem, hnot, hP⟩
    by_cases hmiddle : g.name ∈ middle
    · exact .inl ⟨g, hg, hmiddle, hnot, hP⟩
    · exact .inr ⟨g, hg, hmem, hmiddle, hP⟩
  · rintro (⟨g, hg, hmem, hnot, hP⟩ | ⟨g, hg, hmem, hnot, hP⟩)
    · exact ⟨g, hg, hafter hmem, hnot, hP⟩
    · exact ⟨g, hg, hmem, fun h => hnot (hbefore h), hP⟩

/-- After one file, this file is the new one. -/
theorem Linked.someNew_cons (h : p.Linked) {f : SourceFile} (hf : f ∈ p.files)
    (hnew : f.name ∉ before) : p.SomeNew before (f.name :: before) P ↔ P f := by
  constructor
  · rintro ⟨g, hg, hmem, hnot, hP⟩
    rcases List.mem_cons.1 hmem with heq | hold
    · exact h.eq_of_name_eq hg hf heq ▸ hP
    · exact absurd hold hnot
  · exact fun hP => ⟨f, hf, List.mem_cons_self, hnew, hP⟩

end SomeNew

/-- How many files were not seen. -/
def unseen (p : Program) (seen : List String) : Nat :=
  ((p.files.map (·.name)).toFinset \ seen.toFinset).card

theorem unseen_le {before after : List String} (h : before ⊆ after) :
    p.unseen after ≤ p.unseen before :=
  Finset.card_le_card <| Finset.sdiff_subset_sdiff le_rfl fun _ hmem =>
    List.mem_toFinset.2 (h (List.mem_toFinset.1 hmem))

/-- With a file that was not seen, fewer are left. -/
theorem unseen_cons_lt {f : SourceFile} {seen : List String} (hf : f ∈ p.files)
    (hnew : f.name ∉ seen) : p.unseen (f.name :: seen) < p.unseen seen := by
  have hmem : f.name ∈ (p.files.map (·.name)).toFinset \ seen.toFinset := by
    rw [Finset.mem_sdiff, List.mem_toFinset, List.mem_toFinset]
    exact ⟨List.mem_map_of_mem hf, hnew⟩
  have hgone : f.name ∉ (p.files.map (·.name)).toFinset \ (f.name :: seen).toFinset := by
    rw [Finset.mem_sdiff, List.mem_toFinset (l := f.name :: seen)]
    exact fun h => h.2 List.mem_cons_self
  refine Finset.card_lt_card (Finset.ssubset_iff_of_subset ?_ |>.2 ⟨f.name, hmem, hgone⟩)
  exact Finset.sdiff_subset_sdiff le_rfl fun _ hmem =>
    List.mem_toFinset.2 (List.mem_cons_of_mem _ (List.mem_toFinset.1 hmem))

theorem unseen_nil_le : p.unseen [] ≤ p.files.length := by
  calc p.unseen [] ≤ (p.files.map (·.name)).toFinset.card := Finset.card_le_card Finset.sdiff_subset
    _ ≤ (p.files.map (·.name)).length := List.toFinset_card_le _
    _ = p.files.length := List.length_map _

/-! ## Walks -/

/-- What a walk has found that has entered a file after it saw some names: it saw files that this
one forwards, and with a file all that this file exports all of. What it brings back is what the
files that it saw first export by themselves. -/
structure Explored (p : Program) (f : SourceFile) (seen : List String) (walk : ExportWalk) :
    Prop where
  grows : seen ⊆ walk.2
  entered : f.name ∈ walk.2
  reached : ∀ g ∈ p.files, g.name ∈ walk.2 → g.name ∉ seen → p.Forwards f g
  closed : ∀ g ∈ p.files, g.name ∈ walk.2 → g.name ∉ seen → ∀ h, p.Stars g h → h.name ∈ walk.2
  names : ∀ name, name ∈ walk.1.names ↔
    p.SomeNew seen walk.2 fun g => name ∈ g.ownExports.names
  isOpen : walk.1.isOpen = true ↔ p.SomeNew seen walk.2 p.IsOpenFile
  hasDefault : f.name ∉ seen → walk.1.hasDefault = f.ownExports.hasDefault

/-- What a walk has found that has entered a module and has taken some of its items. -/
structure Exploring (p : Program) (f : SourceFile) (seen : List String) (done : List Node)
    (walk : ExportWalk) : Prop where
  grows : f.name :: seen ⊆ walk.2
  reached : ∀ g ∈ p.files, g.name ∈ walk.2 → g.name ∉ seen → p.Forwards f g
  closed : ∀ g ∈ p.files, g.name ∈ walk.2 → g.name ∉ f.name :: seen →
    ∀ h, p.Stars g h → h.name ∈ walk.2
  followed : ∀ item ∈ done, ∀ target ∈ p.starTarget? f.name item, target ∈ walk.2
  names : ∀ name, name ∈ walk.1.names ↔ name ∈ (done.foldl Exports.addItem {}).names ∨
    p.SomeNew (f.name :: seen) walk.2 fun g => name ∈ g.ownExports.names
  isOpen : walk.1.isOpen = true ↔ (∃ item ∈ done, p.Opens f.name item) ∨
    p.SomeNew (f.name :: seen) walk.2 p.IsOpenFile
  hasDefault : walk.1.hasDefault = (done.foldl Exports.addItem {}).hasDefault

variable {f : SourceFile} {seen : List String} {done : List Node} {walk : ExportWalk}

/-- A walk that has entered a module has taken none of its items. -/
theorem exploring_nil (h : p.Linked) (hf : f ∈ p.files) (seen : List String) :
    p.Exploring f seen [] ({}, f.name :: seen) where
  grows := List.Subset.refl _
  reached g hg hmem hnew := by
    rcases List.mem_cons.1 hmem with heq | hold
    · exact h.eq_of_name_eq hg hf heq ▸ Relation.ReflTransGen.refl
    · exact absurd hold hnew
  closed g _ hmem hnew := absurd hmem hnew
  followed item hitem := absurd hitem List.not_mem_nil
  names name := by simp [not_someNew_self]
  isOpen := by simp [not_someNew_self]
  hasDefault := rfl

/-- **One item that leads to no file.** -/
theorem Exploring.concat_of_none (hw : p.Exploring f seen done walk)
    {follow : String → List String → ExportWalk} {item : Node}
    (hnone : p.starTarget? f.name item = none) :
    p.Exploring f seen (done ++ [item]) (p.addExports follow f.name walk item) := by
  obtain ⟨e, names⟩ := walk
  obtain ⟨isOpen, hisOpen, heq⟩ := addExports_of_none e names hnone
  rw [heq]
  refine ⟨hw.grows, hw.reached, hw.closed, ?_, ?_, ?_, ?_⟩
  · intro other hother target htarget
    rcases List.mem_append.1 hother with hold | hitem
    · exact hw.followed other hold target htarget
    · rw [List.mem_singleton.1 hitem, hnone] at htarget
      cases htarget
  · intro name
    have hnames := hw.names name
    simp only [List.foldl_append, List.foldl_cons, List.foldl_nil] at hnames ⊢
    rw [Exports.addItem_eq_append, Exports.addItem_eq_append (List.foldl _ _ _)]
    simp only [Exports.append, List.mem_append, hnames, or_right_comm]
  · show isOpen = true ↔ _
    rw [hisOpen, hw.isOpen]
    simp only [List.mem_append, List.mem_singleton, or_and_right, exists_or, exists_eq_left,
      or_right_comm]
  · have hdefault := hw.hasDefault
    simp only [List.foldl_append, List.foldl_cons, List.foldl_nil] at hdefault ⊢
    rw [Exports.addItem_eq_append, Exports.addItem_eq_append (List.foldl _ _ _)]
    simp only [Exports.append, hdefault]

/-- **One item that leads to a file**, after a walk into this file. -/
theorem Exploring.concat_of_target (hw : p.Exploring f seen done walk) {g : SourceFile}
    (hg : g ∈ p.files) {follow : String → List String → ExportWalk} {item : Node}
    (hitem : item ∈ f.items) (htarget : p.starTarget? f.name item = some g.name)
    (hfollow : p.Explored g walk.2 (follow g.name walk.2)) :
    p.Exploring f seen (done ++ [item]) (p.addExports follow f.name walk item) := by
  obtain ⟨e, before⟩ := walk
  rw [addExports_of_target htarget]
  generalize hinner : follow g.name before = inner at hfollow
  obtain ⟨other, after⟩ := inner
  have hstars : p.Stars f g := ⟨hg, item, hitem, htarget⟩
  have hgrows : f.name :: seen ⊆ before := hw.grows
  have hmore : before ⊆ after := hfollow.grows
  have hsplit {P : SourceFile → Prop} := someNew_iff_or (p := p) (P := P) hgrows hmore
  have hown (e : Exports) : e.addItem item = e := (addItem_of_target htarget).1
  have hcloses : ¬ p.Opens f.name item := (addItem_of_target (e := {}) htarget).2
  refine ⟨List.Subset.trans hgrows hmore, ?_, ?_, ?_, ?_, ?_, ?_⟩
  · -- What is new was seen in the walk until here, or in the one into the other file.
    intro k hk hmem hnew
    by_cases hold : k.name ∈ before
    · exact hw.reached k hk hold hnew
    · exact Relation.ReflTransGen.head hstars (hfollow.reached k hk hmem hold)
  · intro k hk hmem hnew l hl
    by_cases hold : k.name ∈ before
    · exact hmore (hw.closed k hk hold hnew l hl)
    · exact hfollow.closed k hk hmem hold l hl
  · intro other hother target hother'
    rcases List.mem_append.1 hother with hold | hlast
    · exact hmore (hw.followed other hold target hother')
    · rw [List.mem_singleton.1 hlast, htarget] at hother'
      cases hother'
      exact hfollow.entered
  · intro name
    have hold := hw.names name
    have hnew := hfollow.names name
    simp only [List.foldl_append, List.foldl_cons, List.foldl_nil, hown, hsplit] at hold hnew ⊢
    simp only [Exports.addAll, List.mem_append, hold, hnew, or_assoc]
  · have hold := hw.isOpen
    have hnew := hfollow.isOpen
    simp only [hsplit] at hold hnew ⊢
    simp only [Exports.addAll, Bool.or_eq_true, hold, hnew, List.mem_append, List.mem_singleton,
      or_and_right, exists_or, exists_eq_left, hcloses, or_false, or_assoc]
  · show e.hasDefault = _
    simpa only [List.foldl_append, List.foldl_cons, List.foldl_nil, hown] using hw.hasDefault

/-- All items of a module, by induction on how many are taken; `follow` walks into other files. -/
theorem Exploring.foldl (h : p.Linked) {follow : String → List String → ExportWalk}
    (hfollow : ∀ g ∈ p.files, ∀ names, f.name :: seen ⊆ names →
      p.Explored g names (follow g.name names))
    (hw : p.Exploring f seen done walk) {items : List Node} (hitems : items ⊆ f.items) :
    p.Exploring f seen (done ++ items) (items.foldl (p.addExports follow f.name) walk) := by
  induction items generalizing done walk with
  | nil => simpa using hw
  | cons item items ih =>
    obtain ⟨hitem, hrest⟩ := List.cons_subset.1 hitems
    have hstep : p.Exploring f seen (done ++ [item]) (p.addExports follow f.name walk item) := by
      cases htarget : p.starTarget? f.name item with
      | none => exact hw.concat_of_none htarget
      | some target =>
        obtain ⟨g, hg, rfl⟩ := h.exists_of_starTarget? htarget
        exact hw.concat_of_target hg hitem htarget (hfollow g hg _ hw.grows)
    simpa using ih hstep hrest

/-- A walk that has taken all items of a module has explored it. -/
theorem Exploring.explored (h : p.Linked) (hf : f ∈ p.files) (hnew : f.name ∉ seen)
    (hmodule : f.isModule = true) (hw : p.Exploring f seen f.items walk) :
    p.Explored f seen walk := by
  obtain ⟨hentered, hseen⟩ := List.cons_subset.1 hw.grows
  have hsplit {P : SourceFile → Prop} : p.SomeNew seen walk.2 P ↔
      P f ∨ p.SomeNew (f.name :: seen) walk.2 P := by
    rw [someNew_iff_or (List.subset_cons_self f.name seen) hw.grows, h.someNew_cons hf hnew]
  refine ⟨hseen, hentered, hw.reached, ?_, ?_, ?_, fun _ => hw.hasDefault⟩
  · intro g hg hmem hnot k hk
    by_cases heq : g.name = f.name
    · obtain ⟨-, item, hitem, htarget⟩ := hk
      rw [h.eq_of_name_eq hg hf heq] at hitem htarget
      exact hw.followed item hitem _ htarget
    · exact hw.closed g hg hmem (by simp [heq, hnot]) k hk
  · intro name
    rw [hsplit]
    exact hw.names name
  · rw [hsplit, hw.isOpen, IsOpenFile, hmodule]
    simp

/-- **Walks find what the files that they enter export**, by induction on how many files they may
still see. -/
theorem explored_exportsWithin (h : p.Linked) {fuel : Nat} (hf : f ∈ p.files)
    (hfuel : p.unseen seen < fuel) : p.Explored f seen (p.exportsWithin fuel f.name seen) := by
  induction fuel generalizing f seen with
  | zero => exact absurd hfuel (Nat.not_lt_zero _)
  | succ fuel ih =>
    rw [exportsWithin]
    by_cases hmem : f.name ∈ seen
    · -- A file that was seen before brings back nothing, and nothing is new.
      rw [if_pos (List.contains_iff_mem.2 hmem)]
      refine ⟨List.Subset.refl _, hmem, fun g _ hg hnot => absurd hg hnot,
        fun g _ hg hnot => absurd hg hnot, ?_, ?_, fun hnot => absurd hmem hnot⟩
      · simp [not_someNew_self]
      · simp [not_someNew_self]
    · rw [if_neg (mt List.contains_iff_mem.1 hmem)]
      simp only [h.file?_name f hf]
      have hnil := exploring_nil h hf seen
      cases hmodule : f.isModule with
      | true =>
        rw [if_pos rfl]
        have hfollow : ∀ g ∈ p.files, ∀ names, f.name :: seen ⊆ names →
            p.Explored g names (p.exportsWithin fuel g.name names) := by
          intro g hg names hnames
          -- This file is seen by now, and every walk inside has one file less to see.
          have hless := unseen_cons_lt hf hmem
          have hle := unseen_le (p := p) hnames
          exact ih hg (by omega)
        exact (hnil.foldl h hfollow (List.Subset.refl f.items)).explored h hf hmem hmodule
      | false =>
        rw [if_neg (by simp)]
        obtain ⟨hown, hstar⟩ := ownExports_of_script hmodule
        refine ⟨List.subset_cons_self _ _, List.mem_cons_self, hnil.reached, ?_, ?_, ?_, ?_⟩
        · rintro g hg hmem hnot k ⟨-, item, hitem, htarget⟩
          rw [h.eq_of_name_eq hg hf (by simpa [hnot] using hmem)] at hitem
          have hleads := (starTarget?_eq_some_iff.1 htarget).1
          simp [hstar item hitem] at hleads
        · intro name
          rw [h.someNew_cons hf hmem, hown]
          rfl
        · rw [h.someNew_cons hf hmem]
          simp [Exports.unknown, IsOpenFile, hmodule]
        · intro _
          rw [hown]
          rfl

/-! ## The whole answer -/

/-- What a file exports, told from the files that it forwards: their own names, whether one of them
may export any name, and of a default export only its own. -/
structure Exported (p : Program) (f : SourceFile) : Prop where
  names : ∀ name, name ∈ (p.exports f.name).names ↔
    ∃ g ∈ p.files, p.Forwards f g ∧ name ∈ g.ownExports.names
  isOpen : (p.exports f.name).isOpen = true ↔ ∃ g ∈ p.files, p.Forwards f g ∧ p.IsOpenFile g
  hasDefault : (p.exports f.name).hasDefault = f.ownExports.hasDefault

/-- A walk that has seen nothing before sees exactly the files that are forwarded. -/
theorem Explored.someNew_iff (hw : p.Explored f [] walk) (hf : f ∈ p.files)
    {P : SourceFile → Prop} :
    p.SomeNew [] walk.2 P ↔ ∃ g ∈ p.files, p.Forwards f g ∧ P g := by
  have hseen : ∀ g, p.Forwards f g → g ∈ p.files ∧ g.name ∈ walk.2 := by
    intro g hg
    induction hg with
    | refl => exact ⟨hf, hw.entered⟩
    | tail _ hstars ih => exact ⟨hstars.1, hw.closed _ ih.1 ih.2 List.not_mem_nil _ hstars⟩
  constructor
  · rintro ⟨g, hg, hmem, hnot, hP⟩
    exact ⟨g, hg, hw.reached g hg hmem hnot, hP⟩
  · rintro ⟨g, hg, hforwards, hP⟩
    exact ⟨g, hg, (hseen g hforwards).2, List.not_mem_nil, hP⟩

/-- **What a file exports** is what the files that it forwards export by themselves. -/
theorem Linked.exported (h : p.Linked) (hf : f ∈ p.files) : p.Exported f := by
  have hfuel := unseen_nil_le (p := p)
  have hw : p.Explored f [] (p.exportsWithin (p.files.length + 2) f.name []) :=
    explored_exportsWithin h hf (by omega)
  refine ⟨fun name => ?_, ?_, hw.hasDefault List.not_mem_nil⟩
  · rw [← hw.someNew_iff hf]
    exact hw.names name
  · rw [← hw.someNew_iff hf]
    exact hw.isOpen

end Program

end ScriptHost
