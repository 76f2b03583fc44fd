import ScriptHost.Program.Diagnostics
import ScriptHost.Proofs.Check.Exports
/-!
# Files under other spellings

A program knows each of its files under one name. Its files and their errors
are asked for by any spelling of that name, and the answers are the same. What
specifiers refer to is recorded under the name alone, so that under another
spelling nothing is found, and exports that are forwarded are missed as well.

- `Program.Loaded.resolved_of_ne`: no specifier is recorded under another spelling.
- `Program.Loaded.exports_of_ne`: what a file exports under another spelling.
- `Program.Spelled`, `Program.load_spelled`: which queries two spellings agree on.
-/

namespace ScriptHost

/-! ## Exports of some items -/

namespace Exports

/-- Exports that differ in the order of their names at most. -/
structure Alike (a b : Exports) : Prop where
  names : ∀ name, name ∈ a.names ↔ name ∈ b.names
  hasDefault : a.hasDefault = b.hasDefault
  isOpen : a.isOpen = b.isOpen

theorem Alike.refl (a : Exports) : a.Alike a := ⟨fun _ => .rfl, rfl, rfl⟩

theorem Alike.symm {a b : Exports} (h : a.Alike b) : b.Alike a :=
  ⟨fun name => (h.names name).symm, h.hasDefault.symm, h.isOpen.symm⟩

theorem alike_comm {a b : Exports} : a.Alike b ↔ b.Alike a := ⟨Alike.symm, Alike.symm⟩

/-- What items add does not depend on what is there. -/
theorem foldl_addItem (e : Exports) (items : List Node) :
    items.foldl addItem e = e.append (items.foldl addItem {}) := by
  induction items generalizing e with
  | nil => exact e.append_empty.symm
  | cons item items ih =>
    rw [List.foldl_cons, ih, addItem_eq_append, append_assoc, ← ih, List.foldl_cons]

end Exports

namespace Program

variable {p : Program} {c : Setting} {f : SourceFile} {path other : String}

/-- Items that lead to no file add what they export by themselves. -/
theorem foldl_addExports_of_none {follow : String → List String → ExportWalk} {file : String}
    {items : List Node} (hnone : ∀ item ∈ items, p.starTarget? file item = none)
    (e : Exports) (seen : List String) :
    ∃ isOpen : Bool,
      (isOpen = true ↔ e.isOpen = true ∨ ∃ item ∈ items, p.Opens file item) ∧
      items.foldl (p.addExports follow file) (e, seen) =
        ({ items.foldl Exports.addItem e with isOpen }, seen) := by
  induction items generalizing e with
  | nil => exact ⟨e.isOpen, by simp, rfl⟩
  | cons item items ih =>
    -- the first item may open the exports, so the others start from exports with any flag
    obtain ⟨hitem, hrest⟩ := List.forall_mem_cons.1 hnone
    obtain ⟨isOpen, hisOpen, hstep⟩ :
        ∃ isOpen : Bool, (isOpen = true ↔ e.isOpen = true ∨ p.Opens file item) ∧
          p.addExports follow file (e, seen) item = ({ e.addItem item with isOpen }, seen) :=
      addExports_of_none e seen hitem
    obtain ⟨isOpen', hisOpen', hrun⟩ := ih hrest { e.addItem item with isOpen }
    refine ⟨isOpen', ?_, ?_⟩
    · rw [hisOpen', hisOpen, List.exists_mem_cons_iff, or_assoc]
    · rw [List.foldl_cons, hstep, hrun, List.foldl_cons, Exports.foldl_addItem,
        Exports.foldl_addItem (e.addItem item)]
      rfl

/-! ## Other spellings -/

namespace Loaded

/-- Under another spelling of its name, a file is found. -/
theorem file?_of_canonicalName (h : p.Loaded c) (hs : c.host.Settled) (hf : f ∈ p.files)
    (hpath : p.host.canonicalName path = f.name) : p.file? path = some f := by
  have hname := (h.linked hs).file?_name f hf
  rw [file?, hpath]
  rwa [file?, h.canonicalName_file hs hf] at hname

/-- Under another spelling of its name, no specifier of a file is recorded. -/
theorem resolved_of_ne (h : p.Loaded c) (hs : c.host.Settled)
    (hne : p.host.canonicalName path ≠ path) (specifier : String) :
    p.resolved path specifier = none := by
  have hsetting := h.setting
  subst hsetting
  cases hrecorded : p.recorded? path specifier with
  | none => rw [resolved, hrecorded, Option.join_none]
  | some answer =>
    exact absurd (h.canonicalName_name hs (h.mem_names_of_recorded hrecorded)) hne

/-- Under another spelling of its name, a file exports what it does by itself, and it may export
any name if it exports all of something. -/
theorem exports_of_ne (h : p.Loaded c) (hs : c.host.Settled) (hf : f ∈ p.files)
    (hpath : p.host.canonicalName path = f.name) (hne : path ≠ f.name) :
    (p.exports path).names = f.ownExports.names ∧
      (p.exports path).hasDefault = f.ownExports.hasDefault ∧
        ((p.exports path).isOpen = true ↔ f.isModule = false ∨
          ∃ item ∈ f.items, item.form = .exportAssign ∨ item.isStar = true) := by
  have hnone : ∀ item, p.starTarget? path item = none := by
    intro item
    rw [starTarget?, h.resolved_of_ne hs (fun heq => hne (heq.symm.trans hpath))]
  have hopens : ∀ item, p.Opens path item ↔ item.form = .exportAssign ∨ item.isStar = true := by
    intro item
    rw [Opens, and_iff_left (hnone item)]
  have hwalk : p.exports path = (if f.isModule then
      f.items.foldl (p.addExports (p.exportsWithin (p.files.length + 1)) path) ({}, [path])
      else (.unknown, [path])).1 := by
    rw [exports, exportsWithin, if_neg (by simp), h.file?_of_canonicalName hs hf hpath]
  cases hmodule : f.isModule with
  | false =>
    rw [hwalk, (ownExports_of_script hmodule).1, hmodule, if_neg Bool.false_ne_true]
    exact ⟨rfl, rfl, by simp [Exports.unknown]⟩
  | true =>
    obtain ⟨isOpen, hisOpen, hrun⟩ :
        ∃ isOpen : Bool, (isOpen = true ↔ ({} : Exports).isOpen = true ∨
            ∃ item ∈ f.items, p.Opens path item) ∧
          f.items.foldl (p.addExports (p.exportsWithin (p.files.length + 1)) path) ({}, [path]) =
            ({ f.items.foldl Exports.addItem {} with isOpen }, [path]) :=
      foldl_addExports_of_none (fun item _ => hnone item) {} [path]
    rw [hwalk, hmodule, if_pos rfl, hrun]
    refine ⟨rfl, rfl, ?_⟩
    rw [hisOpen]
    simp [hopens]

end Loaded

/-! ## Two spellings -/

/-- What a file exports can be told without the files that it forwards: there are none, or one of
them may export any name and none of them adds a name. -/
def TellsExports (p : Program) (f : SourceFile) : Prop :=
  (∀ item ∈ f.items, item.isStar = false) ∨
    (∃ g ∈ p.files, p.Forwards f g ∧ p.IsOpenFile g) ∧
      ∀ g ∈ p.files, p.Forwards f g → g.ownExports.names ⊆ f.ownExports.names

/-- Which queries agree on two spellings of a file. It is the same file, with the same errors. What
its specifiers refer to is the same exactly if both spellings are its name or neither is, or if they
refer to nothing, and what it exports is the same exactly if both are or neither is, or if this can
be told without other files. -/
structure Spelled (p : Program) (f : SourceFile) (path other : String) : Prop where
  file? : p.file? path = some f ∧ p.file? other = some f
  syntaxErrors : p.syntaxErrors (some path) = p.syntaxErrors (some other)
  semanticErrors : p.semanticErrors (some path) = p.semanticErrors (some other)
  resolved : (∀ specifier, p.resolved path specifier = p.resolved other specifier) ↔
    (path = f.name ↔ other = f.name) ∨ ∀ specifier, p.resolved f.name specifier = none
  exports : (p.exports path).Alike (p.exports other) ↔
    (path = f.name ↔ other = f.name) ∨ p.TellsExports f

/-- A file that exports all of no other one forwards none. -/
theorem forwards_iff_of_no_star (hstar : ∀ item ∈ f.items, item.isStar = false) {g : SourceFile} :
    p.Forwards f g ↔ g = f := by
  constructor
  · intro hforwards
    rcases hforwards.cases_head with heq | ⟨next, ⟨-, item, hitem, htarget⟩, -⟩
    · exact heq.symm
    · rw [starTarget?_eq_some_iff, hstar item hitem] at htarget
      cases htarget.1
  · rintro rfl
    exact .refl

/-- A file exports the same under its name and under another spelling exactly if its exports can be
told without other files. -/
theorem Loaded.exports_alike_iff (h : p.Loaded c) (hs : c.host.Settled) (hf : f ∈ p.files)
    (hpath : p.host.canonicalName path = f.name) (hne : path ≠ f.name) :
    (p.exports path).Alike (p.exports f.name) ↔ p.TellsExports f := by
  obtain ⟨hnames, hdefault, hopen⟩ := h.exports_of_ne hs hf hpath hne
  have hexported := (h.linked hs).exported hf
  constructor
  · intro halike
    by_cases hstar : ∀ item ∈ f.items, item.isStar = false
    · exact .inl hstar
    · -- a forwarded module opens the file under the other spelling, so one opens it under its name
      have hopened : (p.exports path).isOpen = true := by
        obtain ⟨item, hitem, hstar⟩ : ∃ item ∈ f.items, item.isStar = true := by simpa using hstar
        exact hopen.2 (.inr ⟨item, hitem, .inr hstar⟩)
      refine .inr ⟨hexported.isOpen.1 (halike.isOpen ▸ hopened), ?_⟩
      intro g hg hforwards name hname
      rw [← hnames, halike.names]
      exact (hexported.names name).2 ⟨g, hg, hforwards, hname⟩
  · intro htells
    refine ⟨fun name => ?_, by rw [hdefault, hexported.hasDefault], ?_⟩
    · rw [hnames, hexported.names]
      constructor
      · exact fun hname => ⟨f, hf, .refl, hname⟩
      · rintro ⟨g, hg, hforwards, hname⟩
        rcases htells with hstar | ⟨-, hsub⟩
        · rwa [(forwards_iff_of_no_star hstar).1 hforwards] at hname
        · exact hsub g hg hforwards hname
    · rw [Bool.eq_iff_iff, hopen, hexported.isOpen]
      by_cases hstar : ∀ item ∈ f.items, item.isStar = false
      · have hown : p.IsOpenFile f ↔ f.isModule = false ∨
            ∃ item ∈ f.items, item.form = .exportAssign ∨ item.isStar = true := by
          refine or_congr_right (exists_congr fun item => and_congr_right fun hitem => ?_)
          simp [Opens, hstar item hitem]
        simp only [← hown, forwards_iff_of_no_star hstar]
        refine ⟨fun hopen => ⟨f, hf, rfl, hopen⟩, ?_⟩
        rintro ⟨_, _, heq, hopen⟩
        exact heq ▸ hopen
      · obtain ⟨item, hitem, hone⟩ : ∃ item ∈ f.items, item.isStar = true := by simpa using hstar
        exact iff_of_true (.inr ⟨item, hitem, .inr hone⟩) (htells.resolve_left hstar).1

/-- Two spellings other than the name of a file agree on what it exports. -/
theorem Loaded.exports_alike_of_ne (h : p.Loaded c) (hs : c.host.Settled) (hf : f ∈ p.files)
    (hpath : p.host.canonicalName path = f.name) (hother : p.host.canonicalName other = f.name)
    (hne : path ≠ f.name) (hne' : other ≠ f.name) :
    (p.exports path).Alike (p.exports other) := by
  obtain ⟨hnames, hdefault, hopen⟩ := h.exports_of_ne hs hf hpath hne
  obtain ⟨hnames', hdefault', hopen'⟩ := h.exports_of_ne hs hf hother hne'
  exact ⟨fun name => by rw [hnames, hnames'], hdefault.trans hdefault'.symm,
    Bool.eq_iff_iff.2 (hopen.trans hopen'.symm)⟩

/-- **What two spellings of a file agree on**, in a loaded program. -/
theorem Loaded.spelled (h : p.Loaded c) (hs : c.host.Settled) (hf : f ∈ p.files)
    (hpath : p.host.canonicalName path = f.name) (hother : p.host.canonicalName other = f.name) :
    p.Spelled f path other := by
  have hchecked : p.checkedFiles (some path) = p.checkedFiles (some other) := by
    rw [checkedFiles, checkedFiles, Option.map_some, Option.map_some, hpath, hother]
  have hmissed {path : String} (hpath : p.host.canonicalName path = f.name) (hne : path ≠ f.name) :
      ∀ specifier, p.resolved path specifier = none :=
    h.resolved_of_ne hs fun heq => hne (heq.symm.trans hpath)
  refine ⟨⟨h.file?_of_canonicalName hs hf hpath, h.file?_of_canonicalName hs hf hother⟩,
    by rw [syntaxErrors, syntaxErrors, hchecked], by rw [semanticErrors, semanticErrors, hchecked],
    ?_, ?_⟩
  · by_cases hname : path = f.name
    · by_cases hname' : other = f.name
      · simp [hname, hname']
      · simp [hname, hname', hmissed hother hname']
    · by_cases hname' : other = f.name
      · simp [hname, hname', hmissed hpath hname, eq_comm]
      · simp [hname, hname', hmissed hpath hname, hmissed hother hname']
  · by_cases hname : path = f.name
    · by_cases hname' : other = f.name
      · simp [hname, hname', Exports.Alike.refl]
      · rw [hname, Exports.alike_comm, h.exports_alike_iff hs hf hother hname']
        simp [hname']
    · by_cases hname' : other = f.name
      · rw [hname', h.exports_alike_iff hs hf hpath hname]
        simp [hname]
      · exact iff_of_true (h.exports_alike_of_ne hs hf hpath hother hname hname')
          (.inl (iff_of_false hname hname'))

/-- **Which queries agree on the spellings of a file**, in any program over two sets of files. -/
theorem load_spelled (v : VirtualFiles) (options : CompilerOptions) (roots : List String)
    (hf : f ∈ (load v.host options roots).files)
    (hpath : v.host.canonicalName path = f.name) (hother : v.host.canonicalName other = f.name) :
    (load v.host options roots).Spelled f path other := by
  have hs : (Setting.mk v.host options roots).host.Settled := v.host_settled
  have hloaded := loaded_load hs
  have hhost : (load v.host options roots).host = v.host := congrArg Setting.host hloaded.setting
  exact hloaded.spelled hs hf (hhost.symm ▸ hpath) (hhost.symm ▸ hother)

/-- A file that exports all of another one. -/
def forwardingFiles : VirtualFiles :=
  VirtualFiles.ofMaps
    (.ofList [("a.ts", "export * from './b';"), ("b.ts", "export const x = 1;")]) ∅ {}

/-- The file has its name in small letters and in capitals. -/
theorem exists_forwardingFile : ∃ file ∈ (load forwardingFiles.host {} ["a.ts"]).files,
    forwardingFiles.host.canonicalName "A.ts" = file.name ∧
      forwardingFiles.host.canonicalName "a.ts" = file.name := by
  decide +kernel

/-- A file that exports all of another one, under its name and in capitals. -/
theorem forwardingFiles_spelled : ∃ file ∈ (load forwardingFiles.host {} ["a.ts"]).files,
    forwardingFiles.host.canonicalName "A.ts" = file.name ∧
      forwardingFiles.host.canonicalName "a.ts" = file.name ∧
        (load forwardingFiles.host {} ["a.ts"]).Spelled file "A.ts" "a.ts" := by
  obtain ⟨file, hfile, hpath, hother⟩ := exists_forwardingFile
  exact ⟨file, hfile, hpath, hother, load_spelled forwardingFiles {} ["a.ts"] hfile hpath hother⟩

/-- In capitals its specifier leads nowhere, and it exports something else. -/
theorem forwardingFiles_differ : ∃ file ∈ (load forwardingFiles.host {} ["a.ts"]).files,
    forwardingFiles.host.canonicalName "A.ts" = file.name ∧
      forwardingFiles.host.canonicalName "a.ts" = file.name ∧
      (load forwardingFiles.host {} ["a.ts"]).resolved "A.ts" "./b" ≠
        (load forwardingFiles.host {} ["a.ts"]).resolved "a.ts" "./b" ∧
      ¬ ((load forwardingFiles.host {} ["a.ts"]).exports "A.ts").Alike
        ((load forwardingFiles.host {} ["a.ts"]).exports "a.ts") := by
  have hresolved : (load forwardingFiles.host {} ["a.ts"]).resolved "A.ts" "./b" ≠
      (load forwardingFiles.host {} ["a.ts"]).resolved "a.ts" "./b" := by
    decide +kernel
  have hopen : ((load forwardingFiles.host {} ["a.ts"]).exports "A.ts").isOpen ≠
      ((load forwardingFiles.host {} ["a.ts"]).exports "a.ts").isOpen := by
    decide +kernel
  obtain ⟨file, hfile, hpath, hother⟩ := exists_forwardingFile
  exact ⟨file, hfile, hpath, hother, hresolved, fun halike => hopen halike.isOpen⟩

end Program

end ScriptHost
