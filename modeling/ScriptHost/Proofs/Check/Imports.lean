import ScriptHost.Proofs.Check.Exports
/-!
# Which imported members are errors

A member that a file takes from another one is an error exactly if neither the
other file nor any file that it forwards exports it, and none of them is open.

- `Node.Takes`: which member an item takes from another module at one of its specifiers.
- `Program.Takes`: and from which file, if one can import from it.
- `Program.Lacks`: a member is not exported.
- `Program.ReportsLacking`: reports are about the lacking members, one about each.
- `Program.load_checkImports`: what files export, and which members are errors.
-/

namespace ScriptHost

/-- A member that a file takes from another file, with the specifier that leads there. -/
structure TakenMember where
  specifier : String
  target : String
  member : ImportedMember

namespace TakenMember

/-- What is wrong about the member if it is not exported. -/
def error (m : TakenMember) : ImportError :=
  if m.member.name = "default" then .noDefaultExport m.specifier
  else .noExportedMember m.specifier m.member.name

/-- The report about the member if it is not exported. -/
def report (file : SourceFile) (m : TakenMember) : Report :=
  m.error.report file.name m.member.span

end TakenMember

/-- Whether a report is about a member that is not exported. -/
def Report.isMemberError (r : Report) : Bool := r.code == .number 2305 || r.code == .number 1192

/-- The member with the name that is written at a node. -/
def ImportedMember.named (part : Node) : ImportedMember := ⟨part.nameText?.getD "", part.span⟩

namespace Node

/-- At one of its specifiers, an item takes a member from another module. -/
inductive Takes (item specifier : Node) : ImportedMember → Prop where
  /-- `import { a } from "m"` takes `a`. -/
  | kept {isTypeOnly isTypeName : Bool} (hitem : item.form = .importDecl isTypeOnly)
    (hspecifier : specifier.form = .importNamed isTypeName)
    (hname : (specifier.child 1).isSome = false) : Takes item specifier (.named (specifier.child 0))
  /-- `import { a as b } from "m"` takes `a`. -/
  | renamed {isTypeOnly isTypeName : Bool} (hitem : item.form = .importDecl isTypeOnly)
    (hspecifier : specifier.form = .importNamed isTypeName)
    (hname : (specifier.child 1).isSome = true) : Takes item specifier (.named (specifier.child 1))
  /-- `import a from "m"` takes the default export. -/
  | default {isTypeOnly : Bool} (hitem : item.form = .importDecl isTypeOnly)
    (hspecifier : specifier.form = .importDefault) :
    Takes item specifier ⟨"default", (specifier.child 0).span⟩
  /-- `export { a } from "m"` and `export { a as b } from "m"` take `a`. -/
  | passedOn {isTypeOnly isTypeName : Bool} (hitem : item.form = .exportNamed isTypeOnly)
    (hfrom : (item.child 1).isSome = true)
    (hspecifier : specifier.form = .exportSpecifier isTypeName) :
    Takes item specifier (.named (specifier.child 0))

/-- The member that is found for an item at one of its specifiers. -/
def taken? (item specifier : Node) : Option ImportedMember :=
  match item.form with
  | .importDecl _ => ImportedMember.ofImport specifier
  | .exportNamed _ =>
    if (item.child 1).isSome then ImportedMember.ofExport specifier else Option.none
  | _ => Option.none

variable {item specifier : Node} {member : ImportedMember}

/-- **Members are found where they are taken.** -/
theorem taken?_eq_some_iff : item.taken? specifier = some member ↔ item.Takes specifier member := by
  constructor
  · intro h
    unfold taken? at h
    split at h
    · next hitem =>
      unfold ImportedMember.ofImport at h
      split at h
      · next hspecifier =>
        obtain rfl := Option.some.inj h
        split
        · next hname => exact .renamed hitem hspecifier hname
        · next hname => exact .kept hitem hspecifier (Bool.not_eq_true _ ▸ hname)
      · next hspecifier =>
        obtain rfl := Option.some.inj h
        exact .default hitem hspecifier
      · cases h
    · next hitem =>
      split at h
      · next hfrom =>
        unfold ImportedMember.ofExport at h
        split at h
        · next hspecifier =>
          obtain rfl := Option.some.inj h
          exact .passedOn hitem hfrom hspecifier
        · cases h
      · cases h
    · cases h
  · rintro (⟨hitem, hspecifier, hname⟩ | ⟨hitem, hspecifier, hname⟩ | ⟨hitem, hspecifier⟩ |
      ⟨hitem, hfrom, hspecifier⟩)
    · simp only [taken?, hitem, ImportedMember.ofImport, hspecifier, hname]
      rfl
    · simp only [taken?, hitem, ImportedMember.ofImport, hspecifier, hname]
      rfl
    · simp only [taken?, hitem, ImportedMember.ofImport, hspecifier]
    · simp only [taken?, hitem, hfrom, ImportedMember.ofExport, hspecifier]
      rfl

/-- All members of an item are taken at its specifiers, from one module. -/
theorem importedMembers_eq (item : Node) :
    item.importedMembers = .none ∧ (∀ specifier, item.taken? specifier = .none) ∨
      item.importedMembers = some (item.child 1, (item.child 0).items.filterMap item.taken?) := by
  cases hitem : item.form with
  | importDecl isTypeOnly =>
    right
    simp only [importedMembers, hitem]
    congr 3
    funext specifier
    simp only [taken?, hitem]
  | exportNamed isTypeOnly =>
    by_cases hfrom : (item.child 1).isSome = true
    · right
      simp only [importedMembers, hitem, if_pos hfrom]
      congr 3
      funext specifier
      simp only [taken?, hitem, if_pos hfrom]
    · exact .inl ⟨by simp only [importedMembers, hitem, if_neg hfrom],
        fun specifier => by simp only [taken?, hitem, if_neg hfrom]⟩
  | _ => exact .inl ⟨by simp only [importedMembers, hitem],
      fun specifier => by simp only [taken?, hitem]⟩

end Node

namespace Program

/-- At one of its specifiers, an item of a file takes a member from a file that can be imported
from: from a module, a JavaScript file or a declaration file. -/
structure Takes (p : Program) (file : SourceFile) (item specifier : Node) (m : TakenMember) :
    Prop where
  member : item.Takes specifier m.member
  isSpecifier : m.specifier = (item.child 1).strValue?.getD ""
  target : p.resolved file.name m.specifier = some (.file m.target)
  importable : ∀ f ∈ p.files, f.name = m.target →
    f.isModule = true ∨ f.isJavaScript = true ∨ f.isDeclaration = true

/-- The file from which a member is taken does not export it: no file that it forwards is open, and
the file has no default export, or no file that it forwards exports the name. -/
def Lacks (p : Program) (m : TakenMember) : Prop :=
  ∃ f ∈ p.files, f.name = m.target ∧ (∀ g ∈ p.files, p.Forwards f g → ¬ p.IsOpenFile g) ∧
    if m.member.name = "default" then f.ownExports.hasDefault = false
    else ∀ g ∈ p.files, p.Forwards f g → m.member.name ∉ g.ownExports.names

/-- Reports are about the members that a file takes from files where they are lacking: one about
each of them, item by item and specifier by specifier, and no other. -/
def ReportsLacking (p : Program) (file : SourceFile) (reports : List Report) : Prop :=
  ∃ error? : Node → Node → Option Report,
    (∀ item specifier r, error? item specifier = some r ↔
      ∃ m, p.Takes file item specifier m ∧ p.Lacks m ∧ m.report file = r) ∧
    reports = file.items.flatMap fun item => (item.child 0).items.filterMap (error? item)

/-- The member that is found for an item of a file at one of its specifiers. -/
def taken? (p : Program) (file : SourceFile) (item specifier : Node) : Option TakenMember :=
  match p.resolved file.name ((item.child 1).strValue?.getD "") with
  | some (.file target) =>
    if (p.file? target).any fun f => !isImportable f then none
    else (item.taken? specifier).map (.mk ((item.child 1).strValue?.getD "") target)
  | _ => none

open Classical in
/-- The report about a member that is lacking, and nothing about one that is not. -/
noncomputable def memberError? (p : Program) (file : SourceFile) (m : TakenMember) :
    Option Report :=
  if p.Lacks m then some (m.report file) else none

variable {p : Program} {file : SourceFile}

/-- There are reports about a member exactly where it is lacking. -/
theorem ReportsLacking.mem_iff {reports : List Report} (h : p.ReportsLacking file reports)
    {report : Report} : report ∈ reports ↔
      ∃ item ∈ file.items, ∃ specifier ∈ (item.child 0).items, ∃ m,
        p.Takes file item specifier m ∧ p.Lacks m ∧ m.report file = report := by
  obtain ⟨error?, herror, rfl⟩ := h
  simp only [List.mem_flatMap, List.mem_filterMap, herror]

/-- One can import from a file that is found if it is a module, a JavaScript file or a declaration
file. -/
theorem Linked.isImportable_iff (h : p.Linked) {target : String} (htarget : p.Has target) :
    (p.file? target).any (fun f => !isImportable f) = false ↔ ∀ f ∈ p.files, f.name = target →
      f.isModule = true ∨ f.isJavaScript = true ∨ f.isDeclaration = true := by
  obtain ⟨g, hg, rfl⟩ := htarget
  rw [h.file?_name g hg, Option.any_some, Bool.not_eq_false', isImportable, Bool.or_eq_true,
    Bool.or_eq_true, or_assoc]
  constructor
  · intro hholds f hf hname
    rwa [h.eq_of_name_eq hf hg hname]
  · exact fun hholds => hholds g hg rfl

/-- **Members are found where they are taken from files that can be imported from.** -/
theorem Linked.taken?_eq_some_iff (h : p.Linked) {item specifier : Node} {m : TakenMember} :
    p.taken? file item specifier = some m ↔ p.Takes file item specifier m := by
  constructor
  · intro htaken
    unfold taken? at htaken
    split at htaken
    · next target hresolved =>
      split at htaken
      · cases htaken
      · next hnone =>
        obtain ⟨member, hmember, rfl⟩ := Option.map_eq_some_iff.1 htaken
        have htarget : p.Has target := h.targets _ _ _ hresolved
        exact ⟨Node.taken?_eq_some_iff.1 hmember, rfl, hresolved,
          (h.isImportable_iff htarget).1 (Bool.not_eq_true _ ▸ hnone)⟩
    · cases htaken
  · rintro ⟨hmember, hspecifier, hresolved, hholds⟩
    obtain ⟨text, target, member⟩ := m
    dsimp only at hmember hspecifier hresolved hholds
    subst hspecifier
    have hnone := (h.isImportable_iff (h.targets _ _ _ hresolved)).2 hholds
    simp only [taken?, hresolved, hnone, Node.taken?_eq_some_iff.2 hmember, Option.map_some]
    rfl

/-- Nothing is lacking from a file that may export any name. -/
theorem Linked.not_lacks_of_isOpen (h : p.Linked) {m : TakenMember}
    (hopen : (p.exports m.target).isOpen = true) : ¬ p.Lacks m := by
  rintro ⟨f, hf, hname, hclosed, -⟩
  obtain ⟨g, hg, hforwards, hisOpen⟩ := (h.exported hf).isOpen.1 (hname ▸ hopen)
  exact hclosed g hg hforwards hisOpen

/-- What the check of a member finds is whether it is lacking. -/
theorem Linked.checkMember_eq (h : p.Linked) (file : SourceFile) {m : TakenMember}
    (htarget : p.Has m.target) (hopen : (p.exports m.target).isOpen = false) :
    checkMember file m.specifier (p.exports m.target) m.member = p.memberError? file m := by
  obtain ⟨f, hf, hname⟩ := htarget
  have hexported := h.exported hf
  rw [← hname] at hopen ⊢
  have hclosed : ∀ g ∈ p.files, p.Forwards f g → ¬ p.IsOpenFile g := by
    intro g hg hforwards hisOpen
    simp [hexported.isOpen.2 ⟨g, hg, hforwards, hisOpen⟩] at hopen
  have hlacks : p.Lacks m ↔ if m.member.name = "default" then f.ownExports.hasDefault = false
      else m.member.name ∉ (p.exports f.name).names := by
    simp only [hexported.names, not_exists, not_and]
    constructor
    · rintro ⟨f', hf', hname', -, hmissing⟩
      rwa [h.eq_of_name_eq hf' hf (hname'.trans hname.symm)] at hmissing
    · exact fun hmissing => ⟨f, hf, hname, hclosed, hmissing⟩
  rw [checkMember, memberError?, TakenMember.report, TakenMember.error, hexported.hasDefault]
  by_cases hdefault : m.member.name = "default"
  · simp only [hlacks, hdefault, beq_self_eq_true, if_true]
    cases f.ownExports.hasDefault <;> rfl
  · simp only [hlacks, hdefault, beq_iff_eq, if_false, List.contains_iff_mem]
    by_cases hmem : m.member.name ∈ (p.exports f.name).names <;> simp [hmem]

/-- The check of a member reports nothing else. -/
theorem isMemberError_report (m : TakenMember) : (m.report file).isMemberError = true := by
  rw [TakenMember.report, TakenMember.error]
  split <;> rfl

/-- The errors about the members of an item. -/
theorem Linked.checkMembers_eq (h : p.Linked) (item : Node) :
    (p.checkMembers file item).filter Report.isMemberError =
      (item.child 0).items.filterMap fun specifier =>
        (p.taken? file item specifier).bind (p.memberError? file) := by
  unfold checkMembers taken?
  rcases item.importedMembers_eq with ⟨hnone, htaken⟩ | hmembers
  · rw [hnone]
    refine (List.filterMap_eq_nil_iff.2 fun specifier _ => ?_).symm
    rw [htaken]
    split
    · split <;> rfl
    · rfl
  rw [hmembers]
  cases hresolved : p.resolved file.name ((item.child 1).strValue?.getD "") with
  | none => simp [hresolved]
  | some resolution =>
    cases resolution with
    | ambient name => simp [hresolved]
    | file target =>
      simp only [hresolved]
      by_cases hscript : ((p.file? target).any fun f => !isImportable f) = true
      · simp only [if_pos hscript, Option.bind_none, List.filterMap_none]
        rfl
      simp only [if_neg hscript]
      have htarget : p.Has target := h.targets _ _ _ hresolved
      cases hopen : (p.exports target).isOpen with
      | true =>
        refine (List.filterMap_eq_nil_iff.2 fun specifier _ => ?_).symm
        cases item.taken? specifier with
        | none => rfl
        | some member => exact if_neg (h.not_lacks_of_isOpen hopen)
      | false =>
        rw [if_neg Bool.false_ne_true, List.filterMap_filterMap, List.filter_filterMap]
        refine List.filterMap_congr fun specifier _ => ?_
        cases item.taken? specifier with
        | none => rfl
        | some member =>
          have hcheck := h.checkMember_eq file
            (m := ⟨(item.child 1).strValue?.getD "", target, member⟩) htarget hopen
          rw [Option.bind_some, hcheck, Option.map_some, Option.bind_some, memberError?]
          split
          · exact Option.filter_some_pos (isMemberError_report _)
          · rfl

/-- Specifiers that refer to nothing are no errors about members. -/
theorem filter_checkSpecifiers : (p.checkSpecifiers file).filter Report.isMemberError = [] := by
  rw [List.filter_eq_nil_iff]
  intro r hr
  obtain ⟨node, -, heq⟩ := List.mem_filterMap.1 hr
  simp only at heq
  split at heq <;> cases heq
  exact Bool.false_ne_true

/-- **Which imported members are errors.** Of the members that a file takes from files that can be
imported from, each that is lacking is reported once, in the order in which they stand, and no
other. -/
theorem Linked.reportsLacking (h : p.Linked) :
    p.ReportsLacking file ((p.checkImports file).filter Report.isMemberError) := by
  refine ⟨fun item specifier => (p.taken? file item specifier).bind (p.memberError? file),
    fun item specifier r => ?_, ?_⟩
  · simp only [Option.bind_eq_some_iff, h.taken?_eq_some_iff, memberError?,
      Option.ite_none_right_eq_some, Option.some.injEq]
  · rw [checkImports, List.filter_append, filter_checkSpecifiers, List.nil_append,
      List.filter_flatMap]
    exact List.flatMap_congr fun item _ => h.checkMembers_eq item

/-- **What files export, and which members are errors.** Whatever the files, the roots and the
options are, a file of the loaded program exports what the files that it forwards export by
themselves, and of the members that it takes from other files exactly those are reported that are
lacking there. -/
theorem load_checkImports (v : VirtualFiles) (options : CompilerOptions) (roots : List String)
    {file : SourceFile} (hfile : file ∈ (load v.host options roots).files) :
    (load v.host options roots).Exported file ∧
      (load v.host options roots).ReportsLacking file
        (((load v.host options roots).checkImports file).filter Report.isMemberError) := by
  have hs : (Setting.mk v.host options roots).host.Settled := v.host_settled
  have hlinked := (loaded_load hs).linked hs
  exact ⟨hlinked.exported hfile, hlinked.reportsLacking⟩

/-- Two files that export all of each other, one of which imports members of the other and passes
one on. -/
def circularFiles : VirtualFiles :=
  VirtualFiles.ofMaps
    (.ofList [
      ("a.ts", "import { x, y, z } from './b'; export { w as v } from './b';" ++
        "export * from './b'; export const x = 1;"),
      ("b.ts", "export * from './a'; export const y = 2; export default y;")]) ∅ {}

/-- Each of two files that export all of each other exports the names of both and its own default,
and only what neither of them exports is an error, be it imported or passed on. -/
theorem circularFiles_checkImports : ∃ file ∈ (load circularFiles.host {} ["a.ts"]).files,
    ((load circularFiles.host {} ["a.ts"]).Exported file ∧
      (load circularFiles.host {} ["a.ts"]).ReportsLacking file
        (((load circularFiles.host {} ["a.ts"]).checkImports file).filter
          Report.isMemberError)) ∧
    ((load circularFiles.host {} ["a.ts"]).exports file.name).names = ["v", "y", "x"] ∧
    ((load circularFiles.host {} ["a.ts"]).exports file.name).hasDefault = false ∧
    ((load circularFiles.host {} ["a.ts"]).checkImports file).map (·.code) =
      [.number 2305, .number 2305] := by
  have hfound : (load circularFiles.host {} ["a.ts"]).files.head?.any (fun file => decide (
      ((load circularFiles.host {} ["a.ts"]).exports file.name).names = ["v", "y", "x"] ∧
      ((load circularFiles.host {} ["a.ts"]).exports file.name).hasDefault = false ∧
      ((load circularFiles.host {} ["a.ts"]).checkImports file).map (·.code) =
        [.number 2305, .number 2305])) = true := by
    decide +kernel
  obtain ⟨file, hhead, hholds⟩ := (Option.any_eq_true _ _).1 hfound
  have hfile := List.mem_of_mem_head? hhead
  exact ⟨file, hfile, load_checkImports circularFiles {} ["a.ts"] hfile, of_decide_eq_true hholds⟩

end Program

end ScriptHost
