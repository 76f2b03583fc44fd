import ScriptHost.Proofs.Check.Names
/-!
# Names in types

The errors about names are about variables, and a name in a type stands for
none. Types are passed over wherever they stand: as annotations, as arguments
and parameters of types, and in all that is written in them. The list of what an
interface extends or a class implements is a list of types as well, but it is
made of expressions, and these are taken for variables that are read.

- `Form.holdsType`, `Form.holdsBases`: the parts of nodes that are types, and those lists.
- `Node.EntersType`, `Node.EntersBases`: a way through a tree leads into them.
- `Node.inSight_iff`: out of sight are the places in types, and no other.
- `Program.checksReferences`: at which places names are errors.
-/

namespace ScriptHost

/-! ## Parts of nodes -/

namespace Form

/-- Whether a part of a node, by its number, is a type or consists of types: annotations, parameters
and arguments of types, and what stands behind the names of the members of interfaces. -/
def holdsType : Form → Nat → Bool
  | .ident .., _ => true
  | .arrayPat _, i | .objectPat _, i | .restPat, i => i != 0
  | .func .., i => i == 3 || i == 4
  | .arrow .., i => i == 2 || i == 3
  | .classBody _, i => i == 2 || i == 3
  | .classField _, i | .accessorField _, i => i == 3
  | .heritage, i | .interfaceDecl _, i => i == 1
  | .typeAlias _, i | .indexSignature _, i => i != 0
  | .call, i | .new, i | .optCall _, i | .tagged, i => i == 1
  | .asType, i | .satisfies, i | .instantiation, i => i == 1
  | .typeAssertion, i => i == 0
  | .jsxOpening _, i => i == 2
  | .callSig, i | .ctorSig, i | .propSig .., i | .getSig _, i => i != 0
  | .methodSig .., i | .setSig _, i => i != 0 && i != 1
  | .typeAnn, _ | .typeParams, _ | .typeArgs, _ => true
  | _, _ => false

/-- Whether a part of a node, by its number, lists what an interface extends or what a class
implements. -/
def holdsBases : Form → Nat → Bool
  | .interfaceDecl _, i => i == 2
  | .classBody _, i => i == 4
  | _, _ => false

/-- Outside of types, the forms without a line of their own give their parts no role of a type. -/
theorem otherRole_ne_type {own : Role} (hown : own ≠ .type) :
    (if own == .type then Role.type else .value) ≠ .type := by
  rw [if_neg (mt Role.beq_type_iff.1 hown)]
  decide

/-- Outside of types, the parts in the role of a type are those that hold types. -/
theorem childRole_eq_type_iff {form : Form} {own : Role} {i : Nat} (hown : own ≠ .type) :
    form.childRole own i = .type ↔ form.holdsType i = true := by
  cases form
  case varDecl kind _ => cases kind <;> exact iff_of_false Role.noConfusion Bool.false_ne_true
  all_goals first
    | refine iff_of_false ?_ Bool.false_ne_true
      first
      | exact otherRole_ne_type hown
      | exact hown
    | refine iff_of_true ?_ rfl
      rfl
    -- what is left gives each part a role of its own
    | rcases i with _ | _ | _ | _ | _ | i <;> first
      | refine iff_of_true ?_ rfl
        rfl
      | refine iff_of_false ?_ Bool.false_ne_true
        first
        | exact otherRole_ne_type hown
        | exact hown
        | exact keyRole_ne (by decide) (by decide) _
        | exact Role.noConfusion

end Form

namespace Node

/-! ## Ways through a tree -/

/-- The parts that a way through a tree enters, from the top: each with the form of the node that
it is a part of, and its number there. -/
def partsAlong : Node → List Nat → List (Form × Nat)
  | _, [] => []
  | mk form _ parts, i :: path =>
    (form, i) :: match parts[i]? with
      | some part => part.partsAlong path
      | Option.none => []

/-- The way leads into a type, or into a namespace that is only declared. -/
def EntersType (tree : Node) (path : List Nat) : Prop :=
  ∃ e ∈ tree.partsAlong path, e.1.holdsType e.2 = true ∨ e.1.isDeclareNamespace = true

instance (tree : Node) (path : List Nat) : Decidable (tree.EntersType path) :=
  inferInstanceAs (Decidable
    (∃ e ∈ tree.partsAlong path, e.1.holdsType e.2 = true ∨ e.1.isDeclareNamespace = true))

/-- The way leads into a list of what an interface extends or a class implements. -/
def EntersBases (tree : Node) (path : List Nat) : Prop :=
  ∃ e ∈ tree.partsAlong path, e.1.holdsBases e.2 = true

instance (tree : Node) (path : List Nat) : Decidable (tree.EntersBases path) :=
  inferInstanceAs (Decidable (∃ e ∈ tree.partsAlong path, e.1.holdsBases e.2 = true))

theorem partsAlong_cons {form : Form} {span : Span} {parts : List Node} {part : Node} {i : Nat}
    (hpart : parts[i]? = some part) (path : List Nat) :
    (mk form span parts).partsAlong (i :: path) = (form, i) :: part.partsAlong path := by
  rw [partsAlong, hpart]

/-- Nothing in the role of a type is in sight, but for the whole of it. -/
theorem not_inSight_of_type {tree : Node} {path : List Nat} {occ : Occurrence}
    (h : tree.occurrence? .type path = some occ) : ¬ (occ.InSight ∧ occ.role ≠ .type) := by
  rintro ⟨hsight, hrole⟩
  cases path with
  | nil =>
    cases h
    exact hrole rfl
  | cons i path =>
    obtain ⟨form, span, parts⟩ := tree
    obtain ⟨part, -, h⟩ := Option.bind_eq_some_iff.1 h
    obtain ⟨inner, -, rfl⟩ := Option.map_eq_some_iff.1 h
    exact (hsight (form, .type) List.mem_cons_self).2 rfl

/-- **Out of sight are the places in types**, and in namespaces that are only declared, by induction
on the way to the place. -/
theorem inSight_iff {own : Role} {tree : Node} {path : List Nat} {occ : Occurrence}
    (h : tree.occurrence? own path = some occ) (hown : own ≠ .type) :
    occ.InSight ∧ occ.role ≠ .type ↔ ¬ tree.EntersType path := by
  induction path generalizing own tree occ with
  | nil =>
    cases h
    refine iff_of_true ⟨List.forall_mem_nil _, hown⟩ ?_
    rintro ⟨e, hmem, -⟩
    cases hmem
  | cons i path ih =>
    obtain ⟨form, span, parts⟩ := tree
    obtain ⟨part, hpart, h⟩ := Option.bind_eq_some_iff.1 h
    obtain ⟨inner, hinner, rfl⟩ := Option.map_eq_some_iff.1 h
    have hstep : (mk form span parts).EntersType (i :: path) ↔
        (form.holdsType i = true ∨ form.isDeclareNamespace = true) ∨ part.EntersType path := by
      rw [EntersType, partsAlong_cons hpart]
      exact List.exists_mem_cons_iff _ _ _
    have hsight : (inner.within form own).InSight ↔
        form.isDeclareNamespace = false ∧ inner.InSight := by
      refine List.forall_mem_cons.trans (and_congr_left fun _ => ?_)
      exact and_iff_left hown
    have hrole : (inner.within form own).role = inner.role := rfl
    rw [hstep, hsight, hrole, ← Form.childRole_eq_type_iff hown]
    by_cases htype : form.childRole own i = .type
    · -- from the part on, all is a type
      rw [htype] at hinner
      have hhidden := not_inSight_of_type hinner
      exact iff_of_false (fun h => hhidden ⟨h.1.2, h.2⟩) fun hnot => hnot (.inl (.inl htype))
    · rw [and_assoc, ih hinner htype, not_or, not_or, Bool.not_eq_true, and_iff_right htype]

end Node

/-! ## What is reported -/

namespace SourceFile

/-- The tree of a file with its names bound. -/
def bound (file : SourceFile) : Node := file.module.resolve.1

/-- Where a way through a file ends, an identifier reads a variable that the file does not
declare. -/
structure ReadsAt (file : SourceFile) (path : List Nat) (occ : Occurrence) : Prop where
  place : file.bound.occurrence? .value path = some occ
  reads : occ.role.isValue = true
  unbound : occ.node.isUnbound = true

/-- What is read in sight is what is read outside of types. -/
theorem readsUnbound_iff {file : SourceFile} {occ : Occurrence} :
    file.ReadsUnbound occ ↔ ∃ path, file.ReadsAt path occ ∧ ¬ file.bound.EntersType path := by
  constructor
  · rintro ⟨⟨path, hplace⟩, hsight, hreads, hunbound⟩
    have hrole : occ.role ≠ .type := by
      rintro htype
      rw [htype] at hreads
      cases hreads
    have houtside := (Node.inSight_iff hplace (by decide)).1 ⟨hsight, hrole⟩
    exact ⟨path, ⟨hplace, hreads, hunbound⟩, houtside⟩
  · rintro ⟨path, ⟨hplace, hreads, hunbound⟩, houtside⟩
    obtain ⟨hsight, -⟩ := (Node.inSight_iff hplace (by decide)).2 houtside
    exact ⟨⟨path, hplace⟩, hsight, hreads, hunbound⟩

end SourceFile

namespace Program

/-- Some error of a file is about a name. -/
def Reports (p : Program) (file : SourceFile) (name : String) : Prop :=
  ∃ ident : Node, ident.identName? = some name ∧ nameError file ident ∈ p.checkNames file

/-- At which places the names of a file are errors. -/
structure ChecksReferences (p : Program) (file : SourceFile) : Prop where
  /-- The errors are about the identifiers that read undeclared variables outside of types. -/
  reports : ∀ report, report ∈ p.checkNames file ↔
    ∃ path occ name, file.ReadsAt path occ ∧ ¬ file.bound.EntersType path ∧
      occ.node.identName? = some name ∧ p.ambient.declares name = false ∧
        nameError file occ.node = report
  /-- A name that occurs in types only is in no error. -/
  types : ∀ name, (∀ path occ, file.bound.occurrence? .value path = some occ →
    occ.node.identName? = some name → file.bound.EntersType path) → ¬ p.Reports file name
  /-- A name that occurs only in types and in the lists of what is extended or implemented is in an
  error exactly if it is undeclared and occurs in such a list, outside of types. -/
  bases : ∀ name, (∀ path occ, file.bound.occurrence? .value path = some occ →
    occ.node.identName? = some name →
      file.bound.EntersType path ∨ file.bound.EntersBases path) →
    (p.Reports file name ↔ p.ambient.declares name = false ∧
      ∃ path occ, file.ReadsAt path occ ∧ occ.node.identName? = some name ∧
        file.bound.EntersBases path ∧ ¬ file.bound.EntersType path)

variable {p : Program} {file : SourceFile}

/-- A name is in an error exactly if it is undeclared and is read outside of types. -/
theorem reports_iff {name : String} :
    p.Reports file name ↔ p.ambient.declares name = false ∧
      ∃ path occ, file.ReadsAt path occ ∧ occ.node.identName? = some name ∧
        ¬ file.bound.EntersType path := by
  constructor
  · rintro ⟨ident, hname, hmem⟩
    obtain ⟨occ, other, hreads, hother, hnot, hreport⟩ := mem_checkNames_iff_readsUnbound.1 hmem
    obtain rfl := name_eq_of_nameError_eq hother hname hreport
    obtain ⟨path, hreads, houtside⟩ := SourceFile.readsUnbound_iff.1 hreads
    exact ⟨hnot, path, occ, hreads, hother, houtside⟩
  · rintro ⟨hnot, path, occ, hreads, hname, houtside⟩
    have hunbound := SourceFile.readsUnbound_iff.2 ⟨path, hreads, houtside⟩
    exact ⟨occ.node, hname, mem_checkNames_iff_readsUnbound.2 ⟨occ, _, hunbound, hname, hnot, rfl⟩⟩

/-- **Names in types are no errors, but for those of bases.** Whatever a program and a file are, the
errors are about variables that are read outside of types, and a name in a list of what an
interface extends or a class implements is taken for such a variable. -/
theorem checksReferences (p : Program) (file : SourceFile) : p.ChecksReferences file := by
  constructor
  case reports =>
    intro report
    rw [mem_checkNames_iff_readsUnbound]
    simp only [SourceFile.readsUnbound_iff]
    constructor
    · rintro ⟨occ, name, ⟨path, hreads, houtside⟩, hname, hnot, hreport⟩
      exact ⟨path, occ, name, hreads, houtside, hname, hnot, hreport⟩
    · rintro ⟨path, occ, name, hreads, houtside, hname, hnot, hreport⟩
      exact ⟨occ, name, ⟨path, hreads, houtside⟩, hname, hnot, hreport⟩
  case types =>
    intro name honly hreported
    obtain ⟨-, path, occ, hreads, hname, houtside⟩ := reports_iff.1 hreported
    exact houtside (honly path occ hreads.place hname)
  case bases =>
    intro name honly
    rw [reports_iff]
    refine and_congr_right fun _ => exists_congr fun path => exists_congr fun occ =>
      and_congr_right fun hreads => and_congr_right fun hname => ?_
    have hplace := honly path occ hreads.place hname
    exact ⟨fun houtside => ⟨hplace.resolve_left houtside, houtside⟩, And.right⟩

/-- A file with an interface that extends a type which no file declares. -/
def extendingFiles : VirtualFiles :=
  VirtualFiles.ofMaps (.ofList [("a.ts", "interface A extends Iterable<number> {}")]) ∅ {}

/-- The program of the file. -/
def extendingProgram : Program := load extendingFiles.host {} ["a.ts"]

/-- The name of a type that an interface extends is reported as that of a variable. -/
theorem extendingProgram_reported :
    ∃ file ∈ extendingProgram.files,
      (extendingProgram.checkNames file).map (·.message.text) =
        ["Cannot find name 'Iterable'."] ∧
      ∃ path occ, file.ReadsAt path occ ∧ file.bound.EntersBases path ∧
        nameError file occ.node ∈ extendingProgram.checkNames file := by
  have hfacts : (extendingProgram.files.head?.bind fun file =>
      (file.bound.occurrence? .value [0, 2, 0, 0]).map fun occ =>
        (decide ((extendingProgram.checkNames file).map (·.message.text) =
            ["Cannot find name 'Iterable'."])
          && decide (file.bound.EntersBases [0, 2, 0, 0])
          && decide (¬ file.bound.EntersType [0, 2, 0, 0]) && occ.role.isValue
          && occ.node.isUnbound && occ.node.identName? == some "Iterable"
          && !extendingProgram.ambient.declares "Iterable")) = some true := by
    decide +kernel
  obtain ⟨file, hfile, hfacts⟩ := Option.bind_eq_some_iff.1 hfacts
  obtain ⟨occ, hocc, hfacts⟩ := Option.map_eq_some_iff.1 hfacts
  simp only [Bool.and_eq_true, Bool.not_eq_true', decide_eq_true_eq, beq_iff_eq] at hfacts
  obtain ⟨⟨⟨⟨⟨⟨hmessages, hbases⟩, houtside⟩, hvalue⟩, hunbound⟩, hname⟩, hnot⟩ := hfacts
  have hreads : file.ReadsAt [0, 2, 0, 0] occ := ⟨hocc, hvalue, hunbound⟩
  have hsight : file.ReadsUnbound occ := SourceFile.readsUnbound_iff.2 ⟨_, hreads, houtside⟩
  have hreport := mem_checkNames_iff_readsUnbound.2 ⟨occ, _, hsight, hname, hnot, rfl⟩
  exact ⟨file, List.mem_of_mem_head? hfile, hmessages, _, occ, hreads, hbases, hreport⟩

end Program

end ScriptHost
