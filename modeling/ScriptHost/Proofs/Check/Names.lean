import ScriptHost.Proofs.Compile.Success
/-!
# Which names are checked

An identifier that nothing declares is an error where it is read. Where it only
stands for a variable, such as at the left of an assignment, it is passed over,
and so is all that stands in a type or in a namespace that is only declared.

- `Occurrence`, `Node.occurrence?`: a node in its role with what is around it.
- `Program.IsUndeclared`: an identifier at a place stands for nothing that is declared.
- `Program.mem_checkNames_iff`: which undeclared identifiers are errors.
- `Compiler.checksNames`: what a compilation says about them.
-/

namespace ScriptHost

/-! ## Places -/

/-- Whether a form is that of a namespace that is only declared. -/
def Form.isDeclareNamespace : Form → Bool
  | .moduleDecl true _ => true
  | _ => false

/-- A place of a tree: the node that stands there, its role, and the forms and roles around it
from the top. -/
structure Occurrence where
  around : List (Form × Role) := []
  role : Role
  node : Node

namespace Occurrence

/-- The same place with one more node around it. -/
def within (form : Form) (own : Role) (occ : Occurrence) : Occurrence :=
  { occ with around := (form, own) :: occ.around }

/-- Neither a type nor a namespace that is only declared is around the place. -/
def InSight (occ : Occurrence) : Prop :=
  ∀ e ∈ occ.around, e.1.isDeclareNamespace = false ∧ e.2 ≠ .type

instance (occ : Occurrence) : Decidable occ.InSight :=
  inferInstanceAs (Decidable (∀ e ∈ occ.around, e.1.isDeclareNamespace = false ∧ e.2 ≠ .type))

end Occurrence

/-- The place to which the numbers of parts lead in a tree that stands in the role `own`. -/
def Node.occurrence? (own : Role) : Node → List Nat → Option Occurrence
  | node, [] => some { role := own, node }
  | mk form _ parts, i :: path =>
    (parts[i]?).bind fun part =>
      (part.occurrence? (form.childRole own i) path).map (.within form own)

/-- Whether an identifier in the role stands for a variable that is declared elsewhere. -/
def Role.refers : Role → Bool
  | .value | .body | .target => true
  | _ => false

theorem Role.beq_type_iff {role : Role} : (role == .type) = true ↔ role = .type := by
  cases role <;> decide

/-! ## Targets -/

namespace Form

/-- Whether a form has a part that is a target: what is assigned to, what a loop runs through, what
another name is given to, what is exported under its name, or the name of an element. -/
def makesTarget : Form → Bool
  | .assign _ | .assignProp | .forIn | .forOf _ | .importEquals .. | .exportNamed _
  | .exportSpecifier _ | .jsxOpening _ | .jsxClosing => true
  | _ => false

/-- A key is a value or only spells a name. -/
theorem keyRole_ne {role : Role} (hvalue : role ≠ .value) (hname : role ≠ .name)
    (isComputed : Bool) : keyRole isComputed ≠ role := by
  cases isComputed with
  | false => exact hname.symm
  | true => exact hvalue.symm

/-- The forms without a line of their own give their parts no role of a target. -/
theorem otherRole_ne_target (own : Role) :
    (if own == .type then Role.type else .value) ≠ .target := by
  cases own <;> decide

/-- A part is a target if its form makes one or if the whole is one. -/
theorem target_of_childRole {form : Form} {own : Role} {i : Nat}
    (h : form.childRole own i = .target) : own = .target ∨ form.makesTarget = true := by
  cases form
  case varDecl kind _ => cases kind <;> exact Role.noConfusion h
  all_goals first
    | exact (otherRole_ne_target own h).elim
    | exact .inl h
    | exact .inr rfl
    -- what is left gives each part a role of its own
    | rcases i with _ | _ | _ | _ | _ | i <;> first
      | exact (otherRole_ne_target own h).elim
      | exact .inl h
      | exact (keyRole_ne (by decide) (by decide) _ h).elim
      | exact Role.noConfusion h

end Form

/-- Around a target stands a form that makes one, unless the whole tree is a target. -/
theorem Node.makesTarget_of_occurrence {own : Role} {tree : Node} {path : List Nat}
    {occ : Occurrence} (h : tree.occurrence? own path = some occ) (htarget : occ.role = .target) :
    own = .target ∨ ∃ e ∈ occ.around, e.1.makesTarget = true := by
  induction path generalizing own tree occ with
  | nil =>
    cases h
    exact .inl htarget
  | cons i path ih =>
    obtain ⟨form, span, parts⟩ := tree
    rw [occurrence?, Option.bind_eq_some_iff] at h
    obtain ⟨part, -, h⟩ := h
    obtain ⟨inner, hinner, rfl⟩ := Option.map_eq_some_iff.1 h
    rcases ih hinner htarget with hpart | ⟨e, he, hmakes⟩
    · rcases Form.target_of_childRole hpart with hown | hform
      · exact .inl hown
      · exact .inr ⟨_, List.mem_cons_self, hform⟩
    · exact .inr ⟨e, List.mem_cons_of_mem _ he, hmakes⟩

namespace Node

/-- Whether the node is an identifier that no scope binds. -/
def isUnbound : Node → Bool
  | mk (.ident _ scope _) _ _ => scope == Scope.unresolved
  | _ => false

/-! ## What the check finds -/

/-- A node itself is found if it reads a variable that no scope binds. -/
theorem mem_unboundHere_iff {role : Role} {node ident : Node} :
    ident ∈ node.unboundHere role ↔
      ident = node ∧ role.isValue = true ∧ node.isUnbound = true := by
  unfold unboundHere isUnbound
  split
  · split
    · next h =>
      rw [Bool.and_eq_true] at h
      rw [List.mem_singleton]
      exact (and_iff_left h).symm
    · next h =>
      refine iff_of_false List.not_mem_nil ?_
      rintro ⟨-, hrest⟩
      exact h (Bool.and_eq_true_iff.2 hrest)
  · simp

/-- Nothing is found in types and in namespaces that are only declared. -/
theorem unboundIn_mk (own : Role) (form : Form) (span : Span) (parts : List Node) :
    (mk form span parts).unboundIn own =
      if form.isDeclareNamespace = true ∨ own = .type then []
      else (mk form span parts).unboundHere own ++ unboundParts form own 0 parts := by
  unfold unboundIn
  split
  · next heq =>
    cases heq
    rfl
  · next hform heq =>
    cases heq
    have hnot : form.isDeclareNamespace = false := by
      unfold Form.isDeclareNamespace
      split
      · next isGlobal => exact absurd rfl (hform isGlobal)
      · rfl
    simp only [hnot, Role.beq_type_iff, Bool.false_eq_true, false_or]

/-- What is found in parts is found in one of them. -/
theorem mem_unboundParts_iff {form : Form} {own : Role} {ident : Node} {i : Nat}
    {parts : List Node} :
    ident ∈ unboundParts form own i parts ↔
      ∃ (j : Nat) (part : Node),
        parts[j]? = some part ∧ ident ∈ part.unboundIn (form.childRole own (i + j)) := by
  induction parts generalizing i with
  | nil => simp [unboundParts]
  | cons part parts ih =>
    rw [unboundParts, List.mem_append, ih]
    have hplace (j : Nat) : i + 1 + j = i + (j + 1) := by omega
    constructor
    · rintro (h | ⟨j, other, hj, h⟩)
      · exact ⟨0, part, rfl, h⟩
      · exact ⟨j + 1, other, hj, hplace j ▸ h⟩
    · rintro ⟨j, other, hj, h⟩
      cases j with
      | zero =>
        cases hj
        exact .inl h
      | succ j => exact .inr ⟨j, other, hj, (hplace j).symm ▸ h⟩

/-- What is found stands at a place in sight and is read there. -/
theorem occurrence_of_mem_unboundIn {ident : Node} :
    ∀ {own : Role} {tree : Node}, ident ∈ tree.unboundIn own →
      ∃ path occ, tree.occurrence? own path = some occ ∧ occ.node = ident ∧ occ.InSight ∧
        occ.role.isValue = true ∧ ident.isUnbound = true
  | own, .mk form span parts, h => by
    rw [unboundIn_mk] at h
    split at h
    · cases h
    · next hsight =>
      rw [not_or, Bool.not_eq_true] at hsight
      rcases List.mem_append.1 h with h | h
      · obtain ⟨rfl, hvalue, hunbound⟩ := mem_unboundHere_iff.1 h
        exact ⟨[], _, rfl, rfl, List.forall_mem_nil _, hvalue, hunbound⟩
      · obtain ⟨i, part, hpart, h⟩ := mem_unboundParts_iff.1 h
        have hsmaller : sizeOf part < sizeOf parts :=
          List.sizeOf_lt_of_mem (List.mem_of_getElem? hpart)
        obtain ⟨path, occ, hocc, hnode, hoccSight, hrest⟩ := occurrence_of_mem_unboundIn h
        rw [Nat.zero_add] at hocc
        refine ⟨i :: path, occ.within form own, ?_, hnode, ?_, hrest⟩
        · rw [occurrence?, hpart, Option.bind_some, hocc, Option.map_some]
        · exact List.forall_mem_cons.2 ⟨hsight, hoccSight⟩
termination_by _ tree => sizeOf tree

/-- What stands at a place in sight and is read there is found, by induction on the way to the
place. -/
theorem mem_unboundIn_of_occurrence {own : Role} {tree : Node} {path : List Nat} {occ : Occurrence}
    (h : tree.occurrence? own path = some occ) (hsight : occ.InSight)
    (hvalue : occ.role.isValue = true) (hunbound : occ.node.isUnbound = true) :
    occ.node ∈ tree.unboundIn own := by
  obtain ⟨form, span, parts⟩ := tree
  induction path generalizing own form span parts occ with
  | nil =>
    cases h
    rw [unboundIn_mk, if_neg]
    · exact List.mem_append_left _ (mem_unboundHere_iff.2 ⟨rfl, hvalue, hunbound⟩)
    · rintro (hform | rfl)
      · cases form <;> simp_all [Form.isDeclareNamespace, isUnbound]
      · cases hvalue
  | cons i path ih =>
    rw [occurrence?, Option.bind_eq_some_iff] at h
    obtain ⟨⟨form', span', parts'⟩, hpart, h⟩ := h
    obtain ⟨inner, hinner, rfl⟩ := Option.map_eq_some_iff.1 h
    obtain ⟨⟨hform, hown⟩, hsight⟩ := List.forall_mem_cons.1 hsight
    rw [unboundIn_mk, if_neg (by simp [hform, hown])]
    refine List.mem_append_right _ (mem_unboundParts_iff.2 ⟨i, _, hpart, ?_⟩)
    rw [Nat.zero_add]
    exact ih hsight hvalue hunbound _ _ _ hinner

end Node

/-! ## Undeclared names -/

namespace Program

/-- An identifier at a place in sight of a file stands for a variable that neither the file nor
the program declares. -/
structure IsUndeclared (p : Program) (file : SourceFile) (occ : Occurrence) : Prop where
  path : ∃ path, file.module.resolve.1.occurrence? .value path = some occ
  inSight : occ.InSight
  refers : occ.role.refers = true
  unbound : occ.node.isUnbound = true
  notAmbient : p.isAmbient occ.node = false

/-- A role in which an identifier stands for a variable and is not only a target is one in which
it is read. -/
theorem isValue_iff {role : Role} : role.isValue = true ↔ role.refers = true ∧ role ≠ .target := by
  cases role <;> decide

/-- **Which names are errors**: the undeclared ones, but for those at the place of a target. -/
theorem mem_checkNames_iff {p : Program} {file : SourceFile} {report : Report} :
    report ∈ p.checkNames file ↔
      ∃ occ, p.IsUndeclared file occ ∧ occ.role ≠ .target ∧
        nameError file occ.node = report := by
  rw [checkNames, List.mem_map]
  constructor
  · rintro ⟨ident, hident, rfl⟩
    obtain ⟨hmem, hambient⟩ := List.mem_filter.1 hident
    obtain ⟨path, occ, hocc, rfl, hsight, hvalue, hunbound⟩ := Node.occurrence_of_mem_unboundIn hmem
    obtain ⟨hrefers, htarget⟩ := isValue_iff.1 hvalue
    exact ⟨occ, ⟨⟨path, hocc⟩, hsight, hrefers, hunbound, by simpa using hambient⟩, htarget, rfl⟩
  · rintro ⟨occ, ⟨⟨path, hocc⟩, hsight, hrefers, hunbound, hambient⟩, htarget, rfl⟩
    have hvalue := isValue_iff.2 ⟨hrefers, htarget⟩
    refine ⟨occ.node, List.mem_filter.2 ⟨?_, by simp [hambient]⟩, rfl⟩
    exact Node.mem_unboundIn_of_occurrence hocc hsight hvalue hunbound

end Program

/-- An identifier at a place in sight of a file reads a variable that the file does not declare. -/
structure SourceFile.ReadsUnbound (file : SourceFile) (occ : Occurrence) : Prop where
  path : ∃ path, file.module.resolve.1.occurrence? .value path = some occ
  inSight : occ.InSight
  reads : occ.role.isValue = true
  unbound : occ.node.isUnbound = true

/-- What is unbound is an identifier. -/
theorem Node.exists_identName?_of_isUnbound {node : Node} (h : node.isUnbound = true) :
    ∃ name, node.identName? = some name := by
  unfold isUnbound at h
  split at h
  · exact ⟨_, rfl⟩
  · cases h

/-- The errors of a file are about the variables that it reads and that neither it nor the program
declares. -/
theorem Program.mem_checkNames_iff_readsUnbound {p : Program} {file : SourceFile}
    {report : Report} :
    report ∈ p.checkNames file ↔
      ∃ occ name, file.ReadsUnbound occ ∧ occ.node.identName? = some name ∧
        p.ambient.declares name = false ∧ nameError file occ.node = report := by
  have hambient {occ : Occurrence} {name : String} (hname : occ.node.identName? = some name) :
      p.isAmbient occ.node = p.ambient.declares name := by
    rw [isAmbient, hname, Option.map_some, Option.getD_some]
  rw [mem_checkNames_iff]
  constructor
  · rintro ⟨occ, ⟨hpath, hsight, hrefers, hunbound, hnot⟩, htarget, hreport⟩
    obtain ⟨name, hname⟩ := Node.exists_identName?_of_isUnbound hunbound
    have hreads : file.ReadsUnbound occ :=
      ⟨hpath, hsight, isValue_iff.2 ⟨hrefers, htarget⟩, hunbound⟩
    exact ⟨occ, name, hreads, hname, hambient hname ▸ hnot, hreport⟩
  · rintro ⟨occ, name, ⟨hpath, hsight, hreads, hunbound⟩, hname, hnot, hreport⟩
    obtain ⟨hrefers, htarget⟩ := isValue_iff.1 hreads
    exact ⟨occ, ⟨hpath, hsight, hrefers, hunbound, hambient hname ▸ hnot⟩, htarget, hreport⟩

/-- Errors that are equal are about one name. -/
theorem Program.name_eq_of_nameError_eq {file : SourceFile} {a b : Node} {name other : String}
    (ha : a.identName? = some name) (hb : b.identName? = some other)
    (h : nameError file a = nameError file b) : name = other := by
  have hmessage := congrArg Report.message h
  simpa [nameError, Report.errorAt, ha, hb] using hmessage

namespace Compiler

/-- What a compilation says about undeclared names. -/
structure ChecksNames (c : Compiler) (input : SortedMap String) : Prop where
  /-- The files of the input are files of the program. -/
  files : ∀ path ∈ input.keys, ∃ file ∈ (c.program input).files,
    (c.program input).file? path = some file
  /-- The errors are those about the undeclared names that are not only targets. -/
  reports : ∀ file report, report ∈ (c.program input).checkNames file ↔
    ∃ occ, (c.program input).IsUndeclared file occ ∧ occ.role ≠ .target ∧
      Program.nameError file occ.node = report
  /-- A target stands inside of a form that makes one. -/
  targets : ∀ file occ, (c.program input).IsUndeclared file occ → occ.role = .target →
    ∃ e ∈ occ.around, e.1.makesTarget = true
  /-- After a success, the undeclared names of the checked files are targets only. -/
  success : ∀ output, c.compile input = .success output → ∀ file ∈ (c.program input).files,
    (c.program input).isChecked file = true → file.isJavaScript = false →
      ∀ occ, (c.program input).IsUndeclared file occ → occ.role = .target

/-- **Undeclared names are found where they are read.** Whatever the settings and the input are,
the errors about names are those about the undeclared identifiers that are read, and a compilation
that succeeds leaves no such identifier in its checked files. -/
theorem checksNames (c : Compiler) (input : SortedMap String) : c.ChecksNames input := by
  constructor
  case files => exact fun path hpath => file?_of_mem_keys hpath
  case reports => exact fun file report => Program.mem_checkNames_iff
  case targets =>
    rintro file occ ⟨⟨path, hocc⟩, -⟩ htarget
    exact (Node.makesTarget_of_occurrence hocc htarget).resolve_left (by decide)
  case success =>
    intro output hsuccess file hfile hchecked hscript occ hocc
    by_contra htarget
    have hreport := Program.mem_checkNames_iff.2 ⟨occ, hocc, htarget, rfl⟩
    have herrors := fileErrors_of_success hsuccess hfile hchecked
    rw [Program.fileErrors, if_neg (by simp [hscript])] at herrors
    have hmem := (List.mergeSort_perm (_ ++ _) Program.startsBy).mem_iff.2
      (List.mem_append_right ((c.program input).checkImports file) hreport)
    rw [herrors] at hmem
    cases hmem

/-- An input that assigns to a name that nothing declares. -/
def assigning : SortedMap String := .ofList [("a.ts", "x = undefined;")]

/-- A compiler that only checks. -/
def checking : Compiler := { options := { noEmit := true } }

/-- The undeclared identifier that is assigned to, found by its way through the tree. -/
def assigned? (file : SourceFile) : Option Occurrence :=
  file.module.resolve.1.occurrence? .value [0, 0, 0]

/-- An undeclared identifier that is assigned to is not an error, and the compilation succeeds. -/
theorem assigned_unreported :
    (checking.compile assigning).isSuccess = true ∧
      ∃ file ∈ (checking.program assigning).files,
        (checking.program assigning).isChecked file = true ∧ file.isJavaScript = false ∧
          file.syntaxErrors = [] ∧ ∃ occ, (checking.program assigning).IsUndeclared file occ ∧
            Program.nameError file occ.node ∉ (checking.program assigning).checkNames file := by
  refine ⟨by decide +kernel, ?_⟩
  have hfacts : ((checking.program assigning).files.head?.bind fun file =>
      (assigned? file).map fun occ =>
        ((checking.program assigning).isChecked file && !file.isJavaScript
          && file.syntaxErrors.isEmpty && decide occ.InSight && occ.role.refers
          && occ.node.isUnbound && !(checking.program assigning).isAmbient occ.node
          && ((checking.program assigning).checkNames file).isEmpty)) = some true := by
    decide +kernel
  obtain ⟨file, hfile, hfacts⟩ := Option.bind_eq_some_iff.1 hfacts
  obtain ⟨occ, hocc, hfacts⟩ := Option.map_eq_some_iff.1 hfacts
  simp only [Bool.and_eq_true, Bool.not_eq_true', decide_eq_true_eq, List.isEmpty_iff] at hfacts
  obtain ⟨⟨⟨⟨⟨⟨⟨hchecked, hscript⟩, hsyntax⟩, hsight⟩, hrefers⟩, hunbound⟩, hambient⟩, hnone⟩ :=
    hfacts
  refine ⟨file, List.mem_of_mem_head? hfile, hchecked, hscript, hsyntax, occ, ?_, ?_⟩
  · exact ⟨⟨_, hocc⟩, hsight, hrefers, hunbound, hambient⟩
  · rw [hnone]
    exact List.not_mem_nil

end Compiler

end ScriptHost
