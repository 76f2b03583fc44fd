import ScriptHost.Lint.Rules
import ScriptHost.Proofs.Source.Declared
/-!
# Promises that are handled

A promise is handled where something becomes of its failure: by a handler for
it, or by one for the promise that it goes on as. What is floating is a promise
that is not handled. Which expressions make promises depends on the names that
the files of a program declare. With more names there are more promises, but
none of those that were there before gets handled by this: the object of a
handler of a promise was a promise before.

- `Node.CallsMember`: a call of a member of an object.
- `Promises.Handled`: a promise is handled.
- `Promises.isFloating_iff`: what is floating is a promise that is not handled.
- `Promises.Within`, `Promises.Within.isFloating`: with more names, what is floating stays so.
- `Program.findings_of_promises`: this, and that a program with more files has all findings of one
  with less.
-/

namespace ScriptHost

namespace Node

/-- A call of a member of an object, by the name of the member and with the arguments. -/
inductive CallsMember : Node → Node → String → Node → Prop where
  | mk {span memberSpan nameSpan : Span} {nameParts : List Node} {object typeArgs args : Node}
    {name : String} :
    CallsMember
      (mk .call span [mk .member memberSpan [object, mk (.name name) nameSpan nameParts], typeArgs,
        args]) object name args

/-! ## What is found in larger and smaller trees -/

/-- A function that finds more at every node finds more in the tree. -/
theorem collect_sublist {α : Type} {f g : Node → List α} (h : ∀ n, (f n).Sublist (g n))
    (node : Node) : (node.collect f).Sublist (node.collect g) := by
  induction node using induction_parts with
  | mk form span parts ih =>
    rw [collect, collect]
    refine (h _).append ?_
    induction parts with
    | nil => exact .slnil
    | cons part parts ihParts =>
      rw [collectList, collectList]
      have hpart := ih part List.mem_cons_self
      exact hpart.append (ihParts fun other hother => ih other (List.mem_cons_of_mem _ hother))

end Node

namespace Promises

/-! ## Handled promises -/

/-- A promise is handled: it is caught, or goes on with two handlers, or goes on as it is after it
was handled. -/
inductive Handled (c : Promises) : Node → Prop where
  | paren {span : Span} {e : Node} (h : Handled c e) : Handled c (.mk .paren span [e])
  | caught {e object args : Node} (hcall : e.CallsMember object "catch" args)
    (hpromise : c.makes object = true) (hargs : 1 ≤ args.items.length) : Handled c e
  | chained {e object args : Node} (hcall : e.CallsMember object "then" args)
    (hpromise : c.makes object = true) (hargs : 2 ≤ args.items.length) : Handled c e
  | finished {e object args : Node} (hcall : e.CallsMember object "finally" args)
    (hpromise : c.makes object = true) (h : Handled c object) : Handled c e

variable {c d : Promises} {e object args : Node} {name : String}

theorem handled_paren_iff {span : Span} : c.Handled (.mk .paren span [e]) ↔ c.Handled e := by
  refine ⟨fun h => ?_, .paren⟩
  cases h with
  | paren h => exact h
  | caught hcall => cases hcall
  | chained hcall => cases hcall
  | finished hcall => cases hcall

/-- A call of a member is handled by what the member is. -/
theorem handled_call_iff (hcall : e.CallsMember object name args) :
    c.Handled e ↔ c.makes object = true ∧ (name = "catch" ∧ 1 ≤ args.items.length ∨
      name = "then" ∧ 2 ≤ args.items.length ∨ name = "finally" ∧ c.Handled object) := by
  constructor
  · intro h
    cases h with
    | paren => cases hcall
    | caught hcall' hpromise hargs =>
      cases hcall
      cases hcall'
      exact ⟨hpromise, .inl ⟨rfl, hargs⟩⟩
    | chained hcall' hpromise hargs =>
      cases hcall
      cases hcall'
      exact ⟨hpromise, .inr (.inl ⟨rfl, hargs⟩)⟩
    | finished hcall' hpromise h =>
      cases hcall
      cases hcall'
      exact ⟨hpromise, .inr (.inr ⟨rfl, h⟩)⟩
  · rintro ⟨hpromise, ⟨rfl, hargs⟩ | ⟨rfl, hargs⟩ | ⟨rfl, h⟩⟩
    · exact .caught hcall hpromise hargs
    · exact .chained hcall hpromise hargs
    · exact .finished hcall hpromise h

/-- What makes a promise is no variable. -/
theorem identName?_of_makes (h : c.makes e = true) : e.identName? = none := by
  unfold Node.identName?
  split
  · simp [makes] at h
  · rfl

theorem mem_continuations_iff :
    continuations.contains name = true ↔ name = "then" ∨ name = "catch" ∨ name = "finally" := by
  simp [continuations]

/-- What goes on as a promise is a promise itself, unless it is the class of promises. -/
theorem makes_of_callsMember (hcall : e.CallsMember object name args)
    (hname : continuations.contains name = true) (hobject : object.identName? ≠ some "Promise") :
    c.makes e = c.makes object := by
  cases hcall
  rw [makes, callMakes, if_neg (by rwa [beq_iff_eq]), if_pos hname]

/-- A promise goes on as a promise. -/
theorem makes_of_continued (hcall : e.CallsMember object name args)
    (h : (continuations.contains name && c.makes object) = true) :
    c.makes object = true ∧ c.makes e = true := by
  obtain ⟨hname, hpromise⟩ := Bool.and_eq_true_iff.1 h
  refine ⟨hpromise, (makes_of_callsMember hcall hname ?_).trans hpromise⟩
  rw [identName?_of_makes hpromise]
  nofun

/-- **What is floating** is a promise that is not handled. -/
theorem isFloating_iff (c : Promises) (e : Node) :
    c.isFloating e = true ↔ c.makes e = true ∧ ¬ c.Handled e := by
  fun_induction isFloating c e with
  | case1 span e ih => rw [handled_paren_iff, makes, ih]
  -- the promise goes on by a call of `catch`, of `then` or of `finally`
  | case2 span memberSpan object nameSpan nameParts typeArgs args h =>
    obtain ⟨hpromise, hmakes⟩ := makes_of_continued .mk h
    rw [hmakes, handled_call_iff .mk, hpromise]
    simp [Nat.one_le_iff_ne_zero]
  | case3 span memberSpan object nameSpan nameParts typeArgs args h =>
    obtain ⟨hpromise, hmakes⟩ := makes_of_continued .mk h
    rw [hmakes, handled_call_iff .mk, hpromise]
    simp
  | case4 span memberSpan object name nameSpan nameParts typeArgs args h hcatch hthen ih =>
    obtain ⟨hpromise, hmakes⟩ := makes_of_continued .mk h
    obtain ⟨hname, -⟩ := Bool.and_eq_true_iff.1 h
    have hfinally : name = "finally" :=
      ((mem_continuations_iff.1 hname).resolve_left hthen).resolve_left hcatch
    rw [ih, hmakes, handled_call_iff .mk, hpromise, hfinally]
    simp
  -- any other call of a member, and any other expression, does nothing for a promise
  | case5 span memberSpan object name nameSpan nameParts typeArgs args h =>
    rw [handled_call_iff .mk, iff_self_and]
    rintro - ⟨hpromise, hname⟩
    refine h (Bool.and_eq_true_iff.2 ⟨mem_continuations_iff.2 ?_, hpromise⟩)
    rcases hname with ⟨hname, -⟩ | ⟨hname, -⟩ | ⟨hname, -⟩ <;> simp [hname]
  | case6 e hparen hcall =>
    rw [iff_self_and]
    rintro - h
    cases h with
    | paren => exact hparen _ _ rfl
    | caught hmember => cases hmember; exact hcall _ _ _ _ _ _ _ _ rfl
    | chained hmember => cases hmember; exact hcall _ _ _ _ _ _ _ _ rfl
    | finished hmember => cases hmember; exact hcall _ _ _ _ _ _ _ _ rfl

/-- A promise that is handled with some names is handled with any others that make it a promise. -/
theorem Handled.of_makes (h : d.Handled e) (hmakes : c.makes e = true) : c.Handled e := by
  -- what goes on as a promise is one with the other names, too
  have hobject {e object args : Node} {name : String} (hcall : e.CallsMember object name args)
      (hname : continuations.contains name = true) (hpromise : d.makes object = true)
      (hmakes : c.makes e = true) : c.makes object = true := by
    rwa [← makes_of_callsMember hcall hname]
    rw [identName?_of_makes hpromise]
    nofun
  induction h with
  | paren _ ih =>
    rw [makes] at hmakes
    exact .paren (ih hmakes)
  | caught hcall hpromise hargs =>
    exact .caught hcall (hobject hcall (by decide) hpromise hmakes) hargs
  | chained hcall hpromise hargs =>
    exact .chained hcall (hobject hcall (by decide) hpromise hmakes) hargs
  | finished hcall hpromise _ ih =>
    have hother := hobject hcall (by decide) hpromise hmakes
    exact .finished hcall hother (ih hother)

/-! ## More names -/

/-- What some names are known to return promises for, others are, too. -/
structure Within (c d : Promises) : Prop where
  functions : c.functions ⊆ d.functions
  methods : c.methods ⊆ d.methods

/-- More files declare more names. -/
theorem within_ofFiles {files more : List SourceFile} (h : files ⊆ more) :
    (ofFiles files).Within (ofFiles more) := by
  have hcollected {f : SourceFile → List String} : files.flatMap f ⊆ more.flatMap f := by
    intro name hname
    obtain ⟨file, hfile, hmem⟩ := List.mem_flatMap.1 hname
    exact List.mem_flatMap.2 ⟨file, h hfile, hmem⟩
  exact ⟨List.cons_subset_cons _ hcollected, hcollected⟩

section

variable (h : c.Within d)

include h

/-- With more names there are more promises. -/
theorem Within.makes_and_callMakes :
    (∀ e, c.makes e = true → d.makes e = true) ∧
      ∀ e, c.callMakes e = true → d.callMakes e = true := by
  have hcontains {name : String} {l m : List String} (hsub : l ⊆ m) (hl : l.contains name = true) :
      m.contains name = true :=
    List.contains_iff_mem.2 (hsub (List.contains_iff_mem.1 hl))
  refine makes.mutual_induct _ _ ?paren ?new ?call ?other ?callParen ?ident ?arrow ?function
    ?maker ?continuation ?method ?callOther
  case paren => exact fun span e ih hmakes => by rw [makes] at hmakes ⊢; exact ih hmakes
  case new => exact fun span callee rest hmakes => by rw [makes] at hmakes ⊢; exact hmakes
  case call => exact fun span callee rest ih hmakes => by rw [makes] at hmakes ⊢; exact ih hmakes
  case other =>
    intro e hparen hnew hcall hmakes
    rw [makes.eq_4 c e hparen hnew hcall] at hmakes
    cases hmakes
  case callParen => exact fun span e ih hmakes => by rw [callMakes] at hmakes ⊢; exact ih hmakes
  case ident =>
    intro name scope isOptional span parts hmakes
    rw [callMakes] at hmakes ⊢
    exact hcontains h.functions hmakes
  case arrow => exact fun isAsync _ span parts hmakes => by rw [callMakes] at hmakes ⊢; exact hmakes
  case function => exact fun span parts hmakes => by rw [callMakes] at hmakes ⊢; exact hmakes
  case maker =>
    intro span object name nameSpan nameParts hobject hmakes
    rw [callMakes, if_pos hobject] at hmakes ⊢
    exact hmakes
  case continuation =>
    intro span object name nameSpan nameParts hobject hname ih hmakes
    rw [callMakes, if_neg hobject, if_pos hname] at hmakes ⊢
    exact ih hmakes
  case method =>
    intro span object name nameSpan nameParts hobject hname hmakes
    rw [callMakes, if_neg hobject, if_neg hname, Bool.and_eq_true] at hmakes ⊢
    exact ⟨hmakes.1, hcontains h.methods hmakes.2⟩
  case callOther =>
    intro e hparen hident harrow hfunction hmember hmakes
    rw [callMakes.eq_6 c e hparen hident harrow hfunction hmember] at hmakes
    cases hmakes

theorem Within.makes (hmakes : c.makes e = true) : d.makes e = true :=
  h.makes_and_callMakes.1 e hmakes

/-- **With more names, what is floating stays so.** -/
theorem Within.isFloating (hfloating : c.isFloating e = true) : d.isFloating e = true := by
  rw [isFloating_iff] at hfloating ⊢
  obtain ⟨hmakes, hloose⟩ := hfloating
  exact ⟨h.makes hmakes, fun hhandled => hloose (hhandled.of_makes hmakes)⟩

end

end Promises

namespace Program

/-- A program has all findings about promises that a program with less files has, in the same
order. -/
theorem findings_sublist {p q : Program} (h : p.files ⊆ q.files) (file : SourceFile) :
    (LintRule.floatingPromises.findings p file).Sublist
      (LintRule.floatingPromises.findings q file) := by
  have hwithin := Promises.within_ofFiles h
  refine Node.collect_sublist (fun n => ?_) file.module
  split
  · split
    · next hfloating =>
      simp [hwithin.isFloating hfloating]
    · exact List.nil_sublist _
  · exact List.nil_sublist _

/-- **What is found about promises.** With any names, an expression is floating exactly if it makes
a promise that is not handled; and a program with more files has all findings about a file that a
program with less has. -/
theorem findings_of_promises :
    (∀ (c : Promises) (e : Node), c.isFloating e = true ↔ c.makes e = true ∧ ¬ c.Handled e) ∧
      ∀ (p q : Program) (file : SourceFile), p.files ⊆ q.files →
        (LintRule.floatingPromises.findings p file).Sublist
          (LintRule.floatingPromises.findings q file) :=
  ⟨Promises.isFloating_iff, fun _ _ file h => findings_sublist h file⟩

/-- A file with a promise, with calls that handle it, and with calls of what it does not declare. -/
def callingFile : SourceFile :=
  .parse "a.ts" "fetch('');\nfetch('').catch(f);\nload();\nload().then(f, g).finally(f);"

/-- A file that declares a function that returns a promise. -/
def loadingFile : SourceFile := .parse "b.ts" "async function load() {}"

/-- A program of some files. -/
def ofFiles (files : List SourceFile) : Program :=
  { options := {}, host := (VirtualFiles.ofMaps ∅ ∅ {}).host, roots := [], files }

/-- With the declaration of the function, its call is found, and the call that is handled is not. -/
theorem callingFile_findings :
    (ofFiles [callingFile]).files ⊆ (ofFiles [callingFile, loadingFile]).files ∧
      (LintRule.floatingPromises.findings (ofFiles [callingFile]) callingFile).Sublist
        (LintRule.floatingPromises.findings (ofFiles [callingFile, loadingFile]) callingFile) ∧
      (LintRule.floatingPromises.findings (ofFiles [callingFile]) callingFile).map (·.span.offset) =
        [0] ∧
      (LintRule.floatingPromises.findings (ofFiles [callingFile, loadingFile]) callingFile).map
        (·.span.offset) = [0, 31] := by
  have hfiles : (ofFiles [callingFile]).files ⊆ (ofFiles [callingFile, loadingFile]).files :=
    List.cons_subset_cons _ (List.nil_subset _)
  exact ⟨hfiles, findings_of_promises.2 _ _ callingFile hfiles, by decide +kernel,
    by decide +kernel⟩

end Program

end ScriptHost
