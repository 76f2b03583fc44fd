import Mathlib.Data.List.Basic
import Mathlib.Data.List.Forall2
import Mathlib.Data.List.Nodup
import ScriptHost.Compile.Lint
import ScriptHost.Proofs.Compile.Reports
import ScriptHost.Proofs.Host.Indexing
import ScriptHost.Proofs.Lint.Message
/-!
# What a linter adds to a compilation

A linter looks at each file of a call by itself. What it finds comes behind the
diagnostics of the compilation, and a file that it fails on is passed over. The
compiler alone would answer the same call in the same way if it indexed the
paths in the same order, and two calls need not do so.

- `LintedFile`, `LintingCompiler.Verified`: the files that a linter did not fail on.
- `LintingCompiler.failingOn`: the linter that also fails on some files.
- `LintingCompiler.lint_eq_some_iff`: the diagnostics of what is found.
- `LintingCompiler.Promotes`: an answer of the compiler with what a linter finds.
- `LintingCompiler.compile_promotes`: the answer to a compilation with a linter.
-/

namespace ScriptHost

/-- Mapping with a function that may fail gives the values of all elements in turn. -/
theorem mapM_eq_some_iff_forall₂ {α β : Type} {g : α → Option β} {l : List α} {l' : List β} :
    l.mapM g = some l' ↔ List.Forall₂ (fun a b => g a = some b) l l' := by
  induction l generalizing l' with
  | nil =>
    rw [List.mapM_nil, List.forall₂_nil_left_iff]
    exact Option.some_inj.trans eq_comm
  | cons a l ih =>
    rw [List.mapM_cons, List.forall₂_cons_left_iff]
    simp only [Option.bind_eq_bind, Option.bind_eq_some_iff, Option.pure_def, Option.some_inj, ih]
    exact ⟨fun ⟨b, hb, rest, hrest, heq⟩ => ⟨b, rest, hb, hrest, heq.symm⟩,
      fun ⟨b, rest, hb, hrest, heq⟩ => ⟨b, hb, rest, hrest, heq.symm⟩⟩

/-- Each of the values is that of an element. -/
theorem exists_of_mem_mapM {α β : Type} {g : α → Option β} {l : List α} {l' : List β} {b : β}
    (h : l.mapM g = some l') (hb : b ∈ l') : ∃ a ∈ l, g a = some b := by
  rw [mapM_eq_some_iff_forall₂] at h
  induction h with
  | nil => cases hb
  | cons ha _ ih =>
    rcases List.mem_cons.1 hb with rfl | hb
    · exact ⟨_, List.mem_cons_self, ha⟩
    · obtain ⟨a, hmem, ha⟩ := ih hb
      exact ⟨a, List.mem_cons_of_mem _ hmem, ha⟩

/-- An answer has some texts and diagnostics, and is a success exactly if there are no
diagnostics. -/
inductive Answer.Has : Answer → SortedMap String → List Diagnostic → Prop where
  | success (output : SortedMap String) : Has (.success output) output []
  | failure (output : SortedMap String) {found : List Diagnostic} : found ≠ [] →
      Has (.failure output found) output found

theorem Answer.has_iff {a : Answer} {output : SortedMap String} {found : List Diagnostic} :
    a.Has output found ↔ a = .ofDiagnostics output found := by
  constructor
  · rintro (_ | ⟨_, hne⟩)
    · rfl
    · rw [ofDiagnostics, if_neg (by simpa using hne)]
  · rintro rfl
    cases found with
    | nil => exact .success output
    | cons d found => exact .failure output (List.cons_ne_nil d found)

/-- An answer has one output and one list of diagnostics. -/
theorem Answer.Has.unique {a : Answer} {output output' : SortedMap String}
    {found found' : List Diagnostic} (h : a.Has output found) (h' : a.Has output' found') :
    output = output' ∧ found = found' := by
  cases h <;> cases h' <;> exact ⟨rfl, rfl⟩

/-- A file that a linter did not fail on, with its messages. -/
structure LintedFile where
  path : String
  source : String
  messages : List LintMessage

/-- The messages about a file, each with the file. -/
def LintedFile.placed (f : LintedFile) : List (LintedFile × LintMessage) :=
  f.messages.map fun m => (f, m)

namespace LintingCompiler

variable {c : LintingCompiler} {p : Program} {input : SortedMap String} {path source : String}
  {files : List LintedFile} {fails : String → Bool}

/-! ## Files that a linter does not fail on -/

/-- What the linter makes of a file of a program, unless it fails. -/
def lintedFile? (c : LintingCompiler) (p : Program) (path source : String) : Option LintedFile :=
  (c.linter p c.rules.qualified path source).map fun messages => ⟨path, source, messages⟩

/-- The files of a call that the linter does not fail on, in the order of their paths. -/
def linted (c : LintingCompiler) (p : Program) (input : SortedMap String) : List LintedFile :=
  input.entries.filterMap fun (path, source) => c.lintedFile? p path source

/-- Files are those of a call that the linter does not fail on, with its messages and in the order
of their paths. -/
structure Verified (c : LintingCompiler) (p : Program) (input : SortedMap String)
    (files : List LintedFile) : Prop where
  inOrder : (files.map (·.path)).Sublist input.keys
  mem_iff : ∀ f, f ∈ files ↔ (f.path, f.source) ∈ input.entries ∧
    c.linter p c.rules.qualified f.path f.source = some f.messages

/-- The compiler with the linter that also fails on the files of some paths. -/
def failingOn (c : LintingCompiler) (fails : String → Bool) : LintingCompiler :=
  { c with linter := fun p rules path source =>
      if fails path then none else c.linter p rules path source }

theorem lintedFile?_eq_some_iff {f : LintedFile} : c.lintedFile? p path source = some f ↔
    f.path = path ∧ f.source = source ∧
      c.linter p c.rules.qualified f.path f.source = some f.messages := by
  rw [lintedFile?, Option.map_eq_some_iff]
  constructor
  · rintro ⟨messages, hmessages, rfl⟩
    exact ⟨rfl, rfl, hmessages⟩
  · rintro ⟨rfl, rfl, hmessages⟩
    exact ⟨f.messages, hmessages, rfl⟩

/-- The files that a linter does not fail on come in the order of their paths. -/
theorem linted_sublist (c : LintingCompiler) (p : Program) (input : SortedMap String) :
    ((c.linted p input).map (·.path)).Sublist input.keys := by
  rw [linted, SortedMap.keys]
  induction input.entries with
  | nil => exact .slnil
  | cons entry entries ih =>
    cases hlinted : c.lintedFile? p entry.1 entry.2 with
    | none => simpa [hlinted] using ih.cons entry.1
    | some f =>
      simpa [hlinted, (lintedFile?_eq_some_iff.1 hlinted).1] using ih.cons_cons entry.1

theorem linted_verified (c : LintingCompiler) (p : Program) (input : SortedMap String) :
    c.Verified p input (c.linted p input) where
  inOrder := c.linted_sublist p input
  mem_iff f := by
    rw [linted, List.mem_filterMap]
    constructor
    · rintro ⟨⟨path, source⟩, hentry, hf⟩
      obtain ⟨rfl, rfl, hmessages⟩ := lintedFile?_eq_some_iff.1 hf
      exact ⟨hentry, hmessages⟩
    · rintro ⟨hentry, hmessages⟩
      exact ⟨_, hentry, lintedFile?_eq_some_iff.2 ⟨rfl, rfl, hmessages⟩⟩

/-- There is one list of the files that a linter does not fail on. -/
theorem Verified.eq_linted (h : c.Verified p input files) : files = c.linted p input := by
  have hlinted := c.linted_verified p input
  have hsorted {l : List LintedFile} (hl : (l.map (·.path)).Sublist input.keys) :
      l.Pairwise fun a b => a.path < b.path :=
    List.pairwise_map.1 ((List.pairwise_map.2 input.increasing).sublist hl)
  have hnodup {l : List LintedFile} (hl : (l.map (·.path)).Sublist input.keys) : l.Nodup :=
    List.Nodup.of_map _ (input.nodup_keys.sublist hl)
  refine List.Perm.eq_of_pairwise (fun a b _ _ hab hba => ?_) (hsorted h.inOrder)
    (hsorted hlinted.inOrder) ?_
  · exact absurd (String.lt_trans hab hba) (String.lt_irrefl a.path)
  · refine (List.perm_ext_iff_of_nodup (hnodup h.inOrder) (hnodup hlinted.inOrder)).2 fun f => ?_
    rw [h.mem_iff, hlinted.mem_iff]

/-- **Failures are independent.** A linter that also fails on some files is left with its messages
about all others. -/
theorem Verified.failingOn (h : c.Verified p input files) (fails : String → Bool) :
    (c.failingOn fails).Verified p input (files.filter fun f => !fails f.path) where
  inOrder := (List.filter_sublist.map _).trans h.inOrder
  mem_iff f := by
    rw [List.mem_filter, h.mem_iff]
    simp only [LintingCompiler.failingOn]
    cases fails f.path <;> simp

/-! ## What is found -/

/-- **What a linter finds** in the files of a call are its messages about those that it does not
fail on. -/
theorem lint_eq (c : LintingCompiler) (p : Program) (input : SortedMap String) :
    c.lint p input = ((c.linted p input).flatMap LintedFile.placed).mapM fun x =>
      x.2.diagnostic? c.overflow x.1.path x.1.source := by
  have hfile (path source : String) : c.lintFile p path source =
      ((c.lintedFile? p path source).toList.flatMap LintedFile.placed).mapM fun x =>
        x.2.diagnostic? c.overflow x.1.path x.1.source := by
    rw [lintFile, lintedFile?]
    cases c.linter p c.rules.qualified path source with
    | none => rfl
    | some messages =>
      simp only [Option.map_some, Option.toList_some, List.flatMap_singleton, LintedFile.placed,
        List.mapM_map]
      rfl
  rw [lint, linted, List.filterMap_eq_flatMap_toList, List.flatMap_assoc]
  induction input.entries with
  | nil => rfl
  | cons e entries ih =>
    rw [List.flatMap_cons, List.mapM_append, ← hfile, ← ih, List.mapM_cons]
    simp [Option.bind_assoc]

/-- What is found in the files that a linter does not fail on. -/
theorem lint_eq_some_iff {found : List Diagnostic} :
    c.lint p input = some found ↔
      List.Forall₂ (fun x d => x.2.diagnostic? c.overflow x.1.path x.1.source = some d)
        ((c.linted p input).flatMap LintedFile.placed) found := by
  rw [lint_eq, mapM_eq_some_iff_forall₂]

/-- What is found is about a message of the linter about a file of the call. -/
theorem exists_message_of_mem_lint {found : List Diagnostic} {d : Diagnostic}
    (h : c.lint p input = some found) (hd : d ∈ found) :
    ∃ path source messages, (path, source) ∈ input.entries ∧
      c.linter p c.rules.qualified path source = some messages ∧
      ∃ m ∈ messages, m.diagnostic? c.overflow path source = some d := by
  obtain ⟨x, hplaced, hx⟩ := exists_of_mem_mapM (lint_eq c p input ▸ h) hd
  obtain ⟨f, hf, hmem⟩ := List.mem_flatMap.1 hplaced
  obtain ⟨m, hm, rfl⟩ := List.mem_map.1 hmem
  obtain ⟨hentry, hmessages⟩ := ((c.linted_verified p input).mem_iff f).1 hf
  exact ⟨f.path, f.source, f.messages, hentry, hmessages, m, hm, hx⟩

/-- Diagnostics tell what the messages about some files do, in their order. -/
def Converted (files : List LintedFile) (found : List Diagnostic) : Prop :=
  List.Forall₂ (fun x d => x.2.Converts x.1.path x.1.source d)
    (files.flatMap LintedFile.placed) found

/-- All messages about the files of a call fit. -/
def AllFit (c : LintingCompiler) (p : Program) (input : SortedMap String) : Prop :=
  ∀ path source messages, (path, source) ∈ input.entries →
    c.linter p c.rules.qualified path source = some messages → ∀ m ∈ messages, m.Fits source

theorem allFit_iff : c.AllFit p input ↔
    ∀ x ∈ (c.linted p input).flatMap LintedFile.placed, x.2.Fits x.1.source := by
  simp only [AllFit, List.mem_flatMap, (c.linted_verified p input).mem_iff, LintedFile.placed,
    List.mem_map]
  constructor
  · rintro h _ ⟨f, ⟨hentry, hmessages⟩, m, hm, rfl⟩
    exact h _ _ _ hentry hmessages m hm
  · intro h path source messages hentry hmessages m hm
    exact h (⟨path, source, messages⟩, m) ⟨_, ⟨hentry, hmessages⟩, m, hm, rfl⟩

/-- **What is found tells the places of the messages** exactly if they all fit. -/
theorem lint_eq_some_iff_allFit {found : List Diagnostic} (h : Converted (c.linted p input) found) :
    c.lint p input = some found ↔ c.AllFit p input := by
  rw [lint_eq_some_iff, allFit_iff]
  rw [Converted] at h
  generalize (c.linted p input).flatMap LintedFile.placed = placed at h
  induction h with
  | nil => exact iff_of_true .nil (List.forall_mem_nil _)
  | cons hd _ ih =>
    rw [List.forall₂_cons, List.forall_mem_cons, LintMessage.diagnostic?_eq_some_iff hd, ih]

/-- The messages about some files have diagnostics with offsets of any size. -/
theorem exists_converted (files : List LintedFile) : ∃ found, Converted files found := by
  refine ⟨(files.flatMap LintedFile.placed).map fun x => x.2.diagnostic x.1.path x.1.source, ?_⟩
  rw [Converted, List.forall₂_map_right_iff]
  exact List.forall₂_same.2 fun x _ => x.2.converts_diagnostic x.1.path x.1.source

/-- A message that does not fit stops a call, if it is built so. -/
theorem lint_eq_none_iff (h : c.overflow = .stops) :
    c.lint p input = none ↔ ¬ c.AllFit p input := by
  rw [← Option.not_isSome_iff_eq_none, Option.isSome_iff_exists, not_iff_not]
  constructor
  · rintro ⟨found, hfound⟩
    rw [lint_eq_some_iff, h] at hfound
    rw [allFit_iff]
    generalize (c.linted p input).flatMap LintedFile.placed = placed at hfound
    induction hfound with
    | nil => exact List.forall_mem_nil _
    | cons hd _ ih =>
      refine List.forall_mem_cons.2 ⟨?_, ih⟩
      by_contra hfits
      rw [LintMessage.diagnostic?_stops_iff.2 hfits] at hd
      cases hd
  · intro hfit
    obtain ⟨found, hfound⟩ := exists_converted (c.linted p input)
    exact ⟨found, (lint_eq_some_iff_allFit hfound).2 hfit⟩

/-! ## Answers -/

/-- The answer with a linter where the compilation stops. -/
theorem compile_of_exception {e : Exception}
    (h : c.compiler.compile (canonicalInput input) = .exception e) :
    c.compile input = some (.exception e) := by
  simp only [compile, h]

/-- The answer with a linter where the compilation does not stop. -/
theorem compile_of_diagnostics {output : SortedMap String} {found : List Diagnostic}
    (h : c.compiler.compile (canonicalInput input) = .ofDiagnostics output found) :
    c.compile input = (c.lint (c.compiler.program (canonicalInput input))
      (canonicalInput input)).map fun more => .ofDiagnostics output (found ++ more) := by
  have hanswer : c.compile input = (c.lint (c.compiler.program (canonicalInput input))
      (canonicalInput input)).map (c.compiler.compile (canonicalInput input)).addLint := by
    simp only [compile]
    cases hcompile : c.compiler.compile (canonicalInput input) with
    | exception e =>
      rw [h] at hcompile
      cases found <;> cases hcompile
    | success output => rfl
    | failure output found => rfl
  rw [hanswer, h]
  exact congrArg (Option.map · _) (funext (Answer.addLint_ofDiagnostics output found))

/-- The answer of the compiler alone to the call with slashes in its paths, if it indexes them in
some order. -/
def plain (c : LintingCompiler) (i : Indexing) (input : SortedMap String) : Answer :=
  (c.compiler.indexedBy i).compile (canonicalInput input)

/-- What is made of an answer of the compiler: an exception is kept, and to anything else the
messages of the linter are added, as diagnostics behind those of the compiler. -/
inductive Promotes (c : LintingCompiler) (input : SortedMap String) :
    Answer → Option Answer → Prop where
  | kept (e : Exception) : Promotes c input (.exception e) (some (.exception e))
  | added {a b : Answer} {output : SortedMap String} {found more : List Diagnostic}
      {files : List LintedFile} : a.Has output found →
      c.Verified (c.compiler.program (canonicalInput input)) (canonicalInput input) files →
      Converted files more → b.Has output (found ++ more) → Promotes c input a (some b)

/-- An exception comes from an exception alone. -/
theorem promotes_exception_iff {a : Answer} {e : Exception} :
    c.Promotes input a (some (.exception e)) ↔ a = .exception e := by
  constructor
  · rintro (_ | ⟨_, _, _, ⟨⟩⟩)
    rfl
  · rintro rfl
    exact .kept e

/-- What the linter adds to texts and diagnostics is promoted from these alone, if all messages
fit, and from nothing if not. -/
theorem promotes_added_iff {a : Answer} {output : SortedMap String} {found : List Diagnostic} :
    c.Promotes input a ((c.lint (c.compiler.program (canonicalInput input))
        (canonicalInput input)).map fun more => .ofDiagnostics output (found ++ more)) ↔
      a = .ofDiagnostics output found ∧
        c.AllFit (c.compiler.program (canonicalInput input)) (canonicalInput input) := by
  constructor
  · intro h
    generalize hanswer : (c.lint _ _).map _ = answer at h
    cases h with
    | kept e =>
      obtain ⟨more, -, hmore⟩ := Option.map_eq_some_iff.1 hanswer
      cases Answer.has_iff.2 hmore.symm
    | @added _ b output' found' more files ha hfiles hmore hb =>
      obtain ⟨more', hlint, rfl⟩ := Option.map_eq_some_iff.1 hanswer
      obtain ⟨rfl, hsame⟩ := hb.unique (Answer.has_iff.2 rfl)
      obtain rfl := hfiles.eq_linted
      have hlength : more.length = more'.length :=
        hmore.length_eq.symm.trans (lint_eq_some_iff.1 hlint).length_eq
      obtain ⟨rfl, rfl⟩ := List.append_inj' hsame hlength
      exact ⟨Answer.has_iff.1 ha, (lint_eq_some_iff_allFit hmore).1 hlint⟩
  · rintro ⟨rfl, hfit⟩
    obtain ⟨more, hmore⟩ := exists_converted
      (c.linted (c.compiler.program (canonicalInput input)) (canonicalInput input))
    rw [(lint_eq_some_iff_allFit hmore).2 hfit, Option.map_some]
    exact .added (Answer.has_iff.2 rfl) (c.linted_verified _ _) hmore (Answer.has_iff.2 rfl)

/-- A call with a linter stops or has an answer as the compiler does. -/
theorem compile_eq (c : LintingCompiler) (input : SortedMap String) :
    (∃ e, c.plain c.compiler.indexing input = .exception e ∧
      c.compile input = some (.exception e)) ∨
    ∃ output found, c.plain c.compiler.indexing input = .ofDiagnostics output found ∧
      c.compile input = (c.lint (c.compiler.program (canonicalInput input))
        (canonicalInput input)).map fun more => .ofDiagnostics output (found ++ more) := by
  rcases c.compiler.compiles_or_aborts (canonicalInput input) with ⟨r, hr⟩ | ⟨e, he⟩
  · exact .inr ⟨_, _, hr.compile_eq, compile_of_diagnostics hr.compile_eq⟩
  · exact .inl ⟨e, he.compile_eq, compile_of_exception he.compile_eq⟩

/-! ## Calls that index their paths in other orders -/

/-- An input whose paths have slashes is left as it is. -/
theorem canonicalInput_of_slashes (h : ∀ key ∈ input.keys, Path.canonical key = key) :
    canonicalInput input = input := by
  have hentries : input.entries.map (fun e => (Path.canonical e.1, e.2)) = input.entries := by
    refine (List.map_congr_left fun e he => ?_).trans (List.map_id _)
    rw [h e.1 (List.mem_map_of_mem he)]
    rfl
  show SortedMap.ofList (input.entries.map fun e => (Path.canonical e.1, e.2)) = input
  rw [hentries, SortedMap.ofList_entries]

/-- The files of a call are the same with slashes in their paths. -/
theorem ofCanonical_canonicalInput (input : SortedMap String) :
    FileSet.ofCanonical (canonicalInput input) = FileSet.ofCanonical input := by
  have hagain : canonicalInput (canonicalInput input) = canonicalInput input :=
    canonicalInput_of_slashes fun _ hkey => FileSet.canonical_of_mem_ofCanonical hkey
  show FileSet.ofMap (canonicalInput (canonicalInput input)) = FileSet.ofMap (canonicalInput input)
  rw [hagain]

/-- The answer of a compiler does not depend on the order of the index if the files of a call are
definite. -/
theorem compile_indexedBy (c : Compiler) (h : (FileSet.ofCanonical input).Definite)
    (i j : Indexing) : (c.indexedBy i).compile input = (c.indexedBy j).compile input := by
  have hhost (i : Indexing) : ((c.indexedBy i).files input).host =
      (VirtualFiles.ofMaps input c.external c.environment).host :=
    VirtualFiles.host_indexedBy h i
  have hprogram : (c.indexedBy i).program input = (c.indexedBy j).program input := by
    rw [Compiler.program, Compiler.program, hhost, hhost]
    rfl
  rw [Compiler.compile, Compiler.compile, hprogram]
  rfl

/-- **What a linter adds to a compilation.** The answer with a linter is what is made of the answer
of the compiler alone in another call exactly if the compiler gives this answer in the call with the
linter, too, and all offsets of messages are machine words. The first is so in all calls if the
files are definite, and without the second the call stops, if it is built so. A file that the linter
fails on has no part in this, and does not change what is made of the others. -/
theorem compile_promotes (c : LintingCompiler) (input : SortedMap String) :
    (∀ i, c.Promotes input (c.plain i input) (c.compile input) ↔
      c.plain i input = c.plain c.compiler.indexing input ∧
        ((∃ e, c.plain i input = .exception e) ∨
          c.AllFit (c.compiler.program (canonicalInput input)) (canonicalInput input))) ∧
    ((FileSet.ofCanonical input).Definite → ∀ i j, c.plain i input = c.plain j input) ∧
    (c.overflow = .stops → (c.compile input = none ↔
      ¬ ((∃ e, c.plain c.compiler.indexing input = .exception e) ∨
        c.AllFit (c.compiler.program (canonicalInput input)) (canonicalInput input)))) ∧
    ∀ fails files,
      c.Verified (c.compiler.program (canonicalInput input)) (canonicalInput input) files →
        (c.failingOn fails).Verified (c.compiler.program (canonicalInput input))
          (canonicalInput input) (files.filter fun f => !fails f.path) := by
  refine ⟨fun i => ?_, fun hdefinite i j => ?_, fun hstops => ?_,
    fun fails files hfiles => hfiles.failingOn fails⟩
  · rcases c.compile_eq input with ⟨e, hplain, hanswer⟩ | ⟨output, found, hplain, hanswer⟩
    · rw [hanswer, hplain, promotes_exception_iff]
      exact ⟨fun h => ⟨h, .inl ⟨e, h⟩⟩, fun h => h.1⟩
    · rw [hanswer, hplain, promotes_added_iff]
      refine and_congr_right fun h => (or_iff_right ?_).symm
      rintro ⟨e, he⟩
      cases Answer.has_iff.2 (he.symm.trans h)
  · exact compile_indexedBy c.compiler ((ofCanonical_canonicalInput input).symm ▸ hdefinite) i j
  · rcases c.compile_eq input with ⟨e, hplain, hanswer⟩ | ⟨output, found, hplain, hanswer⟩
    · simp [hanswer, hplain]
    · rw [hanswer, Option.map_eq_none_iff, lint_eq_none_iff hstops, not_iff_not, hplain]
      refine (or_iff_right ?_).symm
      rintro ⟨e, he⟩
      cases Answer.has_iff.2 he.symm

/-- A compiler with a linter that finds nothing. -/
def unlinted (c : Compiler) : LintingCompiler where
  compiler := c
  linter := fun _ _ _ _ => some []
  rules := .empty

/-- A compiler that checks its files and has no output. -/
def checkingOnly : Compiler := { options := { noEmit := true } }

/-- Two files that differ in case alone, and a file that imports one of them by a third spelling. -/
def competingInput : SortedMap String :=
  .ofList [("a.ts", "import { x } from './B';"), ("b.ts", "export const x = 1;"),
    ("B.TS", "export const y = 2;")]

/-- With a linter that finds nothing, a call that indexes one of the two files first has a failure,
which is not made of the success of the compiler in a call that indexes the other one first. -/
theorem competingInput_unpromoted :
    ((unlinted checkingOnly).plain (.first "b.ts") competingInput).isSuccess = true ∧
    ((unlinted checkingOnly).compile competingInput).map (fun a => a.diagnostics.map (·.code)) =
      some [.number 2305] ∧
    ¬ (unlinted checkingOnly).Promotes competingInput
        ((unlinted checkingOnly).plain (.first "b.ts") competingInput)
        ((unlinted checkingOnly).compile competingInput) := by
  have hplain :
      ((unlinted checkingOnly).plain (.first "b.ts") competingInput).isSuccess = true := by
    decide +kernel
  have hanswer : ((unlinted checkingOnly).compile competingInput).map
      (fun a => a.diagnostics.map (·.code)) = some [.number 2305] := by
    decide +kernel
  refine ⟨hplain, hanswer, fun h => ?_⟩
  generalize (unlinted checkingOnly).plain _ _ = a at hplain h
  generalize (unlinted checkingOnly).compile _ = answer at hanswer h
  cases h with
  | kept e => cases hplain
  | @added a b output found more files ha hfiles hmore hb =>
    -- nothing is found, so that the answer should be a success, too
    have hnone : files.flatMap LintedFile.placed = [] := by
      refine List.flatMap_eq_nil_iff.2 fun f hf => ?_
      obtain ⟨-, hmessages⟩ := (hfiles.mem_iff f).1 hf
      rw [LintedFile.placed, ← Option.some.inj hmessages, List.map_nil]
    rw [Converted, hnone, List.forall₂_nil_left_iff] at hmore
    subst hmore
    cases ha with
    | failure => cases hplain
    | success =>
      cases hb
      · cases hanswer
      · next hne => exact hne rfl

end LintingCompiler

end ScriptHost
