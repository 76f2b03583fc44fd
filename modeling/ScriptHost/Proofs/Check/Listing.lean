import ScriptHost.Proofs.Check.Places
import ScriptHost.Proofs.Data.StableSort
import ScriptHost.Proofs.Host.Spelling
import ScriptHost.Proofs.Program.Complete
/-!
# How errors are listed

The errors of a program are those of its files, one file after the other, as no
two of them have one name. Which files are checked is decided for each file by
itself: none that is there to depend on, and a file that is nowhere has an empty
text, in which nothing is wrong. So all errors are about files to compile.

- `Program.checkedFiles_name`: a file asked for under its name is checked alone, if at all.
- `Program.pairwise_fileErrors`, `Program.filter_fileErrors`: the errors of a file are in the order
  of their places, and those at one place as they were found.
- `Program.Loaded.held_of_error`: a checked file with an error is one of the input.
- `Program.ListsErrors`, `Program.load_listsErrors`: how the errors of a program are listed.
-/

namespace ScriptHost

/-! ## Empty texts -/

/-- In an empty text nothing is wrong, in any language. -/
theorem parseModule_empty (dialect : Dialect) :
    (parseModule dialect "").issues = [] ∧ (parseModule dialect "").module.children = [] ∧
      (parseModule dialect "").module.resolve.1.unbound = [] := by
  obtain ⟨typed, markup, ambient⟩ := dialect
  cases typed <;> cases markup <;> cases ambient <;> decide +kernel

/-- A file with an empty text has no errors of the grammar, no items and no names. -/
theorem SourceFile.parse_empty (name : String) :
    (parse name "").syntaxErrors = [] ∧ (parse name "").items = [] ∧
      (parse name "").module.resolve.1.unbound = [] := by
  have hmark : withoutMark "" = "" := by decide
  obtain ⟨hissues, hitems, hunbound⟩ := parseModule_empty (Dialect.ofName name)
  simp only [parse, items, hmark, hissues, hitems, hunbound, List.map_nil, and_self]

/-- A path with slashes that does not exist has an empty text. -/
theorem VirtualFiles.sourceText_of_not_exists {v : VirtualFiles} {path : String}
    (hslash : Path.canonical path = path) (h : v.host.exists? path = false) :
    v.host.sourceText path = "" := by
  have hkey : ((v.input.key? path).or (v.external.key? path)).isSome = false := by
    rw [← hslash]
    exact h
  rw [Option.isSome_or, Bool.or_eq_false_iff, ← FileSet.isSome_text?, ← FileSet.isSome_text?,
    Option.isSome_eq_false_iff, Option.isSome_eq_false_iff, Option.isNone_iff_eq_none,
    Option.isNone_iff_eq_none] at hkey
  show ((v.external.text? path).or (v.input.text? path)).getD "" = ""
  rw [hkey.1, hkey.2]
  rfl

namespace Program

variable {p : Program} {f : SourceFile} {c : Setting}

theorem fileErrors_parse_empty (name : String) : p.fileErrors (.parse name "") = [] := by
  obtain ⟨-, hitems, hunbound⟩ := SourceFile.parse_empty name
  rw [fileErrors, checkImports, checkSpecifiers, SourceFile.specifierNodes, hitems, checkNames,
    hunbound, List.filterMap_nil, List.filterMap_nil, List.flatMap_nil, List.filter_nil,
    List.map_nil, List.append_nil, List.append_nil, List.mergeSort_nil, ite_self]

/-! ## One file after the other -/

theorem mem_checkedFiles_none : f ∈ p.checkedFiles none ↔ f ∈ p.files ∧ p.isChecked f = true := by
  rw [checkedFiles, Option.map_none, List.mem_filter, Option.all_none, Bool.true_and]

/-- A file asked for under its own name is the one that is checked, if it is checked at all. -/
theorem checkedFiles_name (hnodup : (p.files.map (·.name)).Nodup) (hf : f ∈ p.files)
    (hname : p.host.canonicalName f.name = f.name) :
    p.checkedFiles (some f.name) = [f].filter p.isChecked := by
  obtain ⟨before, after, hfiles⟩ := List.append_of_mem hf
  rw [hfiles, List.map_append, List.map_cons, List.nodup_append, List.nodup_cons] at hnodup
  obtain ⟨-, ⟨hafter, -⟩, hbefore⟩ := hnodup
  -- a file of that name on either side would have the name twice
  have hother : ∀ g ∈ before ++ after, (f.name == g.name && p.isChecked g) = false := by
    intro g hg
    rw [Bool.and_eq_false_iff, beq_eq_false_iff_ne]
    refine .inl fun heq => ?_
    rcases List.mem_append.1 hg with hg | hg
    · exact hbefore g.name (List.mem_map_of_mem hg) f.name List.mem_cons_self heq.symm
    · exact hafter (heq ▸ List.mem_map_of_mem hg)
  have hnone {l : List SourceFile} (hl : l ⊆ before ++ after) :
      l.filter (fun g => f.name == g.name && p.isChecked g) = [] :=
    List.filter_eq_nil_iff.2 fun g hg => Bool.eq_false_iff.1 (hother g (hl hg))
  simp only [checkedFiles, Option.map_some, Option.all_some, hname, hfiles, List.filter_append,
    List.filter_cons, hnone (List.subset_append_left _ _), hnone (List.subset_append_right _ _),
    beq_self_eq_true, Bool.true_and, List.nil_append, List.filter_nil]

/-- What is listed for a file asked for alone is what is listed for it, if it is checked. -/
theorem flatMap_checkedFiles_name {α : Type} (hnodup : (p.files.map (·.name)).Nodup)
    (hf : f ∈ p.files) (hname : p.host.canonicalName f.name = f.name)
    (errors : SourceFile → List α) :
    (p.checkedFiles (some f.name)).flatMap errors =
      if p.isChecked f = true then errors f else [] := by
  rw [checkedFiles_name hnodup hf hname, List.filter_singleton]
  cases p.isChecked f with
  | true => rw [cond_true, List.flatMap_singleton, if_pos rfl]
  | false => rfl

/-- The checked files are those of each file asked for alone, one after the other. -/
theorem checkedFiles_none (hnodup : (p.files.map (·.name)).Nodup)
    (hname : ∀ f ∈ p.files, p.host.canonicalName f.name = f.name) :
    p.checkedFiles none = p.files.flatMap fun f => p.checkedFiles (some f.name) := by
  have halone : ∀ f ∈ p.files, p.checkedFiles (some f.name) = [f].filter p.isChecked :=
    fun f hf => checkedFiles_name hnodup hf (hname f hf)
  -- filtering one file after the other is filtering all of them
  rw [List.flatMap_def, List.map_congr_left halone, ← List.flatMap_def, ← List.filter_flatMap,
    List.flatMap_singleton']
  rfl

/-! ## The errors of a file -/

theorem startsBy_trans (a b c : Report) (hab : startsBy a b = true) (hbc : startsBy b c = true) :
    startsBy a c = true := by
  cases ha : a.start <;> cases hb : b.start <;> cases hc : c.start <;>
    simp_all [startsBy]
  omega

theorem startsBy_total (a b : Report) : (startsBy a b || startsBy b a) = true := by
  cases ha : a.start <;> cases hb : b.start <;> simp [startsBy, ha, hb]
  omega

/-- The errors of a file stand in the order of their places. -/
theorem pairwise_fileErrors (p : Program) (f : SourceFile) :
    ∃ starts : List Nat, (p.fileErrors f).map (·.start) = starts.map some ∧
      starts.Pairwise (· ≤ ·) := by
  have hstart : ∀ report ∈ p.fileErrors f, report.start = some (report.start.getD 0) := by
    intro report hreport
    obtain ⟨code, span, -, hat⟩ := flagged_of_mem_fileErrors hreport
    rw [hat.start, Option.getD_some]
  -- a report without a start would come first, but there is none
  have hsorted : (p.fileErrors f).Pairwise fun a b => startsBy a b = true := by
    rw [fileErrors]
    split
    · exact .nil
    · exact List.pairwise_mergeSort startsBy_trans startsBy_total _
  refine ⟨(p.fileErrors f).map fun report => report.start.getD 0, ?_, ?_⟩
  · rw [List.map_map]
    exact List.map_congr_left hstart
  · refine List.pairwise_map.2 (hsorted.imp_of_mem fun {a b} ha hb hab => ?_)
    rw [startsBy, hstart a ha, hstart b hb] at hab
    simpa using hab

/-- Errors with one start stay in the order in which they were found, as sorting is stable. -/
theorem filter_fileErrors (hscript : f.isJavaScript = false) (start : Option Nat) :
    (p.fileErrors f).filter (·.start == start) =
      (p.checkImports f ++ p.checkNames f).filter (·.start == start) := by
  have herrors : p.fileErrors f = (p.checkImports f ++ p.checkNames f).mergeSort startsBy :=
    if_neg (Bool.eq_false_iff.1 hscript)
  rw [herrors, filter_mergeSort startsBy_trans startsBy_total]
  -- what has one start is in order already
  refine List.mergeSort_of_pairwise (List.pairwise_iff_forall_sublist.2 fun {a b} hab => ?_)
  have ha : a.start = start := by
    simpa using (List.mem_filter.1 (hab.subset List.mem_cons_self)).2
  have hb : b.start = start := by
    simpa using (List.mem_filter.1 (hab.subset (List.mem_cons_of_mem _ List.mem_cons_self))).2
  rw [startsBy, ha, hb]
  cases start <;> simp

/-! ## Programs over two maps -/

/-- The numbers of the errors about imports and names. -/
def semanticCodes : List Nat := [2304, 2305, 2306, 2307, 1192]

theorem Flagged.mem_semanticCodes {code : Nat} {span : Span} (h : p.Flagged f code span) :
    code ∈ semanticCodes := by
  cases h with
  | specifier => decide
  | script => decide
  | member => split <;> decide
  | name => decide

/-- An error of the grammar is about a checked file. -/
theorem Loaded.of_mem_syntaxErrors (h : p.Loaded c) {report : Report}
    (hreport : report ∈ p.syntaxErrors none) :
    report.code = .number 1005 ∧ ∃ f ∈ p.checkedFiles none,
      report.file = some f.name ∧ f.syntaxErrors ≠ [] := by
  obtain ⟨f, hf, hmem⟩ := List.mem_flatMap.1 hreport
  have hne : f.syntaxErrors ≠ [] := List.ne_nil_of_mem hmem
  rw [← h.file_eq (mem_checkedFiles_none.1 hf).1] at hmem
  obtain ⟨issue, -, rfl⟩ := List.mem_map.1 hmem
  exact ⟨rfl, f, hf, rfl, hne⟩

/-- An error about imports or names is about a checked file with types. -/
theorem of_mem_semanticErrors {report : Report} (hreport : report ∈ p.semanticErrors none) :
    (∃ code ∈ semanticCodes, report.code = .number code) ∧ ∃ f ∈ p.checkedFiles none,
      report.file = some f.name ∧ p.fileErrors f ≠ [] ∧ Path.isJavaScript f.name = false := by
  obtain ⟨f, hf, hmem⟩ := List.mem_flatMap.1 hreport
  have hne : p.fileErrors f ≠ [] := List.ne_nil_of_mem hmem
  have htyped : Path.isJavaScript f.name = false := by
    rw [Bool.eq_false_iff]
    exact fun hscript => hne (if_pos hscript)
  obtain ⟨code, span, hflagged, hat⟩ := flagged_of_mem_fileErrors hmem
  exact ⟨⟨code, hflagged.mem_semanticCodes, hat.code⟩, f, hf, hat.file, hne, htyped⟩

/-- How the errors of a program are listed, when it has the files of some input to compile. -/
structure ListsErrors (p : Program) (input : SortedMap String) : Prop where
  /-- The errors of all files are those of each file asked for alone, in the order of the files. -/
  syntaxErrors : p.syntaxErrors none = p.files.flatMap fun f => p.syntaxErrors (some f.name)
  semanticErrors : p.semanticErrors none = p.files.flatMap fun f => p.semanticErrors (some f.name)
  /-- The errors of the grammar of one file are those found by reading it, if it is checked. -/
  parsed : ∀ f ∈ p.files, p.syntaxErrors (some f.name) =
    if p.isChecked f = true then f.syntaxErrors else []
  /-- The errors about its imports and names are those found by checking it, if it is checked and
  has types; at one place the errors about imports come first. -/
  found : ∀ f ∈ p.files, ∀ start, (p.semanticErrors (some f.name)).filter (·.start == start) =
    if p.isChecked f = true ∧ f.isJavaScript = false then
      (p.checkImports f).filter (·.start == start) ++ (p.checkNames f).filter (·.start == start)
    else []
  /-- They are in the order of their places. -/
  ordered : ∀ f ∈ p.files, ∃ starts : List Nat,
    (p.semanticErrors (some f.name)).map (·.start) = starts.map some ∧ starts.Pairwise (· ≤ ·)
  /-- Each error is about a file that the input holds, and about no declarations if these are not
  checked. -/
  file : ∀ report ∈ p.syntaxErrors none ++ p.semanticErrors none, ∃ f ∈ p.files,
    report.file = some f.name ∧ (∃ key ∈ input.keys, Path.fold key = Path.fold f.name) ∧
      (p.options.skipLibCheck = true → Path.isDeclaration f.name = false)
  typed : ∀ report ∈ p.semanticErrors none, ∀ name, report.file = some name →
    Path.isJavaScript name = false
  /-- The codes tell the errors of the grammar from the others. -/
  syntaxCode : ∀ report ∈ p.syntaxErrors none, report.code = .number 1005
  semanticCode : ∀ report ∈ p.semanticErrors none, ∃ code ∈ semanticCodes,
    report.code = .number code
  /-- A compilation reports one of the two lists, and the first one if anything is in it. -/
  readable : (∀ f ∈ p.checkedFiles none, f.syntaxErrors = []) →
    p.preEmitErrors = p.semanticErrors none
  unreadable : (∃ f ∈ p.checkedFiles none, f.syntaxErrors ≠ []) →
    p.preEmitErrors = p.syntaxErrors none

variable {v : VirtualFiles} {input external : SortedMap String}

/-- **A file with an error is one to compile**: others are not checked, or have an empty text. -/
theorem Loaded.held_of_error (h : p.Loaded c) (hhost : c.host = v.host)
    (hv : v.Presents input external) (hf : f ∈ p.checkedFiles none)
    (herror : f.syntaxErrors ≠ [] ∨ p.fileErrors f ≠ []) :
    ∃ key ∈ input.keys, Path.fold key = Path.fold f.name := by
  obtain ⟨hmem, hchecked⟩ := mem_checkedFiles_none.1 hf
  have hs : c.host.Settled := hhost ▸ v.host_settled
  have hphost : p.host = v.host := (congrArg Setting.host h.setting).trans hhost
  have hname : v.host.canonicalName f.name = f.name := hphost ▸ h.canonicalName_file hs hmem
  rcases hv.held_or_isLibrary_or_missing f.name with hheld | hlibrary | hmissing
  · exact hheld
  · rw [hname] at hlibrary
    rw [isChecked, hphost, hlibrary] at hchecked
    cases hchecked
  · -- what is compiled for a path that does not exist is an empty text
    have hslash : Path.canonical f.name = f.name := hname ▸ (v.canonicalName_spec f.name).1
    have hparse : f = .parse f.name "" := by
      rw [← VirtualFiles.sourceText_of_not_exists hslash hmissing, ← hphost]
      exact (h.file_eq hmem).symm
    rw [hparse, (SourceFile.parse_empty f.name).1, fileErrors_parse_empty] at herror
    simp at herror

/-- How the errors of a loaded program are listed. -/
theorem Loaded.listsErrors (h : p.Loaded c) (hhost : c.host = v.host)
    (hv : v.Presents input external) : p.ListsErrors input := by
  have hs : c.host.Settled := hhost ▸ v.host_settled
  have hname : ∀ f ∈ p.files, p.host.canonicalName f.name = f.name :=
    fun _ hf => h.canonicalName_file hs hf
  have hnone := checkedFiles_none h.complete.nodup hname
  have halone (f : SourceFile) (hf : f ∈ p.files) :
      p.semanticErrors (some f.name) = if p.isChecked f = true then p.fileErrors f else [] :=
    flatMap_checkedFiles_name h.complete.nodup hf (hname f hf) p.fileErrors
  have habout {f : SourceFile} {report : Report} (hf : f ∈ p.checkedFiles none)
      (hfile : report.file = some f.name) (herror : f.syntaxErrors ≠ [] ∨ p.fileErrors f ≠ []) :
      ∃ f ∈ p.files, report.file = some f.name ∧
        (∃ key ∈ input.keys, Path.fold key = Path.fold f.name) ∧
          (p.options.skipLibCheck = true → Path.isDeclaration f.name = false) := by
    obtain ⟨hmem, hchecked⟩ := mem_checkedFiles_none.1 hf
    refine ⟨f, hmem, hfile, h.held_of_error hhost hv hf herror, fun hskip => ?_⟩
    rw [isChecked, hskip, Bool.not_true, Bool.or_false, Bool.and_eq_true] at hchecked
    exact (Bool.not_eq_true' _).mp hchecked.2
  constructor
  case syntaxErrors => rw [syntaxErrors, hnone, List.flatMap_assoc]; rfl
  case semanticErrors => rw [semanticErrors, hnone, List.flatMap_assoc]; rfl
  case parsed =>
    exact fun f hf => flatMap_checkedFiles_name h.complete.nodup hf (hname f hf) (·.syntaxErrors)
  case found =>
    intro f hf start
    rw [halone f hf]
    by_cases hlisted : p.isChecked f = true ∧ f.isJavaScript = false
    · rw [if_pos hlisted, if_pos hlisted.1, filter_fileErrors hlisted.2, List.filter_append]
    · rw [if_neg hlisted]
      split
      · next hchecked =>
        have hscript : f.isJavaScript = true := by simpa [hchecked] using hlisted
        rw [fileErrors, if_pos hscript, List.filter_nil]
      · rfl
  case ordered =>
    intro f hf
    rw [halone f hf]
    split
    · exact pairwise_fileErrors p f
    · exact ⟨[], rfl, .nil⟩
  case file =>
    intro report hreport
    rcases List.mem_append.1 hreport with hsyntax | hsemantic
    · obtain ⟨-, f, hf, hfile, herror⟩ := h.of_mem_syntaxErrors hsyntax
      exact habout hf hfile (.inl herror)
    · obtain ⟨-, f, hf, hfile, herror, -⟩ := of_mem_semanticErrors hsemantic
      exact habout hf hfile (.inr herror)
  case typed =>
    intro report hreport name hreportName
    obtain ⟨-, f, -, hfile, -, htyped⟩ := of_mem_semanticErrors hreport
    rwa [Option.some.inj (hreportName.symm.trans hfile)]
  case syntaxCode => exact fun report hreport => (h.of_mem_syntaxErrors hreport).1
  case semanticCode => exact fun report hreport => (of_mem_semanticErrors hreport).1
  case readable =>
    intro hreadable
    rw [preEmitErrors, show p.syntaxErrors none = [] from List.flatMap_eq_nil_iff.2 hreadable]
    rfl
  case unreadable =>
    rintro ⟨f, hf, herror⟩
    have hne : p.syntaxErrors none ≠ [] := fun hnil =>
      herror (List.flatMap_eq_nil_iff.1 hnil f hf)
    rw [preEmitErrors, List.isEmpty_eq_false_iff.2 hne]
    rfl

/-- **How errors are listed**, in any program over two sets of files. -/
theorem load_listsErrors (hv : v.Presents input external) (options : CompilerOptions)
    (roots : List String) : (load v.host options roots).ListsErrors input := by
  have hs : (Setting.mk v.host options roots).host.Settled := v.host_settled
  exact (loaded_load hs).listsErrors rfl hv

/-- A file with an error of the grammar and one with an error about a name. -/
def mixedErrors : SortedMap String := .ofList [("a.ts", "const = 1;"), ("b.ts", "z;")]

/-- Next to a library with an error of its own, only the one of the grammar is reported. -/
theorem mixedErrors_listed :
    (VirtualFiles.ofMaps mixedErrors (.ofList [("l.d.ts", "const = 1;")]) {}).Presents mixedErrors
        (.ofList [("l.d.ts", "const = 1;")]) ∧
      (load (VirtualFiles.ofMaps mixedErrors (.ofList [("l.d.ts", "const = 1;")]) {}).host {}
        ["a.ts", "b.ts", "l.d.ts"]).ListsErrors mixedErrors ∧
      (load (VirtualFiles.ofMaps mixedErrors (.ofList [("l.d.ts", "const = 1;")]) {}).host {}
        ["a.ts", "b.ts", "l.d.ts"]).preEmitErrors.map (fun report => (report.file, report.code)) =
          [(some "a.ts", .number 1005)] := by
  have hv := VirtualFiles.ofMaps_presents mixedErrors (.ofList [("l.d.ts", "const = 1;")]) {}
  exact ⟨hv, load_listsErrors hv {} ["a.ts", "b.ts", "l.d.ts"], by decide +kernel⟩

end Program

end ScriptHost
