import ScriptHost.Proofs.Check.Places
import ScriptHost.Proofs.Compile.Lint
import ScriptHost.Proofs.Host.Spelling
import ScriptHost.Proofs.Program.Complete
import ScriptHost.Proofs.Source.RoundTrip
/-!
# Where diagnostics stand in the texts of the caller

What a check or a rule finds is a span of the text that was read. This text is
that of the caller but for a byte-order mark at its start, and the places that
are reported do not count the mark: in a text with one they stand too far to
the front, by the size of the mark.

- `Diagnostic.Covers`: a diagnostic is about what a span covers, but for a mark.
- `Finding.covers`: what a rule finds keeps its place on the way over lines and columns.
- `Compiler.Reported`: where a diagnostic of a compilation comes from.
- `LintingCompiler.ruled`: a compiler with the rules of this library.
- `LintingCompiler.compile_reported`: all diagnostics come from there.
-/

namespace ScriptHost

open SourceFile (ReadFrom markSize)

/-- A diagnostic about a source is about what a span covers in the text that was read from it. The
place of the diagnostic does not count the mark in front of this text. -/
structure Diagnostic.Covers (d : Diagnostic) (source text : String) (mark : Nat) (span : Span) :
    Prop where
  read : ReadFrom source text mark
  /-- There is nothing in front of the text unless the source starts with a mark. -/
  unmarked : markSize source = 0 → mark = 0
  place : ∃ start length, d.start = some start ∧ d.length = some length ∧
    Location.slice source (mark + start) length = span.bytes text

/-! ## Findings of rules -/

/-- **What a rule finds keeps its place** on the way over lines and columns of the source, from
which the text of the finding was read. -/
theorem Finding.covers (f : Finding) (rule path : String) (level : RuleLevel)
    {source text : String} {mark : Nat} (h : ReadFrom source text mark) :
    ((f.toMessage rule level source).diagnostic path source).Covers source text mark f.span := by
  obtain ⟨start, length, hrange⟩ :
      ∃ start length, SourceFile.range f.span = (start, length) := ⟨_, _, rfl⟩
  have hstart := f.toOffset_start rule level source
  have hstop := f.endOffset_toMessage rule level source
  rw [hrange] at hstart hstop
  refine ⟨h, h.eq_zero, _, _, rfl, rfl, ?_⟩
  rw [hstart, hstop, h.slice_min_eq, ← SourceFile.slice_range, hrange]

namespace Program

/-- The text of a file that is linted is that of the caller, but for a mark. -/
theorem readFrom_fileWithText (p : Program) (path source : String) :
    ∃ mark, ReadFrom source (p.fileWithText path source).text mark := by
  rw [fileWithText]
  split
  · split
    · next file _ htext => exact ⟨0, beq_iff_eq.1 htext ▸ .asIs⟩
    · exact ⟨_, .unmarked⟩
  · exact ⟨_, .unmarked⟩

/-- A message is about a text that cannot be read, about a rule that does not exist, or about a
finding of a rule. -/
theorem cases_of_mem_verify {p : Program} {rules : LintRules} {path source : String}
    {message : LintMessage} (h : message ∈ p.verify rules path source) :
    (∃ error, message = .ofSyntaxError error source) ∨
    (∃ name level, message = .unknownRule name level) ∨
    ∃ rule ∈ LintRule.all, ∃ finding ∈ rule.findings p (p.fileWithText path source), ∃ level,
      message = finding.toMessage (LintRules.space ++ rule.name) level source := by
  simp only [verify] at h
  split at h
  · exact .inl ⟨_, List.mem_singleton.1 h⟩
  · rw [(List.mergeSort_perm _ _).mem_iff] at h
    obtain ⟨⟨name, level⟩, -, hmem⟩ := List.mem_flatMap.1 h
    rw [ruleMessages] at hmem
    split at hmem
    · cases hmem
    · split at hmem
      · next rule hrule =>
        obtain ⟨finding, hfinding, rfl⟩ := List.mem_map.1 hmem
        rw [LintRule.named?] at hrule
        have hname : LintRules.space ++ rule.name = name := by simpa using List.find?_some hrule
        exact .inr (.inr ⟨rule, List.mem_of_find?_eq_some hrule, finding, hfinding, level,
          by rw [hname]⟩)
      · exact .inr (.inl ⟨name, level, List.mem_singleton.1 hmem⟩)

/-- The messages about a text in memory fit. -/
theorem fits_of_mem_verify {p : Program} {rules : LintRules} {path source : String}
    {message : LintMessage} (hsource : Addressable source)
    (h : message ∈ p.verify rules path source) : message.Fits source := by
  rcases cases_of_mem_verify h with ⟨error, rfl⟩ | ⟨name, level, rfl⟩ | ⟨rule, -, f, -, level, rfl⟩
  · exact ⟨Location.fits_ofOffset hsource _, fun place hplace => by cases hplace⟩
  · exact ⟨(by decide : 0 + 1 < Overflow.words), fun place hplace => by cases hplace⟩
  · exact f.fits_toMessage _ level hsource

end Program

/-! ## Diagnostics of compilations -/

namespace Compiler

/-- Where a diagnostic of a compilation with a linter comes from. -/
inductive Reported (c : Compiler) (rules : LintRules) (input : SortedMap String) :
    Diagnostic → Prop where
  /-- The factories have reported it. -/
  | factory {r : Compilation} {report : Report} : c.Compiles input r →
      report ∈ r.provided ++ r.files.flatMap FileRun.reports →
      Reported c rules input report.normalize
  /-- It is a syntax error of a checked file. -/
  | syntaxError {report : Report} : report ∈ (c.program input).syntaxErrors none →
      Reported c rules input report.normalize
  /-- It is about a flagged span of a checked file, in the text that is compiled for the file. -/
  | checked {d : Diagnostic} {file : SourceFile} {code : Nat} {span : Span} {source : String} :
      file ∈ (c.program input).checkedFiles none → (c.program input).Flagged file code span →
      CompiledText input c.external file.name source → file.text = SourceFile.withoutMark source →
      d.file = some file.name → d.code = .number code →
      d.Covers source file.text (markSize source) span → Reported c rules input d
  /-- It is a message about a file of the input that is about no finding of a rule. -/
  | unplaced {path source : String} {message : LintMessage} : (path, source) ∈ input.entries →
      message ∈ (c.program input).verify rules path source → message.messageId = none →
      Reported c rules input (message.diagnostic path source)
  /-- It is about what a rule has found in the text of a file of the input. -/
  | found {d : Diagnostic} {path source : String} {rule : LintRule} {finding : Finding}
      {mark : Nat} : (path, source) ∈ input.entries → rule ∈ LintRule.all →
      finding ∈ rule.findings (c.program input) ((c.program input).fileWithText path source) →
      d.file = some path → d.code = .text (LintRules.space ++ rule.name) →
      d.Covers source ((c.program input).fileWithText path source).text mark finding.span →
      Reported c rules input d

variable {c : Compiler} {rules : LintRules} {input : SortedMap String}

/-- A file of the program was read from the text that is compiled for it. -/
theorem compiledText_of_mem_files {file : SourceFile} (h : file ∈ (c.program input).files) :
    ∃ source, CompiledText input c.external file.name source ∧
      file.text = SourceFile.withoutMark source := by
  have hloaded := c.program_loaded input
  have hs : (c.setting input).host.Settled := (c.files input).host_settled
  have hname := hloaded.canonicalName_name hs (hloaded.has_iff.1 ⟨file, h, rfl⟩)
  have hv : (c.files input).Presents input c.external :=
    (VirtualFiles.ofMaps_presents input c.external c.environment).indexedBy c.indexing
  have htext := hv.compiledText file.name
  rw [show (c.files input).host.canonicalName file.name = file.name from hname] at htext
  refine ⟨_, htext, ?_⟩
  rw [hloaded.holds.files, program_host] at h
  obtain ⟨name, -, rfl⟩ := List.mem_map.1 h
  rfl

/-- The errors of a program are syntax errors or about flagged spans. -/
theorem reported_of_mem_preEmitErrors {report : Report}
    (h : report ∈ (c.program input).preEmitErrors) : c.Reported rules input report.normalize := by
  rw [Program.preEmitErrors] at h
  split at h
  · obtain ⟨file, hfile, hreport⟩ := List.mem_flatMap.1 h
    obtain ⟨code, span, hflagged, hat⟩ := Program.flagged_of_mem_fileErrors hreport
    obtain ⟨source, hsource, htext⟩ := compiledText_of_mem_files (List.mem_filter.1 hfile).1
    have hread : ReadFrom source file.text (markSize source) := htext ▸ .unmarked
    refine .checked hfile hflagged hsource htext hat.file hat.code
      ⟨hread, id, _, _, hat.start, hat.length, ?_⟩
    rw [hread.slice_eq, SourceFile.slice_range]
  · exact .syntaxError h

end Compiler

namespace LintingCompiler

/-- A compiler with the rules of this library. -/
def ruled (c : Compiler) (rules : LintRules) (o : Overflow) : LintingCompiler :=
  ⟨c, .ofRules, rules, o⟩

/-- The files of an input are in memory. -/
def InMemory (input : SortedMap String) : Prop :=
  ∀ path source, (path, source) ∈ (canonicalInput input).entries → Addressable source

variable {c : Compiler} {rules : LintRules} {o : Overflow} {input : SortedMap String}

/-- The messages about files in memory fit. -/
theorem allFit_ruled (h : InMemory input) (p : Program) :
    (ruled c rules o).AllFit p (canonicalInput input) := by
  intro path source messages hentry hmessages m hm
  obtain rfl := Option.some.inj hmessages
  exact Program.fits_of_mem_verify (h path source hentry) hm

/-- A diagnostic of a message tells its place, if sums that are no machine words stop a call or if
the message fits. -/
theorem eq_diagnostic {m : LintMessage} {path source : String} {d : Diagnostic}
    (h : m.diagnostic? o path source = some d) (hfits : o = .stops ∨ m.Fits source) :
    d = m.diagnostic path source := by
  have hfits : m.Fits source := by
    refine hfits.elim (fun hstops => ?_) id
    by_contra hnot
    rw [hstops, LintMessage.diagnostic?_stops_iff.2 hnot] at h
    cases h
  rw [LintMessage.diagnostic?_of_fits o path hfits] at h
  exact (Option.some.inj h).symm

/-- What the rules report is about their findings, or about none. -/
theorem reported_of_mem_lint {found : List Diagnostic} {d : Diagnostic}
    (h : (ruled c rules o).lint (c.program (canonicalInput input)) (canonicalInput input) =
      some found)
    (hwords : o = .stops ∨ InMemory input) (hd : d ∈ found) :
    c.Reported rules.qualified (canonicalInput input) d := by
  obtain ⟨path, source, messages, hentry, hmessages, m, hm, hdiagnostic⟩ :=
    exists_message_of_mem_lint h hd
  obtain rfl := Option.some.inj hmessages
  obtain rfl := eq_diagnostic hdiagnostic (hwords.imp_right fun hmemory =>
    Program.fits_of_mem_verify (hmemory path source hentry) hm)
  rcases Program.cases_of_mem_verify hm with
    ⟨error, rfl⟩ | ⟨name, level, rfl⟩ | ⟨rule, hrule, f, hf, level, rfl⟩
  · exact .unplaced hentry hm rfl
  · exact .unplaced hentry hm rfl
  · obtain ⟨mark, hread⟩ :=
      (c.program (canonicalInput input)).readFrom_fileWithText path source
    exact .found hentry hrule hf rfl rfl (f.covers _ _ _ hread)

/-- **Where diagnostics stand.** Every diagnostic of a compilation with the rules of this library is
reported by a factory, is a syntax error, or a message about no finding, or it is about the span of
a node: then it covers what the span covers, in the text that is compiled for the file or that the
caller gave for it, and its place is that of the span unless this text starts with a byte-order
mark, which the place does not count. For files in memory there is an answer, whatever is done with
sums that are no machine words. -/
theorem compile_reported (c : Compiler) (rules : LintRules) (o : Overflow)
    (input : SortedMap String) :
    (InMemory input → ∃ answer, (ruled c rules o).compile input = some answer) ∧
    ∀ answer, (ruled c rules o).compile input = some answer → o = .stops ∨ InMemory input →
      ∀ d ∈ answer.diagnostics, c.Reported rules.qualified (canonicalInput input) d := by
  rcases c.compiles_or_aborts (canonicalInput input) with ⟨r, hr⟩ | ⟨e, he⟩
  · have hanswer := compile_of_diagnostics (c := ruled c rules o) hr.compile_eq
    refine ⟨fun hmemory => ?_, fun answer hsome hwords d hd => ?_⟩
    · obtain ⟨found, hfound⟩ := exists_converted ((ruled c rules o).linted
        (c.program (canonicalInput input)) (canonicalInput input))
      have hlint := (lint_eq_some_iff_allFit hfound).2 (allFit_ruled hmemory _)
      exact ⟨_, hanswer.trans (congrArg (Option.map _) hlint)⟩
    · rw [hanswer] at hsome
      obtain ⟨found, hlint, rfl⟩ := Option.map_eq_some_iff.1 hsome
      rw [Answer.diagnostics_ofDiagnostics, List.mem_append] at hd
      rcases hd with hcompiled | hlinted
      · obtain ⟨report, hreport, rfl⟩ := List.mem_map.1 hcompiled
        rcases List.mem_append.1 hreport with hfactory | herror
        · exact .factory hr hfactory
        · exact Compiler.reported_of_mem_preEmitErrors herror
      · exact reported_of_mem_lint hlint hwords hlinted
  · have hanswer := compile_of_exception (c := ruled c rules o) he.compile_eq
    refine ⟨fun _ => ⟨_, hanswer⟩, fun answer hsome _ d hd => ?_⟩
    obtain rfl := Option.some.inj (hanswer.symm.trans hsome)
    cases hd

/-- A compiler that only checks, with a rule. -/
def checkingAny : LintingCompiler :=
  ruled Compiler.checking (.ofList [("no-explicit-any", .error)]) .wraps

/-- A text with wide characters and two ends of lines. -/
def wideText : String := "'é…';\r\nx as any;"

/-- A text that starts with a byte-order mark. -/
def markedText : String := "\ufeffx as any;"

/-- In a text without a mark, what is reported covers what was found. -/
theorem wideText_reported :
    InMemory (.ofList [("a.ts", wideText)]) ∧
    ∃ answer, checkingAny.compile (.ofList [("a.ts", wideText)]) = some answer ∧
      ∃ d ∈ answer.diagnostics,
        d.code = .text "@typescript-eslint/no-explicit-any" ∧ d.start = some 15 ∧
        d.length = some 3 ∧ Location.slice wideText 15 3 = Location.bytes "any" ∧
        Compiler.checking.Reported checkingAny.rules.qualified
          (canonicalInput (.ofList [("a.ts", wideText)])) d := by
  have hmemory : InMemory (.ofList [("a.ts", wideText)]) := by
    intro path source hentry
    obtain ⟨rfl, rfl⟩ := Prod.mk.inj (List.mem_singleton.1 hentry)
    show _ < _
    decide +kernel
  obtain ⟨hanswered, hreported⟩ := compile_reported Compiler.checking
    (.ofList [("no-explicit-any", .error)]) .wraps (.ofList [("a.ts", wideText)])
  obtain ⟨answer, hanswer⟩ := hanswered hmemory
  obtain ⟨d, hd, hcode, hstart, hlength⟩ :
      ∃ d ∈ ((checkingAny.compile (.ofList [("a.ts", wideText)])).map (·.diagnostics)).getD [],
        d.code = .text "@typescript-eslint/no-explicit-any" ∧ d.start = some 15 ∧
          d.length = some 3 := by
    decide +kernel
  rw [show checkingAny.compile _ = some answer from hanswer] at hd
  exact ⟨hmemory, answer, hanswer, d, hd, hcode, hstart, hlength, by decide +kernel,
    hreported answer hanswer (.inr hmemory) d hd⟩

/-- In a text with a mark, what is reported stands in front of what was found. -/
theorem markedText_misplaced :
    (checkingAny.compile (.ofList [("a.ts", markedText)])).map
        (fun answer => answer.diagnostics.map fun d => (d.code, d.start, d.length)) =
      some [(.number 2304, some 0, some 1),
        (.text "@typescript-eslint/no-explicit-any", some 5, some 3)] ∧
    Location.slice markedText 0 1 ≠ Location.bytes "x" ∧
    Location.slice markedText 5 3 ≠ Location.bytes "any" := by
  decide +kernel

end LintingCompiler

end ScriptHost
