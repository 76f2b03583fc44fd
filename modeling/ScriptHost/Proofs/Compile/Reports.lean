import ScriptHost.Compile.Basic
import ScriptHost.Proofs.Emit.Run
/-!
# What a compilation reports

The diagnostics of a compilation are the reports of its factories, file after
file, and then the errors of its program. None is dropped, unless something
stops: then there is neither a text nor a diagnostic.

- `Compilation`, `Compiler.Compiles`: a compilation that does not stop.
- `Compiler.Aborts`: a compilation that stops.
- `Compiler.compile_eq_iff`: which answer a compilation has.
-/

namespace ScriptHost

/-- What a compilation leaves that does not stop. -/
structure Compilation where
  transformers : Transformers
  /-- What was reported while the factories were made. -/
  provided : List Report
  files : List FileRun

namespace Compilation

/-- The texts by path, in the order in which they were written. -/
def written (r : Compilation) : List (String × String) :=
  r.files.map fun f => (Path.canonical f.path, f.text)

/-- The texts by path. -/
def output (r : Compilation) : SortedMap String := .ofList r.written

/-- The texts of an emission are those that its files have written. -/
theorem output_eq (r : Compilation) {skipped : Bool} :
    (Emission.mk skipped (r.files.map FileRun.written)).output = r.output := by
  rw [Emission.output, output, written, List.map_map]
  rfl

/-- All that is reported in the compilation of a program, in order: on the making of the factories,
by the factories on each file, and by the checks of the program. -/
def reports (r : Compilation) (p : Program) : List Report :=
  r.provided ++ r.files.flatMap FileRun.reports ++ p.preEmitErrors

/-- The diagnostics of the compilation of a program. -/
def diagnostics (r : Compilation) (p : Program) : List Diagnostic :=
  (r.reports p).map Report.normalize

end Compilation

namespace Compiler

/-- A compilation does not stop: the factories are made, and all emitted files of the program have
their texts. -/
structure Compiles (c : Compiler) (input : SortedMap String) (r : Compilation) : Prop where
  provides : (c.transformers (c.program input)).Yields [] r.transformers r.provided
  emits : (c.program input).EmitsFiles r.transformers r.provided (c.program input).emitted r.files

/-- A compilation stops: where the factories are made, or at an emitted file. -/
inductive Aborts (c : Compiler) (input : SortedMap String) : Exception → Prop where
  | provider {e : Exception} :
      (c.transformers (c.program input)).Stops [] e → Aborts c input e
  | file {t : Transformers} {provided : List Report} {e : Exception} :
      (c.transformers (c.program input)).Yields [] t provided →
      (c.program input).StopsFiles t provided (c.program input).emitted e → Aborts c input e

variable {c : Compiler} {input : SortedMap String} {r : Compilation} {e : Exception}

/-- What the compilation of a program yields is what one leaves that does not stop. -/
theorem compileProgram_yields_iff {output : SortedMap String} {found : List Report} :
    (c.compileProgram (c.program input)).Yields [] output found ↔
      ∃ r, c.Compiles input r ∧ output = r.output ∧ found = r.reports (c.program input) := by
  simp only [compileProgram, Action.yields_bind, Action.yields_reportAll, Action.yields_pure,
    Program.emit_yields_iff, List.nil_append]
  constructor
  · rintro ⟨t, provided, _, ht, ⟨_, _, _, ⟨runs, hruns, rfl, rfl⟩, ⟨_, _, _, rfl, ⟨rfl, rfl⟩, rfl⟩,
      rfl⟩, rfl⟩
    exact ⟨⟨t, provided, runs⟩, ⟨ht, hruns⟩, Compilation.output_eq ⟨t, provided, runs⟩,
      by simp [Compilation.reports]⟩
  · rintro ⟨r, hr, rfl, rfl⟩
    refine ⟨r.transformers, r.provided, _, hr.provides, ⟨_, _, _, ⟨r.files, hr.emits, rfl, rfl⟩,
      ⟨(), _, _, rfl, ⟨r.output_eq, rfl⟩, rfl⟩, rfl⟩, ?_⟩
    simp [Compilation.reports]

/-- The compilation of a program stops where the making of the factories does, or an emission. -/
theorem compileProgram_stops_iff :
    (c.compileProgram (c.program input)).Stops [] e ↔ c.Aborts input e := by
  simp only [compileProgram, Action.stops_bind, Action.not_stops_reportAll, Action.not_stops_pure,
    Program.emit_stops_iff, List.nil_append, and_false, exists_const, or_false]
  constructor
  · rintro (hstops | ⟨t, provided, ht, hstops⟩)
    · exact .provider hstops
    · exact .file ht hstops
  · intro habort
    cases habort with
    | provider hstops => exact .inl hstops
    | file ht hstops => exact .inr ⟨_, _, ht, hstops⟩

/-- The answer of what does not stop. -/
theorem answer_of_yields {x : Action (SortedMap String)} {output : SortedMap String}
    {found : List Report} (h : x.Yields [] output found) :
    answer (x.run []) = .ofDiagnostics output (found.map Report.normalize) := by
  rw [Action.Yields] at h
  rw [h, answer, List.nil_append]

/-- The answer of what stops. -/
theorem answer_of_stops {x : Action (SortedMap String)} (h : x.Stops [] e) :
    answer (x.run []) = .exception e := by
  rw [Action.Stops] at h
  rw [h, answer]

/-- The answer of a compilation that does not stop. -/
theorem Compiles.compile_eq (h : c.Compiles input r) :
    c.compile input = .ofDiagnostics r.output (r.diagnostics (c.program input)) :=
  answer_of_yields (compileProgram_yields_iff.2 ⟨r, h, rfl, rfl⟩)

/-- The answer of a compilation that stops. -/
theorem Aborts.compile_eq (h : c.Aborts input e) : c.compile input = .exception e :=
  answer_of_stops (compileProgram_stops_iff.2 h)

/-- A compilation stops, or it does not. -/
theorem compiles_or_aborts (c : Compiler) (input : SortedMap String) :
    (∃ r, c.Compiles input r) ∨ ∃ e, c.Aborts input e := by
  rcases Action.yields_or_stops (c.compileProgram (c.program input)) [] with
    ⟨output, found, h⟩ | ⟨e, h⟩
  · obtain ⟨r, hr, -⟩ := compileProgram_yields_iff.1 h
    exact .inl ⟨r, hr⟩
  · exact .inr ⟨e, compileProgram_stops_iff.1 h⟩

/-- A compilation that emits nothing runs no factory on any file and has no text. -/
theorem Compiles.of_skipsEmit (h : c.Compiles input r)
    (hskips : (c.program input).skipsEmit = true) : r.files = [] ∧ r.output = .empty := by
  have hemits := h.emits
  rw [Program.emitted, if_pos hskips] at hemits
  have hfiles : r.files = [] := by
    cases hfiles : r.files with
    | nil => rfl
    | cons f files =>
      rw [hfiles] at hemits
      cases hemits
  exact ⟨hfiles, by rw [Compilation.output, Compilation.written, hfiles]; rfl⟩

/-- **Which answer a compilation has.** If something stops, it is the exception and nothing else.
Otherwise it has all that was reported, in order, and under each path the text that was written to
it last; it is a success exactly if nothing was reported. -/
theorem compile_eq_iff (c : Compiler) (input : SortedMap String) (answer : Answer) :
    c.compile input = answer ↔
      (∃ r, c.Compiles input r ∧
        answer = .ofDiagnostics r.output (r.diagnostics (c.program input)) ∧
        (∀ path, r.output.get? path = r.written.reverse.lookup path) ∧
        ((c.program input).skipsEmit = true → r.files = [] ∧ r.output = .empty)) ∨
      ∃ e, c.Aborts input e ∧ answer = .exception e := by
  constructor
  · rintro rfl
    rcases c.compiles_or_aborts input with ⟨r, hr⟩ | ⟨e, he⟩
    · exact .inl ⟨r, hr, hr.compile_eq, SortedMap.get?_ofList r.written, hr.of_skipsEmit⟩
    · exact .inr ⟨e, he, he.compile_eq⟩
  · rintro (⟨r, hr, rfl, -⟩ | ⟨e, he, rfl⟩)
    · exact hr.compile_eq
    · exact he.compile_eq

/-- A compiler that also emits files without types. -/
def allowingScripts : Compiler := { options := { allowJs := true, target := .esNext } }

/-- A file without types that stands where the output for another file goes. -/
def scriptBesideTyped : SortedMap String := .ofList [("a.js", "1;"), ("a.ts", "2;")]

/-- Of two texts that are written to one path, the answer does not have the earlier one. -/
theorem scriptBesideTyped_overwritten : ∃ r, allowingScripts.Compiles scriptBesideTyped r ∧
    allowingScripts.compile scriptBesideTyped = .success r.output ∧
    ∃ f ∈ r.files, ∀ e ∈ r.output.entries, e.2 ≠ f.text := by
  have hpasses : ((allowingScripts.program scriptBesideTyped).emit {}).passes
      (fun emission reports => reports.isEmpty && emission.written.any fun w =>
        emission.output.entries.all fun e => e.2 != w.2) = true := by
    decide +kernel
  have herrors : (allowingScripts.program scriptBesideTyped).preEmitErrors.isEmpty = true := by
    decide +kernel
  obtain ⟨emission, found, hemit, hcheck⟩ := Action.yields_of_passes hpasses
  simp only [Bool.and_eq_true, List.isEmpty_iff, List.any_eq_true, List.all_eq_true, bne_iff_ne]
    at hcheck
  obtain ⟨rfl, w, hw, hlost⟩ := hcheck
  obtain ⟨runs, hruns, rfl, hreports⟩ := Program.emit_yields_iff.1 hemit
  have hcompiles : allowingScripts.Compiles scriptBesideTyped ⟨{}, [], runs⟩ :=
    ⟨Action.yields_pure.2 ⟨rfl, rfl⟩, hruns⟩
  obtain ⟨f, hf, rfl⟩ := List.mem_map.1 hw
  rw [Compilation.output_eq ⟨{}, [], runs⟩] at hlost
  refine ⟨_, hcompiles, ?_, f, hf, hlost⟩
  rw [hcompiles.compile_eq, Compilation.diagnostics, Compilation.reports, ← hreports,
    List.isEmpty_iff.1 herrors]
  rfl

end Compiler

end ScriptHost
