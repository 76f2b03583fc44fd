import ScriptHost.Compile.Basic
import ScriptHost.Proofs.Program.Loading
/-!
# When a call succeeds

A call succeeds if what it runs ends with its texts and nothing was reported on
the way. The program of a call has a file for each path of its input.

- `Compiler.answer_eq_success_iff`: success is an end without a report.
- `Compiler.file?_of_mem_keys`: the file of a path of the input.
- `Compiler.compile_eq_success_iff`: when a compilation succeeds.
-/

namespace ScriptHost

namespace Action

/-- Reporting reports nothing exactly if there is nothing to report. -/
theorem gives_reportAll {found : List Report} : (reportAll found).Gives () ↔ found = [] := by
  rw [gives_iff_yields, yields_reportAll, eq_comm]

end Action

namespace Program

/-- The file of a path whose name is loaded is the file of that name. -/
theorem Loaded.file?_eq {p : Program} {c : Setting} (h : p.Loaded c) {path : String}
    (hname : c.host.canonicalName path ∈ c.names p.log) :
    p.file? path = some (c.host.file (c.host.canonicalName path)) ∧
      c.host.file (c.host.canonicalName path) ∈ p.files := by
  have hsetting := h.setting
  subst hsetting
  refine ⟨?_, h.holds.files ▸ List.mem_map_of_mem hname⟩
  obtain ⟨i, hi⟩ := List.mem_iff_getElem?.1 hname
  have hindex := h.holds.lookup_index_iff.2 hi
  rw [file?, fileNamed]
  show (p.index.lookup (p.setting.host.canonicalName path)).bind _ = _
  rw [hindex, Option.bind_some, h.holds.files, List.getElem?_map, hi]
  rfl

end Program

namespace Compiler

/-- Success is an end without a report. -/
theorem answer_eq_success_iff {x : Action (SortedMap String)} {output : SortedMap String} :
    answer (x.run []) = .success output ↔ x.Gives output := by
  unfold Action.Gives answer
  cases hx : x.run [] with
  | error e => simp
  | ok r =>
    obtain ⟨texts, reports⟩ := r
    cases reports with
    | nil => simp [Answer.ofDiagnostics]
    | cons report reports => simp [Answer.ofDiagnostics]

/-- What the program of a call is loaded from. -/
def setting (c : Compiler) (input : SortedMap String) : Setting :=
  ⟨(c.files input).host, c.options, input.keys ++ c.ambientRoots⟩

/-- The program of a call is loaded. -/
theorem program_loaded (c : Compiler) (input : SortedMap String) :
    (c.program input).Loaded (c.setting input) := by
  have hs : (c.setting input).host.Settled := (c.files input).host_settled
  exact Program.loaded_load hs

theorem program_host (c : Compiler) (input : SortedMap String) :
    (c.program input).host = (c.files input).host :=
  congrArg Setting.host (c.program_loaded input).setting

theorem program_options (c : Compiler) (input : SortedMap String) :
    (c.program input).options = c.options :=
  congrArg Setting.options (c.program_loaded input).setting

theorem program_roots (c : Compiler) (input : SortedMap String) :
    (c.program input).roots = input.keys ++ c.ambientRoots :=
  congrArg Setting.roots (c.program_loaded input).setting

/-- The name of a path of the input is loaded. -/
theorem name_mem_of_mem_keys {c : Compiler} {input : SortedMap String} {path : String}
    (h : path ∈ input.keys) :
    (c.setting input).host.canonicalName path ∈ (c.setting input).names (c.program input).log := by
  refine Setting.mem_names_iff.2 (.inl (List.mem_map_of_mem ?_))
  exact List.mem_append_left _ (List.mem_append_left _ h)

/-- The program of a call has a file for each path of its input. -/
theorem file?_of_mem_keys {c : Compiler} {input : SortedMap String} {path : String}
    (h : path ∈ input.keys) :
    ∃ file ∈ (c.program input).files, (c.program input).file? path = some file := by
  obtain ⟨hfile, hmem⟩ := (c.program_loaded input).file?_eq (name_mem_of_mem_keys h)
  exact ⟨_, hmem, hfile⟩

/-- **When a compilation succeeds**: nothing is reported by the factories, and the program has no
error. -/
theorem compile_eq_success_iff {c : Compiler} {input output : SortedMap String} :
    c.compile input = .success output ↔
      (c.program input).preEmitErrors = [] ∧
        ∃ t emission, (c.transformers (c.program input)).Gives t ∧
          ((c.program input).emit t).Gives emission ∧ emission.output = output := by
  rw [compile, answer_eq_success_iff, compileProgram]
  simp only [Action.gives_bind, Action.gives_pure]
  constructor
  · rintro ⟨t, ht, emission, hemission, _, herrors, houtput⟩
    exact ⟨Action.gives_reportAll.1 herrors, t, emission, ht, hemission, houtput⟩
  · rintro ⟨herrors, t, emission, ht, hemission, houtput⟩
    exact ⟨t, ht, emission, hemission, (), Action.gives_reportAll.2 herrors, houtput⟩

/-- A compilation that succeeds has found no error in any file that is checked. -/
theorem fileErrors_of_success {c : Compiler} {input output : SortedMap String}
    (h : c.compile input = .success output) {file : SourceFile}
    (hfile : file ∈ (c.program input).files) (hchecked : (c.program input).isChecked file = true) :
    (c.program input).fileErrors file = [] := by
  have herrors := (compile_eq_success_iff.1 h).1
  rw [Program.preEmitErrors] at herrors
  split at herrors
  · have hmem : file ∈ (c.program input).checkedFiles none :=
      List.mem_filter.2 ⟨hfile, by simpa using hchecked⟩
    exact List.flatMap_eq_nil_iff.1 herrors file hmem
  · next hsyntax => simp [herrors] at hsyntax

end Compiler

end ScriptHost
