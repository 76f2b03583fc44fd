import ScriptHost.Emit.File
import ScriptHost.Proofs.Compile.Success
/-!
# When a rewriting succeeds

A rewriting runs one factory on each file of its input and writes what the
factory leaves. Its answer depends on the factory and on what can be written,
and on nothing else: it does not ask whether the files could be read.

- `Program.Leaves`: the text that a factory leaves of a file.
- `Compiler.rewriteFiles_gives_iff`: what is written for the paths of an input.
- `Compiler.transform_eq_success_iff`: when the answer is a success, and which.
-/

namespace ScriptHost

namespace Action

/-- Writing a module gives its text, if it has one. -/
theorem gives_print {target : Target} {comments : Comments} {module : Node} {text : String} :
    (print target comments module).Gives text ↔ module.print? target comments = some text := by
  rw [gives_iff_yields, yields_print, and_iff_left rfl]

end Action

/-- A factory reports nothing on a file and leaves a module with the text. -/
def Program.Leaves (p : Program) (factory : Factory) (file : SourceFile) (text : String) : Prop :=
  ∃ module, (factory ⟨file, p.options⟩ file.module.resolve.1).Gives module ∧
    module.print? .esNext file.comments = some text

namespace Compiler

variable {p : Program} {c : Setting} {factory : Factory}

/-- **What is written**: for each path in turn, the text that the factory leaves of its file. -/
theorem rewriteFiles_gives_iff (h : p.Loaded c) {paths : List String}
    (hpaths : ∀ path ∈ paths, c.host.canonicalName path ∈ c.names p.log)
    {entries : List (String × String)} :
    (rewriteFiles p factory p.cache paths).Gives entries ↔
      entries.map (·.1) = paths ∧
        ∀ e ∈ entries, ∃ file, p.file? e.1 = some file ∧ p.Leaves factory file e.2 := by
  have hsetting := h.setting
  subst hsetting
  induction paths generalizing entries with
  | nil =>
    rw [rewriteFiles, Action.gives_pure, List.map_eq_nil_iff]
    constructor
    · rintro rfl
      exact ⟨rfl, List.forall_mem_nil _⟩
    · exact fun hentries => hentries.1.symm
  | cons path paths ih =>
    obtain ⟨hname, hnames⟩ := List.forall_mem_cons.1 hpaths
    have hname : p.host.canonicalName path ∈ p.setting.names p.log := hname
    have hfile := (h.file?_eq hname).1
    rw [rewriteFiles, h.holds.get_of_mem hname]
    simp only [Action.gives_bind, Action.gives_print, Action.gives_pure]
    constructor
    · rintro ⟨module, hmodule, text, htext, rest, hrest, rfl⟩
      obtain ⟨hkeys, hleaves⟩ := (ih hnames).1 hrest
      refine ⟨by rw [List.map_cons, hkeys], List.forall_mem_cons.2 ⟨?_, hleaves⟩⟩
      exact ⟨_, hfile, module, hmodule, htext⟩
    · rintro ⟨hkeys, hleaves⟩
      obtain ⟨⟨path', text⟩, rest, rfl, rfl, hrest⟩ := List.map_eq_cons_iff.1 hkeys
      obtain ⟨⟨file, hfile', module, hmodule, htext⟩, hleaves⟩ := List.forall_mem_cons.1 hleaves
      cases hfile.symm.trans hfile'
      exact ⟨module, hmodule, text, htext, rest, (ih hnames).2 ⟨hrest, hleaves⟩, rfl⟩

/-- What is written for the paths of an input has the paths as its keys. -/
theorem rewriteFiles_gives_entries_iff (c : Compiler) (input : SortedMap String)
    (factory : Factory) {entries : List (String × String)} :
    (rewriteFiles (c.program input) factory (c.program input).cache input.keys).Gives entries ↔
      entries.map (·.1) = input.keys ∧ ∀ e ∈ entries, ∃ file,
        (c.program input).file? e.1 = some file ∧ (c.program input).Leaves factory file e.2 :=
  rewriteFiles_gives_iff (c.program_loaded input) fun _ hpath => name_mem_of_mem_keys hpath

/-- **When a rewriting succeeds**: a factory is there, and neither it nor what provides it reports
anything. The errors of the grammar in the files of the input are not asked for. -/
theorem transform_eq_success_iff (c : Compiler) (input output : SortedMap String) :
    c.transform input = .success output ↔
      ∃ provider t factory rest, c.provider = some provider ∧
        (provider (c.program input)).Gives t ∧ t.before = factory :: rest ∧
          output.keys = input.keys ∧ ∀ e ∈ output.entries,
            ∃ file, (c.program input).file? e.1 = some file ∧
              (c.program input).Leaves factory file e.2 := by
  rw [transform, answer_eq_success_iff]
  constructor
  · intro h
    cases hprovider : c.provider with
    | none =>
      simp only [rewrite, hprovider] at h
      exact absurd h Action.not_gives_throw
    | some provider =>
      simp only [rewrite, hprovider] at h
      obtain ⟨t, ht, h⟩ := Action.gives_bind.1 h
      cases hbefore : t.before with
      | nil =>
        simp only [hbefore] at h
        exact absurd h Action.not_gives_throw
      | cons factory rest =>
        simp only [hbefore] at h
        obtain ⟨entries, hentries, h⟩ := Action.gives_bind.1 h
        have houtput := Action.gives_pure.1 h
        obtain ⟨hkeys, hleaves⟩ := (rewriteFiles_gives_entries_iff c input factory).1 hentries
        have hincreasing : entries.Pairwise (fun a b => a.1 < b.1) := by
          have hsorted : input.keys.Pairwise (· < ·) := List.pairwise_map.2 input.increasing
          exact List.pairwise_map.1 (hkeys ▸ hsorted)
        have hsame : output.entries = entries := houtput ▸ SortedMap.entries_ofList hincreasing
        refine ⟨provider, t, factory, rest, rfl, ht, hbefore, ?_, hsame ▸ hleaves⟩
        rw [SortedMap.keys, hsame, hkeys]
  · rintro ⟨provider, t, factory, rest, hprovider, ht, hbefore, hkeys, hleaves⟩
    simp only [rewrite, hprovider]
    refine Action.gives_bind.2 ⟨t, ht, ?_⟩
    simp only [hbefore]
    refine Action.gives_bind.2 ⟨output.entries, ?_, ?_⟩
    · exact (rewriteFiles_gives_entries_iff c input factory).2 ⟨hkeys, hleaves⟩
    · exact Action.gives_pure.2 output.ofList_entries

/-- A compiler whose only factory leaves every module as it is. -/
def copying : Compiler :=
  { provider := some fun _ => return { before := [fun _ module => return module] } }

/-- An input whose only file cannot be read. -/
def unreadable : SortedMap String := .ofList [("a.ts", "const = 1;")]

/-- A file that cannot be read is rewritten to an empty text, and the answer is a success. -/
theorem unreadable_rewritten :
    (∃ file, (copying.program unreadable).file? "a.ts" = some file ∧ file.syntaxErrors ≠ []) ∧
      (copying.transform unreadable).isSuccess = true ∧
        (copying.transform unreadable).output?.map (·.entries) = some [("a.ts", "")] := by
  refine ⟨?_, by decide +kernel, by decide +kernel⟩
  have herrors : ((copying.program unreadable).file? "a.ts").any
      (fun file => !file.syntaxErrors.isEmpty) = true := by
    decide +kernel
  obtain ⟨file, hfile, herrors⟩ := (Option.any_eq_true _ _).1 herrors
  exact ⟨file, hfile, by simpa using herrors⟩

end Compiler

end ScriptHost
