import ScriptHost.Proofs.Program.Loading
/-!
# Complete programs

A program has every file that it needs, each of them once and under its own
name, and no other file.

- `Program.Reached`: the files that roots and the default library lead to.
- `Program.Complete`: a program has the files that it needs.
- `Program.load_complete`: loading comes to an end with a complete program.
-/

namespace ScriptHost

namespace Program

/-- The names to which the roots and the default library lead, by what is recorded. -/
inductive Reached (p : Program) : String → Prop where
  | root {path : String} : path ∈ p.roots → Reached p (p.host.canonicalName path)
  | defaultLib : p.host.exists? p.host.defaultLib = true →
      Reached p (p.host.canonicalName p.host.defaultLib)
  | follow {file specifier name : String} : Reached p file →
      p.recorded? file specifier = some (some (.file name)) → Reached p name

/-- A program has a file of a name. -/
def Has (p : Program) (name : String) : Prop := ∃ file ∈ p.files, file.name = name

/-- A program has the files that it needs. -/
structure Complete (p : Program) : Prop where
  /-- No two files have one name. -/
  nodup : (p.files.map (·.name)).Nodup
  /-- Each name is mapped to the place of its own file. -/
  index : ∀ name i, p.index.lookup name = some i ↔ (p.files[i]?).map (·.name) = some name
  roots : ∀ path ∈ p.roots, p.Has (p.host.canonicalName path)
  defaultLib : p.host.exists? p.host.defaultLib = true →
    p.Has (p.host.canonicalName p.host.defaultLib)
  /-- Every specifier of every file is recorded. -/
  recorded : ∀ file ∈ p.files, ∀ specifier ∈ file.specifiers,
    (p.recorded? file.name specifier).isSome = true
  /-- What is recorded leads to files of the program. -/
  targets : ∀ file specifier name, p.recorded? file specifier = some (some (.file name)) →
    p.Has name
  reached : ∀ file ∈ p.files, p.Reached file.name
  /-- Every file was read once, and nothing else was. -/
  cache : (p.cache.files.map (·.name)).Perm (p.files.map (·.name))

namespace Loaded

variable {c : Setting} {p : Program}

/-- The names of the files are the names that are loaded. -/
theorem names_files (h : p.Loaded c) : p.files.map (·.name) = c.names p.log := by
  rw [h.holds.files, List.map_map]
  exact List.map_id _

theorem has_iff (h : p.Loaded c) {name : String} : p.Has name ↔ name ∈ c.names p.log := by
  rw [← h.names_files, List.mem_map]
  rfl

/-- The names of the files are settled: each is known under itself. -/
theorem canonicalName_name (h : p.Loaded c) (hs : c.host.Settled) {name : String}
    (hname : name ∈ c.names p.log) : c.host.canonicalName name = name := by
  rcases Setting.mem_names_iff.1 hname with hstart | ⟨e, he, htarget⟩
  · obtain ⟨path, -, rfl⟩ := List.mem_map.1 hstart
    exact hs.canonicalName_canonicalName path
  · obtain ⟨before, -, hfollows⟩ := h.derived.of_mem he
    exact ((hfollows.finds htarget).settled hs).1

/-- A file is what was read under its name. -/
theorem file_eq (h : p.Loaded c) {file : SourceFile} (hfile : file ∈ p.files) :
    p.host.file file.name = file := by
  rw [h.holds.files] at hfile
  obtain ⟨name, -, rfl⟩ := List.mem_map.1 hfile
  rfl

theorem canonicalName_file (h : p.Loaded c) (hs : c.host.Settled) {file : SourceFile}
    (hfile : file ∈ p.files) : p.host.canonicalName file.name = file.name := by
  rw [show p.host = c.host from congrArg Setting.host h.setting]
  exact h.canonicalName_name hs (h.has_iff.1 ⟨file, hfile, rfl⟩)

/-- What is recorded is recorded for a file, under its name. -/
theorem mem_names_of_recorded (h : p.Loaded c) {file specifier : String}
    {answer : Option Resolution} (hrecorded : p.recorded? file specifier = some answer) :
    file ∈ c.names p.log := by
  obtain ⟨before, hbefore, hfollows⟩ := h.derived.of_mem (h.recorded?_eq_some_iff.1 hrecorded)
  exact (Setting.names_prefix ((List.prefix_append _ _).trans hbefore)).subset hfollows.loaded

/-- A name with which loading starts is that of a root or of the default library. -/
theorem reached_of_start (h : p.Loaded c) {name : String}
    (hname : name ∈ startNames c.host c.roots) : p.Reached name := by
  have hsetting := h.setting
  subst hsetting
  obtain ⟨path, hpath, rfl⟩ := List.mem_map.1 hname
  rcases List.mem_append.1 hpath with hroot | hlib
  · exact .root hroot
  · split at hlib
    · next hexists =>
      rw [List.mem_singleton.1 hlib]
      exact .defaultLib hexists
    · cases hlib

/-- Whatever is loaded after the first lookups is reached, by induction on how many these are. -/
theorem reached_of_prefix (h : p.Loaded c) {before : List Lookup} (hbefore : before <+: p.log)
    {name : String} (hname : name ∈ c.names before) : p.Reached name := by
  induction before using List.reverseRecOn generalizing name with
  | nil =>
    rcases Setting.mem_names_iff.1 hname with hstart | ⟨e, he, -⟩
    · exact h.reached_of_start hstart
    · cases he
  | append_singleton before e ih =>
    have hprefix : before <+: p.log := (List.prefix_append _ _).trans hbefore
    rcases Setting.mem_names_iff.1 hname with hstart | ⟨e', he', htarget⟩
    · exact h.reached_of_start hstart
    · rcases List.mem_append.1 he' with hold | hnew
      · exact ih hprefix (Setting.mem_names_iff.2 (.inr ⟨e', hold, htarget⟩))
      · rw [List.mem_singleton.1 hnew] at htarget
        have hfile := ih hprefix (h.derived before e hbefore).loaded
        have hlog : (⟨e.file, e.specifier, e.answer⟩ : Lookup) ∈ p.log :=
          hbefore.subset (List.mem_append_right _ List.mem_cons_self)
        rw [Lookup.target?_eq_some_iff.1 htarget] at hlog
        exact .follow hfile (h.recorded?_eq_some_iff.2 hlog)

/-- A loaded program is complete. -/
theorem complete (h : p.Loaded c) : p.Complete := by
  have hsetting := h.setting
  subst hsetting
  have hstart {path : String} (hpath : path ∈ startPaths p.host p.roots) :
      p.Has (p.host.canonicalName path) :=
    h.has_iff.2 (Setting.mem_names_iff.2 (.inl (List.mem_map_of_mem hpath)))
  have hown (file : SourceFile) (hfile : file ∈ p.files) : file.name ∈ p.setting.names p.log :=
    h.has_iff.1 ⟨file, hfile, rfl⟩
  constructor
  case nodup => exact h.names_files ▸ h.holds.nodup
  case index =>
    intro name i
    rw [h.holds.lookup_index_iff, ← List.getElem?_map, h.names_files]
  case roots => exact fun path hpath => hstart (List.mem_append_left _ hpath)
  case defaultLib =>
    intro hexists
    refine hstart (List.mem_append_right _ ?_)
    rw [if_pos hexists]
    exact List.mem_cons_self
  case recorded =>
    intro file hfile specifier hspecifier
    obtain ⟨answer, hanswer⟩ :=
      h.exists_recorded (hown file hfile) ((h.file_eq hfile).symm ▸ hspecifier)
    rw [hanswer]
    rfl
  case targets =>
    intro file specifier name hrecorded
    refine h.has_iff.2 (Setting.mem_names_iff.2 (.inr ?_))
    exact ⟨_, h.recorded?_eq_some_iff.1 hrecorded, Lookup.target?_eq_some_iff.2 rfl⟩
  case reached => exact fun file hfile => h.reached_of_prefix List.prefix_rfl (hown file hfile)
  case cache =>
    rw [h.holds.cache, h.holds.files, List.map_reverse]
    exact List.reverse_perm _

end Loaded

/-- Loading stops: a run that is long enough empties the queue, and a longer one changes nothing. -/
def Stops (c : Setting) : Prop :=
  ∀ fuel, Loading.bound c.host c.roots ≤ fuel →
    ((Loading.start c.host c.options c.roots).run fuel).queue = [] ∧
      ((Loading.start c.host c.options c.roots).run fuel).program =
        load c.host c.options c.roots

/-- A run of loading that is as long as there can be files is as good as a longer one. -/
theorem stops (hs : c.host.Settled) : Stops c := by
  intro fuel hfuel
  obtain ⟨more, rfl⟩ := Nat.exists_eq_add_of_le hfuel
  refine ⟨(loaded_run hs hfuel).1, ?_⟩
  rw [Loading.run_add, Loading.run_of_queue_eq_nil (loaded_run hs (Nat.le_refl _)).1, load]

/-- **Loading is complete.** Whatever the files, the roots and the options are, loading comes to an
end, and the program that it leaves has the files that it needs and no others. -/
theorem load_complete (v : VirtualFiles) (options : CompilerOptions) (roots : List String) :
    Stops ⟨v.host, options, roots⟩ ∧
      (load v.host options roots).setting = ⟨v.host, options, roots⟩ ∧
        (load v.host options roots).Complete := by
  have hs : (Setting.mk v.host options roots).host.Settled := v.host_settled
  exact ⟨stops hs, (loaded_load hs).setting, (loaded_load hs).complete⟩

end Program

end ScriptHost
