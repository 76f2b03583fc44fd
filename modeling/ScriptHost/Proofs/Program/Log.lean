import ScriptHost.Proofs.Program.Files
import ScriptHost.Proofs.Program.Resolution
/-!
# What was found in which order

Loading resolves one specifier after another. All that it does follows from
what was found so far: the files that are loaded by then, the modules that
these declare, and with them what the next specifier leads to.

- `Lookup`: what a specifier of a file was found to refer to.
- `Program.log`: what was found for a program, in order.
- `Setting.names`: the names of the files that are loaded after some lookups.
- `Setting.Derived`: lookups each of which follows from those before it.
- `Setting.length_names_le`: there are never more files than the bound of loading.
-/

namespace ScriptHost

/-- What a specifier of a file was found to refer to. -/
structure Lookup where
  file : String
  specifier : String
  answer : Option Resolution

namespace Lookup

/-- The file that a lookup leads to. -/
def target? (e : Lookup) : Option String :=
  match e.answer with
  | some (.file name) => some name
  | _ => none

theorem target?_eq_some_iff {e : Lookup} {name : String} :
    e.target? = some name ↔ e.answer = some (.file name) := by
  rw [target?]
  split <;> simp_all

/-- The lookups about one file. -/
def ofKnown (file : String) (known : Resolutions) : List Lookup :=
  known.map fun (specifier, answer) => ⟨file, specifier, answer⟩

end Lookup

/-- What was found for the program, in the order in which it was found. -/
def Program.log (p : Program) : List Lookup :=
  p.resolutions.reverse.flatMap fun (file, known) => Lookup.ofKnown file known

namespace Program

@[simp] theorem record_setting (p : Program) (file : String) (known : Resolutions) :
    (p.record file known).setting = p.setting := rfl

/-- What is recorded for a file comes last in the log. -/
@[simp] theorem record_log (p : Program) (file : String) (known : Resolutions) :
    (p.record file known).log = p.log ++ Lookup.ofKnown file known := by
  simp [log, record]

/-- A program holds its files whatever is recorded. -/
theorem Holds.record {p : Program} {names : List String} (h : p.Holds names) (file : String)
    (known : Resolutions) : (p.record file known).Holds names :=
  ⟨h.nodup, h.files, h.index, h.ambient, h.cache⟩

end Program

namespace Setting

/-! ## Loaded names -/

/-- The names of the files that are loaded after some lookups. -/
def names (c : Setting) (log : List Lookup) : List String :=
  (Program.startNames c.host c.roots ++ log.filterMap Lookup.target?).eraseDups

variable {c : Setting} {log : List Lookup} {e : Lookup}

theorem nodup_names (c : Setting) (log : List Lookup) : (c.names log).Nodup := nodup_eraseDups _

/-- A file is loaded from the start or when a lookup leads to it. -/
theorem mem_names_iff {name : String} :
    name ∈ c.names log ↔
      name ∈ Program.startNames c.host c.roots ∨ ∃ e ∈ log, e.target? = some name := by
  rw [names, List.mem_eraseDups, List.mem_append, List.mem_filterMap]

/-- Files stay loaded, at their places. -/
theorem names_prefix {log' : List Lookup} (h : log <+: log') : c.names log <+: c.names log' := by
  obtain ⟨more, rfl⟩ := h
  rw [names, names, List.filterMap_append, ← List.append_assoc]
  exact eraseDups_prefix _ _

/-- A lookup that leads to no file loads none. -/
theorem names_concat_of_none (h : e.target? = none) : c.names (log ++ [e]) = c.names log := by
  rw [names, List.filterMap_append, List.filterMap_cons_none h, List.filterMap_nil, List.append_nil,
    names]

/-- A lookup that leads to a file loads it, unless it is loaded. -/
theorem names_concat_of_some {name : String} (h : e.target? = some name) :
    c.names (log ++ [e]) =
      if name ∈ c.names log then c.names log else c.names log ++ [name] := by
  rw [names, List.filterMap_append, List.filterMap_cons_some h, List.filterMap_nil,
    ← List.append_assoc, eraseDups_concat]
  simp only [names, List.mem_eraseDups]

/-! ## Lookups that follow -/

/-- The modules that the files of some names declare. -/
def modules (c : Setting) (names : List String) : List String :=
  ((names.map c.host.file).foldl Ambient.add {}).modules

/-- A lookup follows from others: its file is loaded by then, and the answer is that of
resolution with the modules that are declared by then. -/
structure Follows (c : Setting) (before : List Lookup) (e : Lookup) : Prop where
  loaded : e.file ∈ c.names before
  answer : e.answer =
    (Resolver.mk c.options c.host).resolve (c.modules (c.names before)) e.file e.specifier

/-- Each lookup follows from those before it. -/
def Derived (c : Setting) (log : List Lookup) : Prop :=
  ∀ before e, before ++ [e] <+: log → c.Follows before e

theorem derived_nil : c.Derived [] := by
  intro before e h
  exact absurd (List.prefix_nil.1 h) (by simp)

/-- One more lookup that follows. -/
theorem Derived.concat (h : c.Derived log) (he : c.Follows log e) : c.Derived (log ++ [e]) := by
  intro before e' hprefix
  rcases List.prefix_concat_iff.1 hprefix with heq | hprefix
  · obtain ⟨rfl, rfl⟩ := List.append_singleton_inj.1 heq
    exact he
  · exact h before e' hprefix

/-- A lookup of a log follows from what is before it. -/
theorem Derived.of_mem (h : c.Derived log) (he : e ∈ log) :
    ∃ before, before ++ [e] <+: log ∧ c.Follows before e := by
  obtain ⟨before, after, rfl⟩ := List.append_of_mem he
  have hprefix : before ++ [e] <+: before ++ e :: after := ⟨after, by simp⟩
  exact ⟨before, hprefix, h before e hprefix⟩

/-- A lookup leads to a file that is found. -/
theorem Follows.finds {before : List Lookup} {name : String} (h : c.Follows before e)
    (hname : e.target? = some name) : (Resolver.mk c.options c.host).Finds name :=
  Resolver.finds_of_resolve (h.answer.symm.trans (Lookup.target?_eq_some_iff.1 hname))

/-- **Loading is bounded.** There are never more files than roots, the default library and the
files of the host. -/
theorem length_names_le (hs : c.host.Settled) (h : c.Derived log) :
    (c.names log).length ≤ Loading.bound c.host c.roots := by
  have hsub : c.names log ⊆ Program.startNames c.host c.roots ++ c.host.names := by
    intro name hname
    rcases mem_names_iff.1 hname with hstart | ⟨e, he, htarget⟩
    · exact List.mem_append_left _ hstart
    · obtain ⟨before, -, hfollows⟩ := h.of_mem he
      exact List.mem_append_right _ ((hfollows.finds htarget).settled hs).2
  have hlen := List.Nodup.length_le_of_subset (c.nodup_names log) hsub
  have hstart : (Program.startNames c.host c.roots).length ≤ c.roots.length + 1 := by
    rw [Program.startNames, List.length_map, Program.startPaths, List.length_append]
    split <;> simp
  rw [List.length_append] at hlen
  rw [Loading.bound]
  omega

end Setting

end ScriptHost
