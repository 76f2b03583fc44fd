import ScriptHost.Program.Resolution
import ScriptHost.Proofs.Host.OutputName
/-!
# What resolution finds

Whatever way a specifier takes, the file that it leads to is found by its path
and known under its canonical name. The modules that are declared matter for a
specifier that names one of them, and for no other.

- `Resolver.Finds`: a name is that of a path that exists.
- `Resolver.FindsSource`: the path ends like a file that can be compiled, too.
- `Resolver.findsSource_of_resolve`: resolution finds the files that it answers.
- `Resolver.resolve_eq_iff`: when two sets of modules lead to one answer.
-/

namespace ScriptHost

namespace Resolver

/-! ## Found files -/

/-- A name is the canonical name of a path that exists. -/
def Finds (r : Resolver) (name : String) : Prop :=
  ∃ path, r.host.exists? path = true ∧ r.host.canonicalName path = name

/-- A name is the canonical name of a path that exists and ends like a file that can be compiled. -/
def FindsSource (r : Resolver) (name : String) : Prop :=
  ∃ path, r.host.exists? path = true ∧ r.namesSource path = true ∧
    r.host.canonicalName path = name

/-- Whatever a search answers is found. -/
def Sound (r : Resolver) (answer : Option String) : Prop := ∀ name ∈ answer, r.FindsSource name

variable {r : Resolver}

theorem sound_none : r.Sound none := fun _ h => by cases h

theorem sound_or {a b : Option String} (ha : r.Sound a) (hb : r.Sound b) : r.Sound (a.or b) := by
  cases a with
  | none => rwa [Option.none_or]
  | some name => exact ha

theorem sound_ite {c : Prop} [Decidable c] {a : Option String} (ha : c → r.Sound a) :
    r.Sound (if c then a else none) := by
  split
  · next hc => exact ha hc
  · exact sound_none

theorem sound_findSome? {α : Type} {f : α → Option String} {l : List α}
    (hf : ∀ a ∈ l, r.Sound (f a)) : r.Sound (l.findSome? f) := by
  intro name h
  obtain ⟨a, hmem, ha⟩ := List.exists_of_findSome?_eq_some h
  exact hf a hmem name ha

theorem sound_findFile {path : String} (hsource : r.namesSource path = true) :
    r.Sound (r.findFile path) := by
  intro name h
  rw [findFile] at h
  split at h
  · next hpath =>
    cases h
    exact ⟨path, hpath, hsource, rfl⟩
  · cases h

/-- A path ends like a file that can be compiled if its ending does. -/
theorem namesSource_append {ending : String} (h : r.namesSource ending = true) (path : String) :
    r.namesSource (path ++ ending) = true := by
  rw [namesSource, Bool.or_eq_true, Bool.and_eq_true] at h ⊢
  exact h.imp (Path.endsWithAny_append · path) fun ⟨hallowed, hscript⟩ =>
    ⟨hallowed, Path.endsWithAny_append hscript path⟩

theorem sound_findEnding (path : String) {endings : List String}
    (h : ∀ ending ∈ endings, r.namesSource ending = true) : r.Sound (r.findEnding path endings) :=
  sound_findSome? fun ending hmem => sound_findFile (namesSource_append (h ending hmem) path)

/-- A path without an ending is tried with endings of files that can be compiled. -/
theorem namesSource_of_mem_endings : ∀ ending ∈ r.endings, r.namesSource ending = true := by
  intro ending hmem
  rcases List.mem_append.1 hmem with htyped | hscript
  · have hall : ∀ e ∈ [".ts", ".tsx", ".d.ts"],
        Path.endsWithAny [".ts", ".tsx", ".mts", ".cts"] (Path.lowerAscii e) = true := by decide
    rw [namesSource, hall ending htyped, Bool.true_or]
  · split at hscript
    · next hallowed =>
      have hall : ∀ e ∈ [".js", ".jsx"], Path.isJavaScript e = true := by decide
      rw [namesSource, hall ending hscript, hallowed, Bool.and_true, Bool.or_true]
    · cases hscript

/-- The sources for an output have types. -/
theorem namesSource_of_mem_sourceEndings {sources : String × List String}
    (h : sources ∈ sourceEndings) : ∀ ending ∈ sources.2, r.namesSource ending = true := by
  intro ending hmem
  have hall : ∀ s ∈ sourceEndings, ∀ e ∈ s.2,
      Path.endsWithAny [".ts", ".tsx", ".mts", ".cts"] (Path.lowerAscii e) = true := by decide
  rw [namesSource, hall sources h ending hmem, Bool.true_or]

theorem sound_sourceOf (path : String) : r.Sound (r.sourceOf path) :=
  sound_findSome? fun _ hmem =>
    sound_ite fun _ => sound_findEnding _ (namesSource_of_mem_sourceEndings hmem)

theorem sound_loadFile (path : String) : r.Sound (r.loadFile path) :=
  sound_or (sound_or (sound_ite sound_findFile) (sound_sourceOf path))
    (sound_findEnding path namesSource_of_mem_endings)

theorem sound_loadIndex (path : String) : r.Sound (r.loadIndex path) :=
  sound_findEnding _ namesSource_of_mem_endings

theorem sound_loadDirectory (path : String) : r.Sound (r.loadDirectory path) :=
  sound_or (sound_findSome? fun _ _ => sound_or (sound_loadFile _) (sound_loadIndex _))
    (sound_loadIndex path)

theorem sound_load (path : String) : r.Sound (r.load path) :=
  sound_or (sound_loadFile path) (sound_loadDirectory path)

theorem sound_loadAlias (specifier : String) : r.Sound (r.loadAlias specifier) := by
  intro name h
  rw [loadAlias, Option.mem_def, Option.bind_eq_bind, Option.bind_eq_some_iff] at h
  obtain ⟨places, -, h⟩ := h
  exact sound_findSome? (fun _ _ => sound_load _) name h

theorem sound_loadPackage (specifier dir : String) : r.Sound (r.loadPackage specifier dir) := by
  rw [loadPackage]
  exact sound_or (sound_load _) (sound_load _)

theorem sound_loadNearest (specifier dir : String) : r.Sound (r.loadNearest specifier dir) :=
  sound_findSome? fun _ _ => sound_loadPackage _ _

/-- **Resolution finds what it answers.** The file that a specifier leads to has the canonical
name of a path that exists and ends like a file that can be compiled. -/
theorem findsSource_of_resolve {modules : List String} {file specifier name : String}
    (h : r.resolve modules file specifier = some (.file name)) : r.FindsSource name := by
  simp only [resolve] at h
  split at h
  · obtain ⟨found, hfound, heq⟩ := Option.map_eq_some_iff.1 h
    cases heq
    exact sound_load _ _ hfound
  · split at h
    · cases h
    · obtain ⟨found, hfound, heq⟩ := Option.map_eq_some_iff.1 h
      cases heq
      exact sound_or (sound_loadAlias _) (sound_loadNearest _ _) _ hfound

theorem finds_of_resolve {modules : List String} {file specifier name : String}
    (h : r.resolve modules file specifier = some (.file name)) : r.Finds name := by
  obtain ⟨path, hpath, -, hname⟩ := findsSource_of_resolve h
  exact ⟨path, hpath, hname⟩

/-- On a settled host, the name of a found file is its own name and the path of a file. -/
theorem Finds.settled (hs : r.host.Settled) {name : String} (h : r.Finds name) :
    r.host.canonicalName name = name ∧ name ∈ r.host.names := by
  obtain ⟨path, hpath, rfl⟩ := h
  exact ⟨hs.canonicalName_canonicalName path, hs.mem_names path hpath⟩

/-! ## Declared modules -/

/-- A specifier refers to a declared module if it names one and is no path. -/
theorem resolve_eq_ambient_iff {modules : List String} {file specifier name : String} :
    r.resolve modules file specifier = some (.ambient name) ↔
      isPath specifier = false ∧ specifier ∈ modules ∧ name = specifier := by
  simp only [resolve]
  split
  · next hpath => simp [hpath]
  · next hpath =>
    split
    · next hmem =>
      rw [List.contains_iff_mem] at hmem
      simp [hpath, hmem, eq_comm]
    · next hmem =>
      rw [List.contains_iff_mem] at hmem
      simp [hmem]

/-- A specifier that is a path or names no declared module leads where it would lead if none
were declared. -/
theorem resolve_eq_nil {modules : List String} {file specifier : String}
    (h : isPath specifier = true ∨ specifier ∉ modules) :
    r.resolve modules file specifier = r.resolve [] file specifier := by
  simp only [resolve]
  split
  · rfl
  · next hpath =>
    rcases h with h | h
    · exact absurd h hpath
    · rw [if_neg (by rwa [List.contains_iff_mem]), if_neg (by simp)]

/-- **When the declared modules matter.** Two sets of modules lead to the same answer exactly for
the paths and for the names on which they agree. -/
theorem resolve_eq_iff {modules modules' : List String} {file specifier : String} :
    r.resolve modules file specifier = r.resolve modules' file specifier ↔
      isPath specifier = true ∨ (specifier ∈ modules ↔ specifier ∈ modules') := by
  constructor
  · intro h
    by_cases hpath : isPath specifier = true
    · exact .inl hpath
    · have hpath : isPath specifier = false := by simpa using hpath
      have hmem (l : List String) :
          specifier ∈ l ↔ r.resolve l file specifier = some (.ambient specifier) := by
        rw [resolve_eq_ambient_iff]
        simp [hpath]
      exact .inr (by rw [hmem modules, hmem modules', h])
  · intro h
    by_cases hdeclared : isPath specifier = false ∧ specifier ∈ modules
    · obtain ⟨hpath, hmem⟩ := hdeclared
      have hmem' : specifier ∈ modules' := by simpa [hpath, hmem] using h
      exact (resolve_eq_ambient_iff.2 ⟨hpath, hmem, rfl⟩).trans
        (resolve_eq_ambient_iff.2 ⟨hpath, hmem', rfl⟩).symm
    · have hfree : isPath specifier = true ∨ specifier ∉ modules := by
        cases hpath : isPath specifier <;> simp_all
      have hfree' : isPath specifier = true ∨ specifier ∉ modules' := by
        rcases h with h | h
        · exact .inl h
        · rwa [← h]
      exact (resolve_eq_nil hfree).trans (resolve_eq_nil hfree').symm

end Resolver

end ScriptHost
