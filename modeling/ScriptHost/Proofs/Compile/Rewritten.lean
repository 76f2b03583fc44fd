import ScriptHost.Proofs.Compile.Output
/-!
# What a rewriting does to each file

A rewriting runs the first of the factories that run before types are removed on
each file of its input, in the order of their paths. All files share what was
read for the program and one list of reports. Still the factory sees each file
as it is read from its own text, if no other path is a spelling of its path, and
what it does on a file depends on other files through earlier reports alone.

- `KeptApart`: no two paths are spellings of one.
- `RewrittenFile`, `Factory.Rewrites`, `Factory.StopsAt`: how the rewriting of a file ends.
- `Factory.RewritesAll`, `Factory.StopsIn`: how the rewriting of files ends.
- `Rewriting`, `Compiler.Rewrites`, `Compiler.Refuses`: how the rewriting of an input ends.
- `Compiler.transform_eq_iff`: which answer a rewriting has, and what has no effect on it.
-/

namespace ScriptHost

namespace Action

variable {α β γ : Type}

/-- Computations with the same outcomes are the same. -/
theorem ext {x y : Action α} (h : ∀ before, x.run before = y.run before) : x = y := by
  obtain ⟨run, _⟩ := x
  obtain ⟨run', _⟩ := y
  obtain rfl : run = run' := funext h
  rfl

/-- The outcome of one computation after another. -/
theorem run_bind (x : Action α) (f : α → Action β) (before : List Report) :
    (x >>= f).run before = match x.run before with
      | .ok (a, reports) => (f a).run reports
      | .error e => .error e :=
  rfl

/-- What goes on with a changed value goes on with the value. -/
theorem map_bind (change : α → β) (x : Action α) (f : β → Action γ) :
    (change <$> x) >>= f = x >>= fun a => f (change a) := by
  have hmap : change <$> x = x >>= fun a => pure (change a) := rfl
  refine ext fun before => ?_
  rw [hmap, run_bind, run_bind, run_bind]
  cases x.run before <;> rfl

end Action

/-! ## Files with their own texts -/

/-- The paths of an input differ in more than case and separators, from each other and from those of
the external files. -/
structure KeptApart (input external : SortedMap String) : Prop where
  nodup : (input.keys.map Path.fold).Nodup
  disjoint : ∀ key ∈ input.keys, ∀ other ∈ external.keys, Path.fold other ≠ Path.fold key

/-- A path with a text as the file that is read from the text. -/
def SourceFile.ofEntry (e : String × String) : SourceFile := .parse (Path.canonical e.1) e.2

/-- What is compiled for a path of an input is its own text. -/
theorem KeptApart.eq_own {input external : SortedMap String} {e : String × String} {text : String}
    (h : KeptApart input external) (he : e ∈ input.entries)
    (htext : CompiledText input external e.1 text) : text = e.2 := by
  have hkey : e.1 ∈ input.keys := List.mem_map_of_mem he
  cases htext with
  | external hentry _ hfold =>
    exact absurd hfold (h.disjoint e.1 hkey _ (List.mem_map_of_mem hentry))
  | @input key _ _ hentry hfold =>
    have hsame : key = e.1 :=
      List.inj_on_of_nodup_map h.nodup (List.mem_map_of_mem hentry) hkey hfold
    exact SortedMap.eq_of_mem_entries (hsame ▸ hentry) he
  | nothing _ hnone => exact absurd rfl (hnone e.1 hkey)

/-- What the program of a call has read for a path of its input is the file of its own text. -/
theorem KeptApart.get_cache {c : Compiler} {input : SortedMap String} {e : String × String}
    (h : KeptApart input c.external) (he : e ∈ input.entries) :
    (c.program input).cache.get (c.program input).host e.1 =
      (.ofEntry e, (c.program input).cache) := by
  have hkey : e.1 ∈ input.keys := List.mem_map_of_mem he
  have hloaded := c.program_loaded input
  have hname : (c.files input).host.canonicalName e.1 = Path.canonical e.1 :=
    (Compiler.canonicalName_of_mem_keys hkey).1
  have htext : (c.files input).host.sourceText (Path.canonical e.1) = e.2 := by
    rw [← hname]
    exact h.eq_own he ((c.files_presents input).compiledText e.1)
  -- A path of the input is a root, so its file is in the cache and is not read again.
  have hmem : (c.program input).host.canonicalName e.1 ∈
      (c.setting input).names (c.program input).log := by
    rw [Compiler.program_host]
    exact Compiler.name_mem_of_mem_keys hkey
  rw [hloaded.holds.get_of_mem hmem, Compiler.program_host, hname, Host.file, htext]
  rfl

/-! ## One file -/

/-- What the rewriting of a file leaves. -/
structure RewrittenFile where
  path : String
  /-- What the factory reported. -/
  reports : List Report
  /-- The module that the factory left. -/
  module : Node
  text : String

/-- The text with its path. -/
def RewrittenFile.written (r : RewrittenFile) : String × String := (r.path, r.text)

namespace Factory

/-- What a factory does on the file of a path with a text. -/
def onEntry (factory : Factory) (o : CompilerOptions) (e : String × String) : Action Node :=
  factory ⟨.ofEntry e, o⟩ (SourceFile.ofEntry e).module.resolve.1

/-- The rewriting of a file ends with a text: the factory does not stop, and the module that it
leaves is printed with the comments of the file. -/
structure Rewrites (factory : Factory) (o : CompilerOptions) (before : List Report)
    (e : String × String) (r : RewrittenFile) : Prop where
  path : r.path = e.1
  ends : (factory.onEntry o e).Yields before r.module r.reports
  printed : r.module.print? .esNext (SourceFile.ofEntry e).comments = some r.text

/-- The rewriting of a file stops: at the factory, or at a module that cannot be printed. -/
inductive StopsAt (factory : Factory) (o : CompilerOptions) (before : List Report)
    (e : String × String) : Exception → Prop where
  | factory {ex : Exception} : (factory.onEntry o e).Stops before ex → StopsAt factory o before e ex
  | printing {module : Node} {found : List Report} :
      (factory.onEntry o e).Yields before module found →
      module.print? .esNext (SourceFile.ofEntry e).comments = none →
      StopsAt factory o before e (.stopped Action.refusedPattern)

/-! ## Files in turn -/

/-- Files are rewritten in turn, each after the reports on those before it. -/
inductive RewritesAll (factory : Factory) (o : CompilerOptions) :
    List Report → List (String × String) → List RewrittenFile → Prop where
  | nil {before : List Report} : RewritesAll factory o before [] []
  | cons {before : List Report} {e : String × String} {entries : List (String × String)}
      {r : RewrittenFile} {files : List RewrittenFile} :
      factory.Rewrites o before e r →
      RewritesAll factory o (before ++ r.reports) entries files →
      RewritesAll factory o before (e :: entries) (r :: files)

/-- Files are rewritten in turn up to one where the rewriting stops. -/
inductive StopsIn (factory : Factory) (o : CompilerOptions) :
    List Report → List (String × String) → Exception → Prop where
  | here {before : List Report} {e : String × String} {entries : List (String × String)}
      {ex : Exception} : factory.StopsAt o before e ex → StopsIn factory o before (e :: entries) ex
  | later {before : List Report} {e : String × String} {entries : List (String × String)}
      {r : RewrittenFile} {ex : Exception} : factory.Rewrites o before e r →
      StopsIn factory o (before ++ r.reports) entries ex →
      StopsIn factory o before (e :: entries) ex

variable {factory : Factory} {o : CompilerOptions} {before : List Report}
  {entries : List (String × String)} {files : List RewrittenFile}

/-- Each file is written under its own path. -/
theorem RewritesAll.paths_eq (h : factory.RewritesAll o before entries files) :
    files.map (·.path) = entries.map (·.1) := by
  induction h with
  | nil => rfl
  | cons hr _ ih => rw [List.map_cons, List.map_cons, hr.path, ih]

end Factory

namespace Compiler

section Files

variable {p : Program} {factory : Factory} {before found : List Report}
  {entries written : List (String × String)}

/-- What the rewriting of files yields is what is left of them in turn, if each of them was read
from its own text. -/
theorem rewriteFiles_yields_iff
    (hread : ∀ e ∈ entries, p.cache.get p.host e.1 = (.ofEntry e, p.cache)) :
    (rewriteFiles p factory p.cache (entries.map (·.1))).Yields before written found ↔
      ∃ files, factory.RewritesAll p.options before entries files ∧
        written = files.map RewrittenFile.written ∧ found = files.flatMap (·.reports) := by
  -- Each file leaves the cache as it was, so the next one is read as if it were the first.
  induction entries generalizing before written found with
  | nil =>
    rw [List.map_nil, rewriteFiles, Action.yields_pure]
    constructor
    · rintro ⟨rfl, rfl⟩
      exact ⟨[], .nil, rfl, rfl⟩
    · rintro ⟨files, hfiles, rfl, rfl⟩
      cases hfiles
      exact ⟨rfl, rfl⟩
  | cons e entries ih =>
    obtain ⟨hfirst, hrest⟩ := List.forall_mem_cons.1 hread
    rw [List.map_cons, rewriteFiles, hfirst]
    simp only [Action.yields_bind, Action.yields_print, Action.yields_pure]
    constructor
    · rintro ⟨module, first, _, hends, ⟨text, _, _, ⟨hprinted, rfl⟩, ⟨rest, _, _, hmore, ⟨rfl, rfl⟩,
        rfl⟩, rfl⟩, rfl⟩
      rw [List.append_nil] at hmore
      obtain ⟨files, hfiles, rfl, rfl⟩ := (ih hrest).1 hmore
      refine ⟨⟨e.1, first, module, text⟩ :: files, .cons ⟨rfl, hends, hprinted⟩ hfiles, rfl, ?_⟩
      simp
    · rintro ⟨files, hfiles, rfl, rfl⟩
      cases hfiles with
      | @cons _ _ _ r files hr hfiles =>
        have hmore := (ih hrest).2 ⟨files, hfiles, rfl, rfl⟩
        rw [← List.append_nil (before ++ r.reports)] at hmore
        refine ⟨r.module, r.reports, _, hr.ends, ⟨r.text, [], _, ⟨hr.printed, rfl⟩,
          ⟨_, _, [], hmore, ⟨?_, rfl⟩, rfl⟩, rfl⟩, ?_⟩
        · rw [List.map_cons, RewrittenFile.written, hr.path]
        · simp

/-- The rewriting of files stops at one of them, if each was read from its own text. -/
theorem rewriteFiles_stops_iff {ex : Exception}
    (hread : ∀ e ∈ entries, p.cache.get p.host e.1 = (.ofEntry e, p.cache)) :
    (rewriteFiles p factory p.cache (entries.map (·.1))).Stops before ex ↔
      factory.StopsIn p.options before entries ex := by
  induction entries generalizing before with
  | nil =>
    rw [List.map_nil, rewriteFiles]
    refine iff_of_false Action.not_stops_pure ?_
    intro hstops
    cases hstops
  | cons e entries ih =>
    obtain ⟨hfirst, hrest⟩ := List.forall_mem_cons.1 hread
    rw [List.map_cons, rewriteFiles, hfirst]
    simp only [Action.stops_bind, Action.yields_print, Action.stops_print, Action.not_stops_pure,
      and_false, exists_const, or_false]
    constructor
    · rintro (hstops | ⟨module, first, hends,
        (⟨hprinted, rfl⟩ | ⟨text, _, ⟨hprinted, rfl⟩, hmore⟩)⟩)
      · exact .here (.factory hstops)
      · exact .here (.printing hends hprinted)
      · rw [List.append_nil] at hmore
        exact .later (r := ⟨e.1, first, module, text⟩) ⟨rfl, hends, hprinted⟩ ((ih hrest).1 hmore)
    · intro hstops
      cases hstops with
      | here hstops =>
        cases hstops with
        | factory hstops => exact .inl hstops
        | printing hends hprinted => exact .inr ⟨_, _, hends, .inl ⟨hprinted, rfl⟩⟩
      | @later _ _ _ r _ hr hstops =>
        refine .inr ⟨r.module, r.reports, hr.ends, .inr ⟨r.text, [], ⟨hr.printed, rfl⟩, ?_⟩⟩
        rw [List.append_nil]
        exact (ih hrest).2 hstops

end Files

end Compiler

/-! ## The files of a call -/

/-- What a rewriting leaves that does not stop. -/
structure Rewriting where
  transformers : Transformers
  /-- What was reported while the factories were made. -/
  provided : List Report
  files : List RewrittenFile

namespace Rewriting

/-- The texts by path. -/
def output (r : Rewriting) : SortedMap String := .ofList (r.files.map RewrittenFile.written)

/-- All that is reported, in order: on the making of the factories, and on each file. -/
def reports (r : Rewriting) : List Report := r.provided ++ r.files.flatMap (·.reports)

end Rewriting

namespace Compiler

/-- A rewriting does not stop: the factories are made, and the first one that runs before types are
removed rewrites all files of the input. -/
structure Rewrites (c : Compiler) (input : SortedMap String) (r : Rewriting) : Prop where
  provides : ∃ provider, c.provider = some provider ∧
    (provider (c.program input)).Yields [] r.transformers r.provided
  rewrites : ∃ factory, r.transformers.before.head? = some factory ∧
    factory.RewritesAll c.options r.provided input.entries r.files

/-- A rewriting stops: nothing makes factories, or what makes them stops, or makes none that runs
before types are removed, or the rewriting of a file stops. -/
inductive Refuses (c : Compiler) (input : SortedMap String) : Exception → Prop where
  | noProvider : c.provider = none → Refuses c input (.failure (.ofDefect .noTransformers))
  | provider {provider : Provider} {e : Exception} : c.provider = some provider →
      (provider (c.program input)).Stops [] e → Refuses c input e
  | noFactory {provider : Provider} {t : Transformers} {provided : List Report} :
      c.provider = some provider → (provider (c.program input)).Yields [] t provided →
      t.before = [] → Refuses c input (.failure (.ofDefect .noFactory))
  | file {provider : Provider} {t : Transformers} {provided : List Report} {factory : Factory}
      {e : Exception} :
      c.provider = some provider → (provider (c.program input)).Yields [] t provided →
      t.before.head? = some factory → factory.StopsIn c.options provided input.entries e →
      Refuses c input e

variable {c : Compiler} {input : SortedMap String}

/-- Rewrites the files of a call with the first of some factories. -/
def rewriteWith (c : Compiler) (input : SortedMap String) (t : Transformers) :
    Action (SortedMap String) :=
  match t.before.head? with
  | none => Action.fail .noFactory
  | some factory => do
    return .ofList (← rewriteFiles (c.program input) factory (c.program input).cache input.keys)

/-- A rewriting makes its factories and runs the first of them. -/
theorem rewrite_of_provider {provider : Provider} (h : c.provider = some provider) :
    c.rewrite input = provider (c.program input) >>= c.rewriteWith input := by
  simp only [rewrite, h]
  refine congrArg _ (funext fun t => ?_)
  obtain ⟨before, after⟩ := t
  cases before <;> rfl

/-- What a rewriting with some factories yields. -/
theorem rewriteWith_yields_iff (h : KeptApart input c.external) {t : Transformers}
    {before found : List Report} {output : SortedMap String} :
    (c.rewriteWith input t).Yields before output found ↔
      ∃ factory files, t.before.head? = some factory ∧
        factory.RewritesAll c.options before input.entries files ∧
        output = .ofList (files.map RewrittenFile.written) ∧
        found = files.flatMap (·.reports) := by
  rw [rewriteWith]
  cases t.before.head? with
  | none =>
    refine iff_of_false Action.not_yields_throw ?_
    rintro ⟨factory, files, hnone, -⟩
    cases hnone
  | some factory =>
    have hfiles {written : List (String × String)} {found : List Report} :
        (rewriteFiles (c.program input) factory (c.program input).cache
          (input.entries.map (·.1))).Yields before written found ↔ _ :=
      rewriteFiles_yields_iff fun _ he => h.get_cache he
    simp only [Action.yields_bind, Action.yields_pure]
    constructor
    · rintro ⟨written, first, _, hwritten, ⟨rfl, rfl⟩, rfl⟩
      obtain ⟨files, hall, rfl, rfl⟩ := hfiles.1 hwritten
      rw [program_options] at hall
      exact ⟨factory, files, rfl, hall, rfl, List.append_nil _⟩
    · rintro ⟨_, files, hfactory, hall, rfl, rfl⟩
      obtain rfl := Option.some.inj hfactory
      rw [← program_options c input] at hall
      exact ⟨_, _, [], hfiles.2 ⟨files, hall, rfl, rfl⟩, ⟨rfl, rfl⟩, (List.append_nil _).symm⟩

/-- A rewriting with some factories stops if there is none, or where the first one does. -/
theorem rewriteWith_stops_iff (h : KeptApart input c.external) {t : Transformers}
    {before : List Report} {e : Exception} : (c.rewriteWith input t).Stops before e ↔
      (t.before = [] ∧ e = .failure (.ofDefect .noFactory)) ∨
      ∃ factory, t.before.head? = some factory ∧
        factory.StopsIn c.options before input.entries e := by
  rw [rewriteWith, ← List.head?_eq_none_iff]
  cases t.before.head? with
  | none => simp [Action.fail, Action.stops_throw, eq_comm]
  | some factory =>
    have hfiles : (rewriteFiles (c.program input) factory (c.program input).cache
        (input.entries.map (·.1))).Stops before e ↔ _ :=
      rewriteFiles_stops_iff fun _ he => h.get_cache he
    rw [program_options] at hfiles
    simp only [Action.stops_bind, Action.not_stops_pure, and_false, exists_const, or_false,
      reduceCtorEq, false_and, false_or, Option.some.injEq, exists_eq_left']
    exact hfiles

/-- What a rewriting yields is what one leaves that does not stop. -/
theorem rewrite_yields_iff (h : KeptApart input c.external) {output : SortedMap String}
    {found : List Report} : (c.rewrite input).Yields [] output found ↔
      ∃ r, c.Rewrites input r ∧ output = r.output ∧ found = r.reports := by
  cases hprovider : c.provider with
  | none =>
    have hrewrite : c.rewrite input = Action.fail .noTransformers := by
      simp only [rewrite, hprovider]
    rw [hrewrite]
    refine iff_of_false Action.not_yields_throw ?_
    rintro ⟨r, ⟨⟨provider, hsome, -⟩, -⟩, -⟩
    cases hprovider.symm.trans hsome
  | some provider =>
    rw [rewrite_of_provider hprovider]
    simp only [Action.yields_bind, rewriteWith_yields_iff h, List.nil_append]
    constructor
    · rintro ⟨t, provided, _, ht, ⟨factory, files, hfactory, hall, rfl, rfl⟩, rfl⟩
      exact ⟨⟨t, provided, files⟩, ⟨⟨provider, hprovider, ht⟩, factory, hfactory, hall⟩, rfl, rfl⟩
    · rintro ⟨⟨t, provided, files⟩, ⟨⟨_, hsome, ht⟩, factory, hfactory, hall⟩, rfl, rfl⟩
      obtain rfl := Option.some.inj (hprovider.symm.trans hsome)
      exact ⟨t, provided, _, ht, ⟨factory, files, hfactory, hall, rfl, rfl⟩, rfl⟩

/-- A rewriting stops where one of its steps does. -/
theorem rewrite_stops_iff (h : KeptApart input c.external) {e : Exception} :
    (c.rewrite input).Stops [] e ↔ c.Refuses input e := by
  cases hprovider : c.provider with
  | none =>
    have hrewrite : c.rewrite input = Action.fail .noTransformers := by
      simp only [rewrite, hprovider]
    rw [hrewrite, Action.fail, Action.stops_throw]
    constructor
    · rintro rfl
      exact .noProvider hprovider
    · intro hrefuses
      cases hrefuses with
      | noProvider => rfl
      | provider hsome | noFactory hsome | file hsome => cases hprovider.symm.trans hsome
  | some provider =>
    rw [rewrite_of_provider hprovider]
    simp only [Action.stops_bind, rewriteWith_stops_iff h, List.nil_append]
    constructor
    · rintro (hstops | ⟨t, provided, ht, (⟨hnone, rfl⟩ | ⟨factory, hfactory, hstops⟩)⟩)
      · exact .provider hprovider hstops
      · exact .noFactory hprovider ht hnone
      · exact .file hprovider ht hfactory hstops
    · intro hrefuses
      cases hrefuses with
      | noProvider hnone => cases hprovider.symm.trans hnone
      | provider hsome hstops =>
        obtain rfl := Option.some.inj (hprovider.symm.trans hsome)
        exact .inl hstops
      | noFactory hsome ht hnone =>
        obtain rfl := Option.some.inj (hprovider.symm.trans hsome)
        exact .inr ⟨_, _, ht, .inl ⟨hnone, rfl⟩⟩
      | file hsome ht hfactory hstops =>
        obtain rfl := Option.some.inj (hprovider.symm.trans hsome)
        exact .inr ⟨_, _, ht, .inr ⟨_, hfactory, hstops⟩⟩

/-- The texts that a rewriting leaves are those of its files, under the paths of the input. -/
theorem Rewrites.output_eq {r : Rewriting} (h : c.Rewrites input r) :
    r.output.entries = r.files.map RewrittenFile.written ∧ r.output.keys = input.keys := by
  obtain ⟨factory, -, hall⟩ := h.rewrites
  have hpaths : (r.files.map RewrittenFile.written).map (·.1) = input.keys := by
    rw [List.map_map]
    exact hall.paths_eq
  have hsorted : (r.files.map RewrittenFile.written).Pairwise (fun a b => a.1 < b.1) := by
    rw [← List.pairwise_map, hpaths]
    exact List.pairwise_map.2 input.increasing
  have hentries : r.output.entries = r.files.map RewrittenFile.written :=
    SortedMap.entries_ofList hsorted
  exact ⟨hentries, by rw [SortedMap.keys, hentries, hpaths]⟩

/-- The answer of a rewriting that does not stop. -/
theorem Rewrites.transform_eq {r : Rewriting} (hr : c.Rewrites input r)
    (h : KeptApart input c.external) :
    c.transform input = .ofDiagnostics r.output (r.reports.map Report.normalize) :=
  answer_of_yields ((rewrite_yields_iff h).2 ⟨r, hr, rfl, rfl⟩)

/-- The answer of a rewriting that stops. -/
theorem Refuses.transform_eq {e : Exception} (he : c.Refuses input e)
    (h : KeptApart input c.external) : c.transform input = .exception e :=
  answer_of_stops ((rewrite_stops_iff h).2 he)

/-- A rewriting stops, or it does not. -/
theorem rewrites_or_refuses (h : KeptApart input c.external) :
    (∃ r, c.Rewrites input r) ∨ ∃ e, c.Refuses input e := by
  rcases Action.yields_or_stops (c.rewrite input) [] with ⟨output, found, hyields⟩ | ⟨e, hstops⟩
  · obtain ⟨r, hr, -⟩ := (rewrite_yields_iff h).1 hyields
    exact .inl ⟨r, hr⟩
  · exact .inr ⟨e, (rewrite_stops_iff h).1 hstops⟩

/-! ## Other factories -/

/-- The compiler that changes the factories which are made. -/
def changing (c : Compiler) (change : Transformers → Transformers) : Compiler :=
  { c with provider := c.provider.map fun provider p => change <$> provider p }

/-- Only the first factory that runs before types are removed is asked for. -/
theorem transform_changing {change : Transformers → Transformers}
    (h : ∀ t, (change t).before.head? = t.before.head?) (c : Compiler) (input : SortedMap String) :
    (c.changing change).transform input = c.transform input := by
  have hwith (t : Transformers) :
      (c.changing change).rewriteWith input (change t) = c.rewriteWith input t := by
    rw [rewriteWith, rewriteWith, h]
    rfl
  have hrewrite : (c.changing change).rewrite input = c.rewrite input := by
    cases hprovider : c.provider with
    | none =>
      have hnone : (c.changing change).provider = none := by
        rw [changing, hprovider, Option.map_none]
      simp only [rewrite, hprovider, hnone]
    | some provider =>
      have hsome : (c.changing change).provider = some fun p => change <$> provider p := by
        rw [changing, hprovider, Option.map_some]
      rw [rewrite_of_provider hprovider, rewrite_of_provider hsome, Action.map_bind]
      exact congrArg _ (funext hwith)
  rw [transform, transform, hrewrite]

/-- **Which answer a rewriting has**, if no two paths are spellings of one. If something stops, it
is the exception. Otherwise it has for each path of the input, as it is spelled, what the first
factory leaves of the file of its own text, and all that was reported, on the making of the
factories and then file after file; it is a success exactly if this is nothing. No other factory
has an effect. -/
theorem transform_eq_iff (h : KeptApart input c.external) :
    (∀ answer, c.transform input = answer ↔
      (∃ r, c.Rewrites input r ∧
        r.output.entries = r.files.map RewrittenFile.written ∧ r.output.keys = input.keys ∧
        (r.reports = [] ∧ answer = .success r.output ∨
          r.reports ≠ [] ∧ answer = .failure r.output (r.reports.map Report.normalize))) ∨
      ∃ e, c.Refuses input e ∧ answer = .exception e) ∧
    ∀ change : Transformers → Transformers, (∀ t, (change t).before.head? = t.before.head?) →
      (c.changing change).transform input = c.transform input := by
  refine ⟨fun answer => ?_, fun change hchange => transform_changing hchange c input⟩
  have hanswer (r : Rewriting) : answer = .ofDiagnostics r.output (r.reports.map Report.normalize) ↔
      r.reports = [] ∧ answer = .success r.output ∨
        r.reports ≠ [] ∧ answer = .failure r.output (r.reports.map Report.normalize) := by
    cases r.reports with
    | nil => simp [Answer.ofDiagnostics]
    | cons report reports => simp [Answer.ofDiagnostics]
  constructor
  · rintro rfl
    rcases rewrites_or_refuses h with ⟨r, hr⟩ | ⟨e, he⟩
    · obtain ⟨hentries, hkeys⟩ := hr.output_eq
      exact .inl ⟨r, hr, hentries, hkeys, (hanswer r).1 (hr.transform_eq h)⟩
    · exact .inr ⟨e, he, he.transform_eq h⟩
  · rintro (⟨r, hr, -, -, hends⟩ | ⟨e, he, rfl⟩)
    · rw [(hanswer r).2 hends]
      exact hr.transform_eq h
    · exact he.transform_eq h

/-- A compiler whose provider reports, and that makes a factory which reports on each file and
others which would stop. -/
def reportingFirst : Compiler where
  external := .ofList [("lib/m.d.ts", "declare const z: number;")]
  provider := some fun _ => do
    Action.report (.errorAt none 1 none (.flat "made"))
    return {
      before := [Factory.reportModule 2 (.flat "seen"), Factory.stop "unused"]
      after := [Factory.stop "unused"] }

/-- Files whose paths differ in more than case and separators. -/
def apartInput : SortedMap String := .ofList [("B\\a.ts", "1;"), ("b.ts", "let x: T;")]

/-- Each file is written from its own text under its path as it is spelled, and what was reported
comes in order. -/
theorem apartInput_rewritten : KeptApart apartInput reportingFirst.external ∧
    ∃ r, reportingFirst.Rewrites apartInput r ∧ r.output.keys = apartInput.keys ∧
      r.reports ≠ [] ∧
      reportingFirst.transform apartInput = .failure r.output (r.reports.map Report.normalize) ∧
      r.output.entries = [("B\\a.ts", "1;\n"), ("b.ts", "let x: T;\n")] ∧
      (r.reports.map Report.normalize).map (·.messageText) = ["made", "seen", "seen"] := by
  have h : KeptApart apartInput reportingFirst.external := ⟨by decide +kernel, by decide +kernel⟩
  have hfails : (reportingFirst.transform apartInput).isSuccess = false := by decide +kernel
  have hentries : (reportingFirst.transform apartInput).output?.map (·.entries) =
      some [("B\\a.ts", "1;\n"), ("b.ts", "let x: T;\n")] := by
    decide +kernel
  have hmessages : (reportingFirst.transform apartInput).diagnostics.map (·.messageText) =
      ["made", "seen", "seen"] := by
    decide +kernel
  rcases ((transform_eq_iff h).1 _).1 rfl with
    ⟨r, hr, -, hkeys, ⟨-, hanswer⟩ | ⟨hreports, hanswer⟩⟩ | ⟨e, -, hanswer⟩
  · rw [hanswer] at hfails
    cases hfails
  · rw [hanswer] at hentries hmessages
    exact ⟨h, r, hr, hkeys, hreports, hanswer, Option.some.inj hentries, hmessages⟩
  · rw [hanswer] at hentries
    cases hentries

end Compiler

end ScriptHost
