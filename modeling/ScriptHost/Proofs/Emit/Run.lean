import ScriptHost.Emit.Program
/-!
# Runs of an emission

All factories report into one list, file after file, and each may stop the
whole emission. A run holds for each file that was emitted what every factory
reported on it, the modules that the factories left, and its text.

- `FactoriesRun`, `FactoriesStop`: how factories end that run one after the other.
- `FileRun`, `Program.EmitsFile`, `Program.StopsFile`: how the emission of a file ends.
- `Program.EmitsFiles`, `Program.StopsFiles`: how the emission of files ends.
- `Program.emit_yields_iff`, `Program.emit_stops_iff`: what is emitted of a program.
-/

namespace ScriptHost

/-! ## Factories -/

/-- Factories that run one after the other, with what each of them reports. Each sees the module
that the one before it left, and all reports until then. -/
inductive FactoriesRun (c : FactoryContext) :
    List Factory → List Report → Node → List (List Report) → Node → Prop where
  | nil {before : List Report} {module : Node} : FactoriesRun c [] before module [] module
  | cons {factory : Factory} {factories : List Factory} {before found : List Report}
      {reports : List (List Report)} {module next last : Node} :
      (factory c module).Yields before next found →
      FactoriesRun c factories (before ++ found) next reports last →
      FactoriesRun c (factory :: factories) before module (found :: reports) last

/-- Factories one of which stops. -/
inductive FactoriesStop (c : FactoryContext) :
    List Factory → List Report → Node → Exception → Prop where
  | here {factory : Factory} {factories : List Factory} {before : List Report} {module : Node}
      {e : Exception} :
      (factory c module).Stops before e → FactoriesStop c (factory :: factories) before module e
  | later {factory : Factory} {factories : List Factory} {before found : List Report}
      {module next : Node} {e : Exception} :
      (factory c module).Yields before next found →
      FactoriesStop c factories (before ++ found) next e →
      FactoriesStop c (factory :: factories) before module e

section Factories

variable {c : FactoryContext} {factories : List Factory} {before found : List Report}
  {module last : Node} {e : Exception}

/-- What factories yield is what a run of them leaves and reports. -/
theorem runFactories_yields_iff : (runFactories factories c module).Yields before last found ↔
    ∃ reports, FactoriesRun c factories before module reports last ∧ found = reports.flatten := by
  induction factories generalizing before module found with
  | nil =>
    rw [runFactories, List.foldlM_nil, Action.yields_pure]
    constructor
    · rintro ⟨rfl, rfl⟩
      exact ⟨[], .nil, rfl⟩
    · rintro ⟨reports, hrun, rfl⟩
      cases hrun
      exact ⟨rfl, rfl⟩
  | cons factory factories ih =>
    rw [runFactories, List.foldlM_cons, Action.yields_bind]
    constructor
    · rintro ⟨next, first, rest, hfactory, hrest, rfl⟩
      obtain ⟨reports, hrun, rfl⟩ := ih.1 hrest
      exact ⟨first :: reports, .cons hfactory hrun, rfl⟩
    · rintro ⟨reports, hrun, rfl⟩
      cases hrun with
      | cons hfactory hrun =>
        exact ⟨_, _, _, hfactory, ih.2 ⟨_, hrun, rfl⟩, rfl⟩

/-- Factories stop where one of them does. -/
theorem runFactories_stops_iff :
    (runFactories factories c module).Stops before e ↔
      FactoriesStop c factories before module e := by
  induction factories generalizing before module with
  | nil =>
    rw [runFactories, List.foldlM_nil]
    exact iff_of_false Action.not_stops_pure nofun
  | cons factory factories ih =>
    rw [runFactories, List.foldlM_cons, Action.stops_bind]
    constructor
    · rintro (hstops | ⟨next, first, hfactory, hstops⟩)
      · exact .here hstops
      · exact .later hfactory (ih.1 hstops)
    · intro hstops
      cases hstops with
      | here hstops => exact .inl hstops
      | later hfactory hstops => exact .inr ⟨_, _, hfactory, ih.2 hstops⟩

end Factories

/-! ## One file -/

/-- What the emission of a file leaves. -/
structure FileRun where
  /-- Where the text goes. -/
  path : String
  /-- What each factory reported that ran before types were removed. -/
  beforeReports : List (List Report)
  /-- The module that these factories left. -/
  rewritten : Node
  /-- What each factory reported that ran after types were removed. -/
  afterReports : List (List Report)
  /-- The module that these factories left. -/
  last : Node
  text : String

namespace FileRun

/-- What was reported on the file, in order. -/
def reports (r : FileRun) : List Report := r.beforeReports.flatten ++ r.afterReports.flatten

/-- The text with the path that it goes to. -/
def written (r : FileRun) : String × String := (r.path, r.text)

end FileRun

namespace Program

/-- The text of a module of a file as it is written, if it has one. -/
def text? (p : Program) (file : SourceFile) (s : LowerState) (module : Node) : Option String :=
  (finished file s module).1.print? p.options.target (finished file s module).2

/-- The emission of a file ends with a text: no factory stops, the module that is left before types
are removed is not refused, and the module that is left in the end has a text. -/
structure EmitsFile (p : Program) (t : Transformers) (before : List Report) (file : SourceFile)
    (r : FileRun) : Prop where
  path : Path.outputName file.name p.options.allowJs = some r.path
  beforeFactories : FactoriesRun ⟨file, p.options⟩ t.before before file.module.resolve.1
    r.beforeReports r.rewritten
  accepted : isRefused p.options file.isJavaScript r.rewritten = false
  afterFactories : FactoriesRun ⟨file, p.options⟩ t.after (before ++ r.beforeReports.flatten)
    (p.lowered file r.rewritten).1 r.afterReports r.last
  text : p.text? file (p.lowered file r.rewritten).2 r.last = some r.text

/-- The emission of a file stops: at a factory, at a module that is refused, or at one without a
text. -/
inductive StopsFile (p : Program) (t : Transformers) (before : List Report) (file : SourceFile) :
    Exception → Prop where
  | beforeFactory {e : Exception} :
      FactoriesStop ⟨file, p.options⟩ t.before before file.module.resolve.1 e →
      StopsFile p t before file e
  | refused {reports : List (List Report)} {rewritten : Node} :
      FactoriesRun ⟨file, p.options⟩ t.before before file.module.resolve.1 reports rewritten →
      isRefused p.options file.isJavaScript rewritten = true →
      StopsFile p t before file (.stopped Action.refusedModule)
  | afterFactory {reports : List (List Report)} {rewritten : Node} {e : Exception} :
      FactoriesRun ⟨file, p.options⟩ t.before before file.module.resolve.1 reports rewritten →
      isRefused p.options file.isJavaScript rewritten = false →
      FactoriesStop ⟨file, p.options⟩ t.after (before ++ reports.flatten)
        (p.lowered file rewritten).1 e →
      StopsFile p t before file e
  | unwritten {reports reports' : List (List Report)} {rewritten last : Node} :
      FactoriesRun ⟨file, p.options⟩ t.before before file.module.resolve.1 reports rewritten →
      isRefused p.options file.isJavaScript rewritten = false →
      FactoriesRun ⟨file, p.options⟩ t.after (before ++ reports.flatten)
        (p.lowered file rewritten).1 reports' last →
      p.text? file (p.lowered file rewritten).2 last = none →
      StopsFile p t before file (.stopped Action.refusedPattern)

section File

variable {p : Program} {t : Transformers} {file : SourceFile} {before found : List Report}
  {e : Exception}

theorem lowerFile_yields_iff {module : Node} {r : Node × LowerState} :
    (p.lowerFile file module).Yields before r found ↔
      isRefused p.options file.isJavaScript module = false ∧ p.lowered file module = r ∧
        found = [] := by
  rw [lowerFile]
  cases isRefused p.options file.isJavaScript module with
  | true => simp [Action.stop, Action.not_yields_throw]
  | false => simp [Action.yields_pure]

theorem lowerFile_stops_iff {module : Node} :
    (p.lowerFile file module).Stops before e ↔
      isRefused p.options file.isJavaScript module = true ∧
        e = .stopped Action.refusedModule := by
  rw [lowerFile]
  cases isRefused p.options file.isJavaScript module with
  | true => simp [Action.stop, Action.stops_throw, eq_comm]
  | false => simp [Action.not_stops_pure]

/-- **One file.** What its emission yields is the text of a run, with all that the run reports. -/
theorem emitFile_yields_iff {path text : String}
    (hpath : Path.outputName file.name p.options.allowJs = some path) :
    (p.emitFile file t).Yields before text found ↔
      ∃ r, p.EmitsFile t before file r ∧ r.path = path ∧ r.text = text ∧ found = r.reports := by
  simp only [emitFile, Action.yields_bind, runFactories_yields_iff, lowerFile_yields_iff,
    Action.yields_print]
  constructor
  · rintro ⟨rewritten, _, _, ⟨reports, hbefore, rfl⟩, ⟨_, _, _, ⟨haccepted, rfl, rfl⟩,
      ⟨last, _, _, ⟨reports', hafter, rfl⟩, ⟨htext, rfl⟩, rfl⟩, rfl⟩, rfl⟩
    rw [List.append_nil] at hafter
    refine ⟨⟨path, reports, rewritten, reports', last, text⟩,
      ⟨hpath, hbefore, haccepted, hafter, htext⟩, rfl, rfl, ?_⟩
    simp [FileRun.reports]
  · rintro ⟨r, hr, rfl, rfl, rfl⟩
    have hafter := hr.afterFactories
    rw [← List.append_nil (before ++ _)] at hafter
    refine ⟨r.rewritten, _, _, ⟨_, hr.beforeFactories, rfl⟩, ⟨_, _, _, ⟨hr.accepted, rfl, rfl⟩,
      ⟨r.last, _, _, ⟨_, hafter, rfl⟩, ⟨hr.text, rfl⟩, rfl⟩, rfl⟩, ?_⟩
    simp [FileRun.reports]

/-- The emission of a file stops for one of four causes. -/
theorem emitFile_stops_iff : (p.emitFile file t).Stops before e ↔ p.StopsFile t before file e := by
  simp only [emitFile, Action.stops_bind, runFactories_stops_iff, runFactories_yields_iff,
    lowerFile_yields_iff, lowerFile_stops_iff, Action.stops_print]
  constructor
  · rintro (hstops | ⟨rewritten, _, ⟨reports, hbefore, rfl⟩, hrest⟩)
    · exact .beforeFactory hstops
    rcases hrest with ⟨hrefused, rfl⟩ | ⟨_, _, ⟨haccepted, rfl, rfl⟩, hrest⟩
    · exact .refused hbefore hrefused
    rw [List.append_nil] at hrest
    rcases hrest with hstops | ⟨last, _, ⟨reports', hafter, rfl⟩, hnone, rfl⟩
    · exact .afterFactory hbefore haccepted hstops
    · exact .unwritten hbefore haccepted hafter hnone
  · intro hstops
    cases hstops with
    | beforeFactory hstops => exact .inl hstops
    | refused hbefore hrefused =>
      exact .inr ⟨_, _, ⟨_, hbefore, rfl⟩, .inl ⟨hrefused, rfl⟩⟩
    | afterFactory hbefore haccepted hstops =>
      refine .inr ⟨_, _, ⟨_, hbefore, rfl⟩, .inr ⟨_, _, ⟨haccepted, rfl, rfl⟩, .inl ?_⟩⟩
      rw [List.append_nil]
      exact hstops
    | unwritten hbefore haccepted hafter hnone =>
      refine .inr ⟨_, _, ⟨_, hbefore, rfl⟩, .inr ⟨_, _, ⟨haccepted, rfl, rfl⟩, .inr ?_⟩⟩
      rw [List.append_nil]
      exact ⟨_, _, ⟨_, hafter, rfl⟩, hnone, rfl⟩

end File

/-! ## All files -/

/-- The files that a program is compiled to, in the order of its roots: none if nothing is to be
emitted, and otherwise those that have a name for their output. -/
def emitted (p : Program) : List SourceFile :=
  if p.skipsEmit then []
  else p.emittable.filter fun file => (Path.outputName file.name p.options.allowJs).isSome

/-- The emission of files in turn, each after the reports on those before it. -/
inductive EmitsFiles (p : Program) (t : Transformers) :
    List Report → List SourceFile → List FileRun → Prop where
  | nil {before : List Report} : EmitsFiles p t before [] []
  | cons {before : List Report} {file : SourceFile} {files : List SourceFile} {r : FileRun}
      {runs : List FileRun} :
      p.EmitsFile t before file r → EmitsFiles p t (before ++ r.reports) files runs →
      EmitsFiles p t before (file :: files) (r :: runs)

/-- The emission of files that stops at one of them. -/
inductive StopsFiles (p : Program) (t : Transformers) :
    List Report → List SourceFile → Exception → Prop where
  | here {before : List Report} {file : SourceFile} {files : List SourceFile} {e : Exception} :
      p.StopsFile t before file e → StopsFiles p t before (file :: files) e
  | later {before : List Report} {file : SourceFile} {files : List SourceFile} {r : FileRun}
      {e : Exception} :
      p.EmitsFile t before file r → StopsFiles p t (before ++ r.reports) files e →
      StopsFiles p t before (file :: files) e

section Files

variable {p : Program} {t : Transformers} {files : List SourceFile} {before found : List Report}
  {e : Exception}

/-- What the emission of files yields is what a run of them has written. -/
theorem emitFiles_yields_iff {written : List (String × String)} :
    (p.emitFiles t files).Yields before written found ↔
      ∃ runs, p.EmitsFiles t before
          (files.filter fun file => (Path.outputName file.name p.options.allowJs).isSome) runs ∧
        written = runs.map FileRun.written ∧ found = runs.flatMap FileRun.reports := by
  induction files generalizing before found written with
  | nil =>
    rw [emitFiles, Action.yields_pure]
    constructor
    · rintro ⟨rfl, rfl⟩
      exact ⟨[], .nil, rfl, rfl⟩
    · rintro ⟨runs, hruns, rfl, rfl⟩
      cases hruns
      exact ⟨rfl, rfl⟩
  | cons file files ih =>
    rw [emitFiles]
    cases hpath : Path.outputName file.name p.options.allowJs with
    | none =>
      rw [List.filter_cons_of_neg (by simp [hpath])]
      exact ih
    | some path =>
      rw [List.filter_cons_of_pos (by simp [hpath])]
      simp only [Action.yields_bind, Action.yields_pure, emitFile_yields_iff hpath, ih]
      constructor
      · rintro ⟨text, _, _, ⟨r, hr, rfl, rfl, rfl⟩, ⟨_, _, _, ⟨runs, hruns, rfl, rfl⟩,
          ⟨rfl, rfl⟩, rfl⟩, rfl⟩
        exact ⟨r :: runs, .cons hr hruns, rfl, by simp⟩
      · rintro ⟨runs, hruns, rfl, rfl⟩
        cases hruns with
        | @cons _ _ _ r runs hr hruns =>
          obtain rfl : r.path = path := Option.some.inj (hr.path.symm.trans hpath)
          exact ⟨r.text, _, _, ⟨r, hr, rfl, rfl, rfl⟩, ⟨_, _, _, ⟨runs, hruns, rfl, rfl⟩,
            ⟨rfl, rfl⟩, rfl⟩, by simp⟩

/-- The emission of files stops where that of one file does. -/
theorem emitFiles_stops_iff : (p.emitFiles t files).Stops before e ↔
    p.StopsFiles t before
      (files.filter fun file => (Path.outputName file.name p.options.allowJs).isSome) e := by
  induction files generalizing before with
  | nil =>
    rw [emitFiles]
    exact iff_of_false Action.not_stops_pure nofun
  | cons file files ih =>
    rw [emitFiles]
    cases hpath : Path.outputName file.name p.options.allowJs with
    | none =>
      rw [List.filter_cons_of_neg (by simp [hpath])]
      exact ih
    | some path =>
      rw [List.filter_cons_of_pos (by simp [hpath])]
      simp only [Action.stops_bind, Action.not_stops_pure, emitFile_yields_iff hpath,
        emitFile_stops_iff, ih, and_false, exists_const, or_false]
      constructor
      · rintro (hstops | ⟨text, _, ⟨r, hr, rfl, rfl, rfl⟩, hstops⟩)
        · exact .here hstops
        · exact .later hr hstops
      · intro hstops
        cases hstops with
        | here hstops => exact .inl hstops
        | @later _ _ _ r _ hr hstops =>
          -- The run names its own path, which is that of the file.
          obtain rfl : r.path = path := Option.some.inj (hr.path.symm.trans hpath)
          exact .inr ⟨r.text, _, ⟨r, hr, rfl, rfl, rfl⟩, hstops⟩

/-- **What is emitted of a program** is what a run of its emitted files has written. -/
theorem emit_yields_iff {emission : Emission} : (p.emit t).Yields before emission found ↔
    ∃ runs, p.EmitsFiles t before p.emitted runs ∧
      emission = ⟨p.skipsEmit, runs.map FileRun.written⟩ ∧
        found = runs.flatMap FileRun.reports := by
  rw [emit, emitted]
  cases hskips : p.skipsEmit with
  | true =>
    simp only [if_true, Action.yields_pure]
    constructor
    · rintro ⟨rfl, rfl⟩
      exact ⟨[], .nil, rfl, rfl⟩
    · rintro ⟨runs, hruns, rfl, rfl⟩
      cases hruns
      exact ⟨rfl, rfl⟩
  | false =>
    simp only [Bool.false_eq_true, if_false, Action.yields_bind, Action.yields_pure,
      emitFiles_yields_iff]
    constructor
    · rintro ⟨_, _, _, ⟨runs, hruns, rfl, rfl⟩, ⟨rfl, rfl⟩, rfl⟩
      exact ⟨runs, hruns, rfl, by simp⟩
    · rintro ⟨runs, hruns, rfl, rfl⟩
      exact ⟨_, _, _, ⟨runs, hruns, rfl, rfl⟩, ⟨rfl, rfl⟩, by simp⟩

/-- The emission of a program stops where that of its emitted files does. -/
theorem emit_stops_iff : (p.emit t).Stops before e ↔ p.StopsFiles t before p.emitted e := by
  rw [emit, emitted]
  cases hskips : p.skipsEmit with
  | true =>
    simp only [if_true]
    exact iff_of_false Action.not_stops_pure nofun
  | false =>
    simp only [Bool.false_eq_true, if_false, Action.stops_bind, Action.not_stops_pure,
      emitFiles_stops_iff, and_false, exists_const, or_false]

end Files

end Program

end ScriptHost
