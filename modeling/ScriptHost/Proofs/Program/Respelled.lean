import ScriptHost.Proofs.Program.Files
import ScriptHost.Emit.Program
/-!
# Roots in another spelling

A program keeps its roots as they are spelled, and nothing that is done with the
program looks at them but to find their files. So roots of the same names in the
same order give the same program but for the spelling of the roots, and this
program has the same errors and is compiled to the same files.

- `Program.withRoots`: a program with other roots.
- `Loading.run_withRoots`: no step of loading looks at the roots.
- `Program.load_withRoots`: the program of roots in another spelling.
- `Program.emit_withRoots`: what such a program is compiled to.
-/

namespace ScriptHost

/-- The program with other roots. -/
def Program.withRoots (p : Program) (roots : List String) : Program := { p with roots }

/-- The same state of loading for a program with other roots. -/
def Loading.withRoots (s : Loading) (roots : List String) : Loading :=
  { s with program := s.program.withRoots roots }

/-! ## Loading -/

namespace Program

variable {p : Program} {roots : List String}

theorem addFile_withRoots (p : Program) (roots : List String) (path : String) :
    (p.withRoots roots).addFile path = (p.addFile path).withRoots roots := by
  by_cases h : p.hasFile (p.cache.get p.host path).1.name = true
  · have hsame : p.addFile path = _ := if_pos h
    rw [hsame]
    exact if_pos h
  · have hmore : p.addFile path = _ := if_neg h
    rw [hmore]
    exact if_neg h

/-- A file is added by the name of its path. -/
theorem addFile_congr {path other : String}
    (h : p.host.canonicalName path = p.host.canonicalName other) :
    p.addFile path = p.addFile other := by
  have hget : p.cache.get p.host path = p.cache.get p.host other := by
    simp only [SourceCache.get, h]
  rw [addFile, addFile, hget]

theorem addFiles_withRoots (p : Program) (roots paths : List String) :
    paths.foldl addFile (p.withRoots roots) = (paths.foldl addFile p).withRoots roots := by
  induction paths generalizing p with
  | nil => rfl
  | cons path paths ih => rw [List.foldl_cons, addFile_withRoots, ih, List.foldl_cons]

/-- Files are added by the names of their paths. -/
theorem addFiles_congr {paths others : List String}
    (h : paths.map p.host.canonicalName = others.map p.host.canonicalName) :
    paths.foldl addFile p = others.foldl addFile p := by
  induction paths generalizing p others with
  | nil =>
    obtain rfl : others = [] := List.map_eq_nil_iff.1 h.symm
    rfl
  | cons path paths ih =>
    obtain ⟨other, others, rfl, hname, hnames⟩ := List.map_eq_cons_iff.1 h.symm
    rw [List.foldl_cons, List.foldl_cons, addFile_congr hname]
    refine ih ?_
    rw [addFile_host]
    exact hnames.symm

/-- Loading starts with the same files for roots in another spelling. -/
theorem start_withRoots {host : Host} (options : CompilerOptions) {roots others : List String}
    (h : roots.map host.canonicalName = others.map host.canonicalName) :
    start host options others = (start host options roots).withRoots others := by
  have hpaths : (startPaths host roots).map host.canonicalName =
      (startPaths host others).map host.canonicalName := by
    rw [startPaths, startPaths, List.map_append, List.map_append, h]
  rw [start_eq_addFiles, start_eq_addFiles, ← addFiles_withRoots]
  exact (addFiles_congr (p := { options, host, roots := others }) hpaths).symm

end Program

namespace Loading

theorem follow_withRoots (s : Loading) (roots : List String) (found : Option Resolution) :
    (s.withRoots roots).follow found = (s.follow found).withRoots roots := by
  cases found with
  | none => rfl
  | some resolution =>
    cases resolution with
    | ambient name => rfl
    | file target =>
      by_cases h : s.program.hasFile target = true
      · have hsame : s.follow (some (.file target)) = s := if_pos h
        rw [hsame]
        exact if_pos h
      · have hmore : s.follow (some (.file target)) = _ := if_neg h
        have hmore' : (s.withRoots roots).follow (some (.file target)) = _ := if_neg h
        rw [hmore, hmore', withRoots, Program.addFile_withRoots]
        rfl

theorem resolveSpecifier_withRoots (file : SourceFile) (s : Loading) (known : Resolutions)
    (roots : List String) (specifier : String) :
    resolveSpecifier file (s.withRoots roots, known) specifier =
      ((resolveSpecifier file (s, known) specifier).1.withRoots roots,
        (resolveSpecifier file (s, known) specifier).2) := by
  simp only [resolveSpecifier]
  split
  · rfl
  · rw [← follow_withRoots]
    rfl

theorem resolveSpecifiers_withRoots (file : SourceFile) (state : Loading × Resolutions)
    (roots specifiers : List String) :
    specifiers.foldl (resolveSpecifier file) (state.1.withRoots roots, state.2) =
      ((specifiers.foldl (resolveSpecifier file) state).1.withRoots roots,
        (specifiers.foldl (resolveSpecifier file) state).2) := by
  induction specifiers generalizing state with
  | nil => rfl
  | cons specifier specifiers ih =>
    rw [List.foldl_cons, resolveSpecifier_withRoots, List.foldl_cons]
    exact ih _

theorem resolveFile_withRoots (s : Loading) (roots : List String) (file : SourceFile) :
    (s.withRoots roots).resolveFile file = (s.resolveFile file).withRoots roots := by
  have hspecifiers := resolveSpecifiers_withRoots file (s, []) roots file.specifiers
  simp only [resolveFile, hspecifiers]
  rfl

theorem next?_withRoots (s : Loading) (roots : List String) :
    (s.withRoots roots).next? = s.next?.map (·.withRoots roots) := by
  obtain ⟨p, queue⟩ := s
  cases queue with
  | nil => rfl
  | cons i queue =>
    show (p.files[i]?).map _ = ((p.files[i]?).map _).map _
    rw [Option.map_map]
    congr 1
    funext file
    exact resolveFile_withRoots ⟨p, queue⟩ roots file

/-- **No step of loading looks at the roots.** -/
theorem run_withRoots (fuel : Nat) (s : Loading) (roots : List String) :
    (s.withRoots roots).run fuel = (s.run fuel).withRoots roots := by
  induction fuel generalizing s with
  | zero => rfl
  | succ fuel ih =>
    rw [run, run, next?_withRoots]
    cases s.next? with
    | none => rfl
    | some s => exact ih s

end Loading

namespace Program

/-- **The program of roots in another spelling** is the same but for the spelling of its roots. -/
theorem load_withRoots {host : Host} (options : CompilerOptions) {roots others : List String}
    (h : roots.map host.canonicalName = others.map host.canonicalName) :
    load host options others = (load host options roots).withRoots others := by
  have hlength : others.length = roots.length := by
    simpa using (congrArg List.length h).symm
  have hstart : Loading.start host options others =
      (Loading.start host options roots).withRoots others := by
    simp only [Loading.start, start_withRoots options h]
    rfl
  rw [load, load, hstart, Loading.run_withRoots, Loading.bound, Loading.bound, hlength]
  rfl

/-! ## What is done with a program -/

theorem exportsWithin_withRoots (p : Program) (roots : List String) (fuel : Nat) :
    (p.withRoots roots).exportsWithin fuel = p.exportsWithin fuel := by
  induction fuel with
  | zero => rfl
  | succ fuel ih =>
    funext name seen
    simp only [exportsWithin, ih]
    rfl

theorem exports_withRoots (p : Program) (roots : List String) :
    (p.withRoots roots).exports = p.exports := by
  funext name
  rw [exports, exportsWithin_withRoots]
  rfl

theorem fileErrors_withRoots (p : Program) (roots : List String) :
    (p.withRoots roots).fileErrors = p.fileErrors := by
  funext file
  have hmembers : (p.withRoots roots).checkMembers file = p.checkMembers file := by
    funext item
    simp only [checkMembers, exports_withRoots]
    rfl
  rw [fileErrors, fileErrors, checkImports, hmembers]
  rfl

/-- The errors of a program do not depend on the spelling of its roots. -/
theorem preEmitErrors_withRoots (p : Program) (roots : List String) :
    (p.withRoots roots).preEmitErrors = p.preEmitErrors := by
  simp only [preEmitErrors, semanticErrors, fileErrors_withRoots]
  rfl

/-- The files to compile are those of the names of the roots. -/
theorem emittable_withRoots {p : Program} {roots : List String}
    (h : p.roots.map p.host.canonicalName = roots.map p.host.canonicalName) :
    (p.withRoots roots).emittable = p.emittable := by
  have hfiles (l : List String) :
      l.filterMap p.file? = (l.map p.host.canonicalName).filterMap p.fileNamed := by
    rw [List.filterMap_map]
    rfl
  have hroots : roots.filterMap p.file? = p.roots.filterMap p.file? := by
    rw [hfiles, hfiles, h]
  rw [emittable, emittable, ← hroots]
  rfl

theorem emitFiles_withRoots (p : Program) (roots : List String) (t : Transformers)
    (files : List SourceFile) : (p.withRoots roots).emitFiles t files = p.emitFiles t files := by
  induction files with
  | nil => rfl
  | cons file files ih =>
    rw [emitFiles, emitFiles, ih]
    rfl

/-- **What a program is compiled to** does not depend on the spelling of its roots. -/
theorem emit_withRoots {p : Program} {roots : List String}
    (h : p.roots.map p.host.canonicalName = roots.map p.host.canonicalName) (t : Transformers) :
    (p.withRoots roots).emit t = p.emit t := by
  have hskips : (p.withRoots roots).skipsEmit = p.skipsEmit := by
    rw [skipsEmit, preEmitErrors_withRoots]
    rfl
  rw [emit, emit, hskips, emittable_withRoots h, emitFiles_withRoots]

end Program

end ScriptHost
