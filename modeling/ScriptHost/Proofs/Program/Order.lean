import ScriptHost.Proofs.Program.Complete
/-!
# The order of loading

A specifier is resolved with the modules that are declared by the files loaded
until then. A module that is declared by a file which is loaded later is seen by
the specifiers that come after that file, and missed by those before it.

- `Program.modulesBefore`: the modules that were declared before a specifier was resolved.
- `Program.InOrder`: a program was resolved in the order of its files and specifiers.
- `Program.load_inOrder`: loading goes in order, and what the order leaves out of sight.
-/

namespace ScriptHost

/-- The modules that a file declares for the whole program. -/
def SourceFile.modules (file : SourceFile) : List String := (Ambient.ofFile file).modules

namespace Program

/-! ## What was loaded before -/

/-- What was found before a specifier of a file was resolved. -/
def logBefore (p : Program) (file specifier : String) : List Lookup :=
  p.log.takeWhile fun e => !(e.file == file && e.specifier == specifier)

/-- The names of the files that were loaded before a specifier of a file was resolved: those with
which loading starts and those to which lookups before it lead. -/
def namesBefore (p : Program) (file specifier : String) : List String :=
  startNames p.host p.roots ++ (p.logBefore file specifier).filterMap Lookup.target?

/-- The modules that were declared before a specifier of a file was resolved. -/
def modulesBefore (p : Program) (file specifier : String) : List String :=
  (p.files.filter fun f => (p.namesBefore file specifier).contains f.name).flatMap
    SourceFile.modules

/-- The program was resolved in the order of its files and of their specifiers. -/
structure InOrder (p : Program) : Prop where
  /-- Files are resolved as they were loaded, each with its specifiers as they first occur. -/
  order : p.log.map (fun e => (e.file, e.specifier)) =
    p.files.flatMap fun file => file.specifiers.eraseDups.map fun specifier =>
      (file.name, specifier)
  /-- The modules of the program are those that its files declare. -/
  modules : ∀ name, name ∈ p.ambient.modules ↔ ∃ file ∈ p.files, name ∈ file.modules
  /-- A specifier is resolved with the modules that were declared before. -/
  resolved : ∀ file ∈ p.files, ∀ specifier ∈ file.specifiers,
    p.resolved file.name specifier =
      p.resolver.resolve (p.modulesBefore file.name specifier) file.name specifier
  /-- The modules of the finished program lead elsewhere for the specifiers that name one which
  was not declared before. -/
  settled : ∀ file ∈ p.files, ∀ specifier ∈ file.specifiers,
    (p.resolved file.name specifier =
        p.resolver.resolve p.ambient.modules file.name specifier ↔
      Resolver.isPath specifier = true ∨
        (specifier ∈ p.ambient.modules → specifier ∈ p.modulesBefore file.name specifier))

/-- The modules that files declare in turn are the modules of each. -/
theorem modules_foldl_add (files : List SourceFile) (a : Ambient) :
    (files.foldl Ambient.add a).modules = a.modules ++ files.flatMap SourceFile.modules := by
  induction files generalizing a with
  | nil => simp
  | cons file files ih =>
    rw [List.foldl_cons, ih, List.flatMap_cons, ← List.append_assoc]
    rfl

namespace Loaded

variable {c : Setting} {p : Program}

/-- The log follows the files and their specifiers. -/
theorem log_order (h : p.Loaded c) :
    p.log.map (fun e => (e.file, e.specifier)) =
      p.files.flatMap fun file => file.specifiers.eraseDups.map fun specifier =>
        (file.name, specifier) := by
  have hsetting := h.setting
  subst hsetting
  calc p.log.map (fun e => (e.file, e.specifier))
      = (p.resolutions.reverse.map fun r => (r.1, r.2.map (·.1))).flatMap
          fun r => r.2.map fun specifier => (r.1, specifier) := by
        rw [log, List.map_flatMap, List.flatMap_map]
        congr 1
        funext r
        simp [Lookup.ofKnown]
    _ = _ := by
        rw [h.recorded, h.holds.files, List.flatMap_map, List.flatMap_map]
        rfl

/-- The modules of a loaded program are those that its files declare. -/
theorem ambient_modules (h : p.Loaded c) :
    p.ambient.modules = p.files.flatMap SourceFile.modules := by
  rw [h.holds.ambient, modules_foldl_add, ← h.holds.files]
  rfl

/-- The lookup about a specifier follows from what was found before it. -/
theorem follows_logBefore (h : p.Loaded c) {file : SourceFile} (hfile : file ∈ p.files)
    {specifier : String} (hspecifier : specifier ∈ file.specifiers) :
    c.Follows (p.logBefore file.name specifier)
      ⟨file.name, specifier, p.resolved file.name specifier⟩ := by
  have hsetting := h.setting
  subst hsetting
  have hfile := h.holds.files ▸ hfile
  obtain ⟨name, hname, rfl⟩ := List.mem_map.1 hfile
  obtain ⟨answer, hanswer⟩ := h.exists_recorded hname hspecifier
  have hlog := h.recorded?_eq_some_iff.1 hanswer
  -- the first lookup about the specifier
  have hfind : (p.log.find? fun e => e.file == name && e.specifier == specifier).isSome :=
    List.find?_isSome.2 ⟨_, hlog, by simp⟩
  obtain ⟨e, he⟩ := Option.isSome_iff_exists.1 hfind
  obtain ⟨hmatch, before, after, hsplit, hbefore⟩ := List.find?_eq_some_iff_append.1 he
  simp only [Bool.and_eq_true, beq_iff_eq] at hmatch
  obtain ⟨rfl, rfl⟩ := hmatch
  have hrecorded : p.recorded? e.file e.specifier = some e.answer :=
    h.recorded?_eq_some_iff.2 (hsplit ▸ List.mem_append_right _ List.mem_cons_self)
  have hlogBefore : p.logBefore e.file e.specifier = before := by
    rw [logBefore, hsplit, List.takeWhile_append_of_pos hbefore,
      List.takeWhile_cons_of_neg (by simp), List.append_nil]
  have hprefix : before ++ [e] <+: p.log := ⟨after, by rw [hsplit]; simp⟩
  have hfollows := h.derived before e hprefix
  rw [Host.file_name, hlogBefore, resolved, hrecorded]
  exact hfollows

/-- The names that were loaded before a specifier are those that the lookups before it load. -/
theorem mem_namesBefore_iff (h : p.Loaded c) {file specifier name : String} :
    name ∈ p.namesBefore file specifier ↔ name ∈ c.names (p.logBefore file specifier) := by
  have hsetting := h.setting
  subst hsetting
  rw [namesBefore, List.mem_append, List.mem_filterMap, Setting.mem_names_iff]
  rfl

/-- The modules that were declared before a specifier are those that the lookups before it
declare. -/
theorem mem_modulesBefore_iff (h : p.Loaded c) {file specifier name : String} :
    name ∈ p.modulesBefore file specifier ↔
      name ∈ c.modules (c.names (p.logBefore file specifier)) := by
  have hhost : p.host = c.host := congrArg Setting.host h.setting
  rw [modulesBefore, Setting.modules, modules_foldl_add, List.nil_append, List.mem_flatMap,
    List.mem_flatMap]
  constructor
  · rintro ⟨f, hf, hname⟩
    obtain ⟨hmem, hbefore⟩ := List.mem_filter.1 hf
    rw [h.holds.files, hhost] at hmem
    obtain ⟨other, -, rfl⟩ := List.mem_map.1 hmem
    rw [List.contains_iff_mem, h.mem_namesBefore_iff] at hbefore
    exact ⟨_, List.mem_map.2 ⟨other, hbefore, rfl⟩, hname⟩
  · rintro ⟨f, hf, hname⟩
    obtain ⟨other, hbefore, rfl⟩ := List.mem_map.1 hf
    have hprefix : p.logBefore file specifier <+: p.log := List.takeWhile_prefix _
    have hloaded := (Setting.names_prefix hprefix).subset hbefore
    refine ⟨_, List.mem_filter.2 ⟨?_, ?_⟩, hname⟩
    · rw [h.holds.files, hhost]
      exact List.mem_map.2 ⟨other, hloaded, rfl⟩
    · rw [List.contains_iff_mem, h.mem_namesBefore_iff]
      exact hbefore

/-- A specifier is resolved with the modules that were declared before. -/
theorem resolved_eq (h : p.Loaded c) {file : SourceFile} (hfile : file ∈ p.files)
    {specifier : String} (hspecifier : specifier ∈ file.specifiers) :
    p.resolved file.name specifier =
      p.resolver.resolve (p.modulesBefore file.name specifier) file.name specifier := by
  have hsetting := h.setting
  subst hsetting
  refine (h.follows_logBefore hfile hspecifier).answer.trans ?_
  exact Resolver.resolve_eq_iff.2 (.inr h.mem_modulesBefore_iff.symm)

/-- What was declared before a specifier is declared by the program. -/
theorem modulesBefore_subset (h : p.Loaded c) (file specifier : String) :
    p.modulesBefore file specifier ⊆ p.ambient.modules := by
  intro name hname
  rw [h.ambient_modules]
  obtain ⟨f, hf, hname⟩ := List.mem_flatMap.1 hname
  exact List.mem_flatMap.2 ⟨f, (List.mem_filter.1 hf).1, hname⟩

/-- A loaded program was resolved in order. -/
theorem inOrder (h : p.Loaded c) : p.InOrder := by
  constructor
  case order => exact h.log_order
  case modules =>
    intro name
    rw [h.ambient_modules, List.mem_flatMap]
  case resolved => exact fun file hfile specifier => h.resolved_eq hfile
  case settled =>
    intro file hfile specifier hspecifier
    rw [h.resolved_eq hfile hspecifier, Resolver.resolve_eq_iff]
    have hsub := h.modulesBefore_subset file.name specifier
    exact or_congr_right ⟨fun hiff => hiff.2, fun himp => ⟨fun hmem => hsub hmem, himp⟩⟩

end Loaded

/-- **Resolution goes in order.** Whatever the files, the roots and the options are, loading
leaves a complete program. A specifier is resolved in it with the modules of the files that were
loaded before, and this is resolution with the modules of the whole program exactly if the module
that it names was declared by then or is declared nowhere. -/
theorem load_inOrder (v : VirtualFiles) (options : CompilerOptions) (roots : List String) :
    (load v.host options roots).Complete ∧ (load v.host options roots).InOrder := by
  have hs : (Setting.mk v.host options roots).host.Settled := v.host_settled
  exact ⟨(loaded_load hs).complete, (loaded_load hs).inOrder⟩

/-- A file that imports a module before the package that declares it. -/
def importBeforePackage : Program :=
  load
    (VirtualFiles.ofMaps (.ofList [("a.ts", "import 'm'; import 'p';")])
      (.ofList [("node_modules/p/index.ts", "declare module 'm' {}")]) {}).host {} ["a.ts"]

/-- The modules of the finished program may lead elsewhere than the recorded answers. -/
theorem importBeforePackage_missed :
    ¬ ∀ file ∈ importBeforePackage.files, ∀ specifier ∈ file.specifiers,
      importBeforePackage.resolved file.name specifier =
        importBeforePackage.resolver.resolve importBeforePackage.ambient.modules file.name
          specifier := by
  decide +kernel

end Program

end ScriptHost
