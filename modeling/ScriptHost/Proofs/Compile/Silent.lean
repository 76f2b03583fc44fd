import ScriptHost.Proofs.Compile.Lint
import ScriptHost.Proofs.Compile.Repeated
import ScriptHost.Proofs.Program.Respelled
/-!
# Linters that find nothing

A compiler with a linter compiles the files of a call with slashes in their
paths, and a compiler without one compiles them as they are spelled. The same
files are seen, but their order is that of other texts, and of paths that differ
in separators alone one is left. Two calls may also index the paths in different
orders. So with a linter that finds nothing the answer is the one without a
linter exactly if slashes keep the order of the paths, and no two of them differ
in case alone where a third spelling is looked up.

- `LintingCompiler.Silent`: the linter finds nothing in any file.
- `LintingCompiler.KeepsOrder`: slashes keep the order of paths.
- `LintingCompiler.compile_canonicalInput`: when separators do not matter to an answer.
- `LintingCompiler.testing`: a compiler whose answer tells whether a program passes a test.
- `LintingCompiler.compile_silent_iff`: when a linter that finds nothing changes nothing.
-/

namespace ScriptHost

/-- The provider of a compiler does not tell spellings of the roots of a call apart that differ in
separators alone. -/
def Compiler.IgnoresSpelling (c : Compiler) : Prop :=
  ∀ provider, c.provider = some provider → ∀ (input : SortedMap String) (roots : List String),
    (c.program input).roots.map Path.canonical = roots.map Path.canonical →
      provider ((c.program input).withRoots roots) = provider (c.program input)

namespace LintingCompiler

/-- The linter of a compiler finds nothing in any file: it fails, or it has no message. -/
def Silent (c : LintingCompiler) : Prop :=
  ∀ p rules path source messages, c.linter p rules path source = some messages → messages = []

/-- The paths of an input are different and in order with slashes, too. -/
def KeepsOrder (input : SortedMap String) : Prop :=
  input.keys.Pairwise fun key other => Path.canonical key < Path.canonical other

variable {c : LintingCompiler} {input : SortedMap String}

/-! ## Inputs with slashes -/

/-- The files that a call sees do not depend on the separators in the paths of its input. -/
theorem files_canonicalInput (c : Compiler) (input : SortedMap String) :
    c.files (canonicalInput input) = c.files input := by
  simp only [Compiler.files, VirtualFiles.indexedBy, VirtualFiles.ofMaps,
    ofCanonical_canonicalInput]

/-- Slashes keep the order of the paths exactly if each path is there with slashes, in turn. -/
theorem keys_canonicalInput_iff :
    (canonicalInput input).keys = input.keys.map Path.canonical ↔ KeepsOrder input := by
  constructor
  · intro h
    have hsorted : (canonicalInput input).keys.Pairwise (· < ·) :=
      List.pairwise_map.2 (canonicalInput input).increasing
    rw [h] at hsorted
    exact List.pairwise_map.1 hsorted
  · intro h
    have hsorted : (input.entries.map fun e => (Path.canonical e.1, e.2)).Pairwise
        (fun a b => a.1 < b.1) :=
      List.pairwise_map.2 (List.pairwise_map.1 h : input.entries.Pairwise _)
    have hentries : (canonicalInput input).entries =
        input.entries.map fun e => (Path.canonical e.1, e.2) :=
      SortedMap.entries_ofList hsorted
    rw [SortedMap.keys, hentries, SortedMap.keys, List.map_map, List.map_map]
    rfl

/-- A path is known under the same name with slashes. -/
theorem canonicalName_canonical (v : VirtualFiles) (path : String) :
    v.host.canonicalName (Path.canonical path) = v.host.canonicalName path := by
  show (v.key? (Path.canonical (Path.canonical path))).getD (Path.canonical (Path.canonical path)) =
    (v.key? (Path.canonical path)).getD (Path.canonical path)
  rw [Path.canonical_canonical]

/-- Roots that differ in separators alone have the same names. -/
theorem names_of_canonical {v : VirtualFiles} {roots others : List String}
    (h : roots.map Path.canonical = others.map Path.canonical) :
    roots.map v.host.canonicalName = others.map v.host.canonicalName := by
  have hnames (l : List String) :
      l.map v.host.canonicalName = (l.map Path.canonical).map v.host.canonicalName := by
    rw [List.map_map]
    exact List.map_congr_left fun path _ => (canonicalName_canonical v path).symm
  rw [hnames roots, hnames others, h]

/-- The roots of a call, and the same with slashes in the paths of its input. -/
theorem roots_canonical (c : Compiler) (input : SortedMap String) :
    (input.keys ++ c.ambientRoots).map Path.canonical =
      (input.keys.map Path.canonical ++ c.ambientRoots).map Path.canonical := by
  rw [List.map_append, List.map_append, List.map_map]
  refine congrArg (· ++ _) (List.map_congr_left fun key _ => ?_)
  exact (Path.canonical_canonical key).symm

/-- With slashes in the paths of the input, the program of a call has other spellings of the same
roots, if their order is kept. -/
theorem program_canonicalInput (c : Compiler) (h : KeepsOrder input) :
    c.program (canonicalInput input) =
      (c.program input).withRoots (input.keys.map Path.canonical ++ c.ambientRoots) := by
  rw [Compiler.program, Compiler.program, files_canonicalInput, keys_canonicalInput_iff.2 h]
  exact Program.load_withRoots c.options (names_of_canonical (roots_canonical c input))

/-- Roots that differ in separators alone from those of the program of a call have the same names
in it. -/
theorem names_program_of_canonical {c : Compiler} {roots : List String}
    (h : (c.program input).roots.map Path.canonical = roots.map Path.canonical) :
    (c.program input).roots.map (c.program input).host.canonicalName =
      roots.map (c.program input).host.canonicalName := by
  rw [c.program_host]
  exact names_of_canonical h

/-- A call is answered alike for roots that differ in separators alone, if the provider does not
tell them apart. -/
theorem compileProgram_withRoots {c : Compiler} (hc : c.IgnoresSpelling) {roots : List String}
    (h : (c.program input).roots.map Path.canonical = roots.map Path.canonical) :
    c.compileProgram ((c.program input).withRoots roots) =
      c.compileProgram (c.program input) := by
  have hnames := names_program_of_canonical h
  have htransformers :
      c.transformers ((c.program input).withRoots roots) = c.transformers (c.program input) := by
    rw [Compiler.transformers, Compiler.transformers]
    cases hprovider : c.provider with
    | none => rfl
    | some provider => exact hc provider hprovider input roots h
  rw [Compiler.compileProgram, Compiler.compileProgram, htransformers]
  simp only [Program.emit_withRoots hnames, Program.preEmitErrors_withRoots]

/-- **Separators do not matter** to an answer, if slashes keep the order of the paths and the
provider does not look at how the roots are spelled. -/
theorem compile_canonicalInput {c : Compiler} (hc : c.IgnoresSpelling) (h : KeepsOrder input) :
    c.compile (canonicalInput input) = c.compile input := by
  have hspelled : (c.program input).roots.map Path.canonical =
      (input.keys.map Path.canonical ++ c.ambientRoots).map Path.canonical := by
    rw [c.program_roots]
    exact roots_canonical c input
  rw [Compiler.compile, Compiler.compile, program_canonicalInput c h,
    compileProgram_withRoots hc hspelled]

/-! ## Linters that find nothing -/

theorem unlinted_silent (c : Compiler) : (unlinted c).Silent := by
  intro p rules path source messages h
  exact (Option.some.inj h).symm

/-- A linter that finds nothing adds nothing to the answer for the files with slashes. -/
theorem compile_of_silent (hsilent : c.Silent) (input : SortedMap String) :
    c.compile input = some (c.compiler.compile (canonicalInput input)) := by
  have hnone : (c.linted (c.compiler.program (canonicalInput input))
      (canonicalInput input)).flatMap LintedFile.placed = [] := by
    refine List.flatMap_eq_nil_iff.2 fun f hf => ?_
    obtain ⟨-, hmessages⟩ := ((c.linted_verified _ _).mem_iff f).1 hf
    rw [LintedFile.placed, hsilent _ _ _ _ _ hmessages, List.map_nil]
  rcases c.compile_eq input with ⟨e, hplain, hanswer⟩ | ⟨output, found, hplain, hanswer⟩
  · exact hanswer.trans (congrArg some hplain.symm)
  · rw [hanswer, lint_eq, hnone, List.mapM_nil]
    show some (Answer.ofDiagnostics output (found ++ [])) = _
    rw [List.append_nil]
    exact congrArg some hplain.symm

/-! ## Providers that look at programs -/

/-- A compiler that stops unless its program passes a test. -/
def testing (test : Program → Bool) : Compiler where
  options := { noEmit := true }
  provider := some fun p =>
    if test p then return {} else Action.stop "the program does not pass"

/-- A test that does not tell spellings of the roots apart. -/
theorem testing_ignoresSpelling {test : Program → Bool} (i : Indexing)
    (h : ∀ (p : Program) (roots : List String),
      p.roots.map p.host.canonicalName = roots.map p.host.canonicalName →
        test (p.withRoots roots) = test p) :
    ((testing test).indexedBy i).IgnoresSpelling := by
  intro provider hprovider input roots hroots
  have htest := h _ roots (names_program_of_canonical hroots)
  obtain rfl := Option.some.inj hprovider
  simp only [htest]

/-- A call stops exactly if its program does not pass. -/
theorem testing_stops_iff (test : Program → Bool) (i : Indexing) (input : SortedMap String) :
    (∃ e, ((testing test).indexedBy i).compile input = .exception e) ↔
      test (((testing test).indexedBy i).program input) = false := by
  generalize hc : (testing test).indexedBy i = c
  cases hpasses : test (c.program input) with
  | true =>
    have hprovides : c.transformers (c.program input) = return {} := by
      subst hc
      exact if_pos hpasses
    have hskips : (c.program input).skipsEmit = true := by
      rw [Program.skipsEmit, Compiler.program_options]
      subst hc
      rfl
    have hemitted : (c.program input).emitted = [] := if_pos hskips
    have hcompiles : c.Compiles input ⟨{}, [], []⟩ := by
      constructor
      · rw [hprovides]
        exact Action.yields_pure.2 ⟨rfl, rfl⟩
      · rw [hemitted]
        exact .nil
    rw [hcompiles.compile_eq]
    refine iff_of_false ?_ Bool.noConfusion
    rintro ⟨e, he⟩
    cases Answer.has_iff.2 he.symm
  | false =>
    have hprovides : c.transformers (c.program input) =
        Action.stop "the program does not pass" := by
      subst hc
      exact if_neg (by rw [hpasses]; exact Bool.false_ne_true)
    have haborts : c.Aborts input (.stopped "the program does not pass") := by
      refine .provider ?_
      rw [hprovides]
      exact Action.stops_throw.2 rfl
    exact iff_of_true ⟨_, haborts.compile_eq⟩ rfl

/-- Calls that are answered alike have programs that pass alike. -/
theorem testing_congr {test : Program → Bool} {i j : Indexing} {input other : SortedMap String}
    (h : ((testing test).indexedBy i).compile input =
      ((testing test).indexedBy j).compile other) :
    test (((testing test).indexedBy i).program input) =
      test (((testing test).indexedBy j).program other) := by
  rw [Bool.eq_iff_iff, ← Bool.not_eq_false, ← Bool.not_eq_false, not_iff_not,
    ← testing_stops_iff, ← testing_stops_iff, h]

/-! ## Tests of the order of files -/

/-- Whether the files to compile are in the order of their paths. -/
def inOrder (p : Program) : Bool :=
  decide ((p.emittable.map (·.name)).Pairwise (· < ·))

/-- The files to compile of a call without external files are those of its input, in their order. -/
theorem names_emittable_testing (test : Program → Bool) (i : Indexing) (input : SortedMap String) :
    (((testing test).indexedBy i).program input).emittable.map (·.name) =
      input.keys.map Path.canonical := by
  generalize hc : (testing test).indexedBy i = c
  have hroots : input.keys ++ c.ambientRoots = input.keys := by
    subst hc
    exact List.append_nil _
  have hnames : input.keys.map (c.files input).host.canonicalName =
      input.keys.map Path.canonical :=
    List.map_congr_left fun key hkey => (Compiler.canonicalName_of_mem_keys hkey).1
  rw [Compiler.names_emittable, Compiler.rootNames, hroots, hnames, List.filter_eq_self]
  intro name hname
  obtain ⟨key, hkey, rfl⟩ := List.mem_map.1 hname
  rw [(Compiler.canonicalName_of_mem_keys hkey).2]
  rfl

theorem inOrder_testing_iff (test : Program → Bool) (i : Indexing) (input : SortedMap String) :
    inOrder (((testing test).indexedBy i).program input) = true ↔ KeepsOrder input := by
  rw [inOrder, decide_eq_true_iff, names_emittable_testing, List.pairwise_map]
  rfl

/-- Paths with slashes are in their order. -/
theorem keepsOrder_canonicalInput (input : SortedMap String) :
    KeepsOrder (canonicalInput input) := by
  rw [← keys_canonicalInput_iff]
  have hslashes : ∀ key ∈ (canonicalInput input).keys, Path.canonical key = key :=
    fun _ hkey => FileSet.canonical_of_mem_ofCanonical hkey
  rw [canonicalInput_of_slashes hslashes]
  exact ((List.map_congr_left hslashes).trans (List.map_id _)).symm

/-! ## Tests of names -/

/-- Whether a path is known under a name. -/
def knows (path name : String) (p : Program) : Bool := p.host.canonicalName path == name

/-- A path with slashes that is among the files to compile is known as it is held there. -/
theorem knows_testing_iff (test : Program → Bool) (i : Indexing) (input : SortedMap String)
    {path : String} (name : String) (hpath : Path.canonical path = path)
    (hheld : (((FileSet.ofCanonical input).indexedBy i).key? path).isSome) :
    knows path name (((testing test).indexedBy i).program input) = true ↔
      ((FileSet.ofCanonical input).indexedBy i).key? path = some name := by
  obtain ⟨key, hkey⟩ := Option.isSome_iff_exists.1 hheld
  rw [knows, Compiler.program_host, beq_iff_eq, hkey, Option.some_inj]
  have hname : (((testing test).indexedBy i).files input).host.canonicalName path = key := by
    show ((((FileSet.ofCanonical input).indexedBy i).key? (Path.canonical path)).or _).getD _ = key
    rw [hpath, hkey, Option.some_or, Option.getD_some]
  rw [hname]

/-! ## When a linter that finds nothing changes nothing -/

/-- What a linter that finds nothing leaves unchanged is in order with slashes. -/
theorem keepsOrder_of_unchanged (h : ∀ c : LintingCompiler, c.Silent → c.compiler.IgnoresSpelling →
      ∀ i, c.compile input = some ((c.compiler.indexedBy i).compile input)) :
    KeepsOrder input := by
  have hignores : ((testing inOrder).indexedBy .byPath).IgnoresSpelling :=
    testing_ignoresSpelling .byPath fun p roots hroots => by
      rw [inOrder, inOrder, Program.emittable_withRoots hroots]
  have hsilent := unlinted_silent ((testing inOrder).indexedBy .byPath)
  have hsame := testing_congr (Option.some.inj
    ((compile_of_silent hsilent input).symm.trans (h _ hsilent hignores .byPath)))
  rw [← inOrder_testing_iff inOrder .byPath, ← hsame, inOrder_testing_iff]
  exact keepsOrder_canonicalInput input

/-- What a linter that finds nothing leaves unchanged does not depend on the order of the index. -/
theorem definite_of_unchanged (h : ∀ c : LintingCompiler, c.Silent → c.compiler.IgnoresSpelling →
      ∀ i, c.compile input = some ((c.compiler.indexedBy i).compile input)) :
    (FileSet.ofCanonical input).Definite := by
  refine FileSet.definite_iff.2 fun i j path => ?_
  have hheld : (((FileSet.ofCanonical input).indexedBy i).key? path).isSome ↔
      (((FileSet.ofCanonical input).indexedBy j).key? path).isSome := by
    rw [FileSet.key?_isSome_iff, FileSet.key?_isSome_iff]
    rfl
  cases hname : ((FileSet.ofCanonical input).indexedBy i).key? path with
  | none =>
    rw [hname, Option.isSome_none, iff_comm, iff_false_right Bool.false_ne_true,
      Option.not_isSome_iff_eq_none] at hheld
    exact hheld.symm
  | some name =>
    obtain ⟨hmem, hlow⟩ := FileSet.key?_spec hname
    have hpath : Path.canonical path = path :=
      Path.canonical_of_lowerCase_eq hlow (FileSet.canonical_of_mem_ofCanonical hmem)
    rw [← ofCanonical_canonicalInput] at hname
    -- the compiler that asks for the name passes in the one order, and so in the other one
    have hignores : ((testing (knows path name)).indexedBy i).IgnoresSpelling :=
      testing_ignoresSpelling i fun _ _ _ => rfl
    have hsilent := unlinted_silent ((testing (knows path name)).indexedBy i)
    have hsame := testing_congr (Option.some.inj
      ((compile_of_silent hsilent input).symm.trans (h _ hsilent hignores j)))
    have hknown := (knows_testing_iff (knows path name) i (canonicalInput input) name hpath
      (Option.isSome_of_eq_some hname)).2 hname
    rw [ofCanonical_canonicalInput] at hname
    exact ((knows_testing_iff (knows path name) j input name hpath
      (hheld.1 (Option.isSome_of_eq_some hname))).1 (hsame.symm.trans hknown)).symm

/-- **When a linter that finds nothing changes nothing.** It answers what the compiler answers for
the files with slashes in their paths, if this indexes the paths in the same order, and if the files
are definite, in any order. So it changes nothing if all paths have slashes, too; and if some do
not, then it changes nothing for any compiler whose provider does not look at the spelling of
roots, in calls with any orders, exactly if the paths are different and in order with slashes, too,
and the files are definite. -/
theorem compile_silent_iff (input : SortedMap String) :
    (∀ c : LintingCompiler, c.Silent →
      c.compile input = some (c.compiler.compile (canonicalInput input))) ∧
    ((FileSet.ofCanonical input).Definite → ∀ c : LintingCompiler, c.Silent →
      ∀ i, c.compile input = some ((c.compiler.indexedBy i).compile (canonicalInput input))) ∧
    ((FileSet.ofCanonical input).Definite → (∀ key ∈ input.keys, Path.canonical key = key) →
      ∀ c : LintingCompiler, c.Silent →
        ∀ i, c.compile input = some ((c.compiler.indexedBy i).compile input)) ∧
    ((∀ c : LintingCompiler, c.Silent → c.compiler.IgnoresSpelling →
      ∀ i, c.compile input = some ((c.compiler.indexedBy i).compile input)) ↔
        KeepsOrder input ∧ (FileSet.ofCanonical input).Definite) := by
  have hdefinite (h : (FileSet.ofCanonical input).Definite) (c : LintingCompiler)
      (hsilent : c.Silent) (i : Indexing) :
      c.compile input = some ((c.compiler.indexedBy i).compile (canonicalInput input)) := by
    rw [compile_of_silent hsilent]
    exact congrArg some (compile_indexedBy c.compiler ((ofCanonical_canonicalInput input).symm ▸ h)
      c.compiler.indexing i)
  refine ⟨fun c hsilent => compile_of_silent hsilent input, hdefinite,
    fun h hslashes c hsilent i => ?_, fun h => ⟨keepsOrder_of_unchanged h, definite_of_unchanged h⟩,
    fun ⟨hkeeps, h⟩ c hsilent hc i => ?_⟩
  · rw [hdefinite h c hsilent i, canonicalInput_of_slashes hslashes]
  · rw [compile_of_silent hsilent, compile_canonicalInput hc hkeeps]
    exact congrArg some (compile_indexedBy c.compiler h c.compiler.indexing i)

/-- Two files, the first one with a backslash in its path, and in the same order with a slash. -/
def orderedInput : SortedMap String := .ofList [("a\\b.ts", "y;"), ("c.ts", "x;")]

/-- A linter that finds nothing leaves the diagnostics as they are, also in a call that indexes the
files in another order. -/
theorem orderedInput_unchanged : KeepsOrder orderedInput ∧
    (FileSet.ofCanonical orderedInput).Definite ∧ (unlinted checkingOnly).Silent ∧
    (unlinted checkingOnly).compile orderedInput =
      some ((checkingOnly.indexedBy (.first "c.ts")).compile orderedInput) := by
  have hkeeps : KeepsOrder orderedInput := by
    rw [KeepsOrder]
    decide +kernel
  have hdefinite : (FileSet.ofCanonical orderedInput).Definite := by
    have happart : ((FileSet.ofCanonical orderedInput).files.keys.map lowerCase).Nodup := by
      decide +kernel
    exact FileSet.definite_of_nodup happart
  have hsilent := unlinted_silent checkingOnly
  have hignores : checkingOnly.IgnoresSpelling := by
    intro provider hprovider
    cases hprovider
  exact ⟨hkeeps, hdefinite, hsilent,
    (compile_silent_iff orderedInput).2.2.2.2 ⟨hkeeps, hdefinite⟩ _ hsilent hignores _⟩

/-- Two files, the second one with a backslash in its path, and in another order with a slash. -/
def backslashedInput : SortedMap String := .ofList [("aB.ts", "x;"), ("a\\b.ts", "y;")]

/-- A linter that finds nothing turns the order of the diagnostics around. -/
theorem backslashedInput_reordered : (unlinted checkingOnly).Silent ∧
    ((unlinted checkingOnly).compile backslashedInput).map
        (fun answer => answer.diagnostics.map (·.file)) = some [some "a/b.ts", some "aB.ts"] ∧
    (checkingOnly.compile backslashedInput).diagnostics.map (·.file) =
      [some "aB.ts", some "a/b.ts"] := by
  refine ⟨unlinted_silent checkingOnly, ?_⟩
  decide +kernel

end LintingCompiler

end ScriptHost
