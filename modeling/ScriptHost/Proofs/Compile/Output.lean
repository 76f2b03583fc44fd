import Mathlib.Data.Finset.Card
import ScriptHost.Proofs.Compile.Reports
import ScriptHost.Proofs.Compile.Success
import ScriptHost.Proofs.Host.OutputName
import ScriptHost.Proofs.Host.Spelling
/-!
# How many texts an emission leaves

A text is written for each file of the input that has an output. Of files that
are spelled differently, two have one output only if one of them is a file
without types under the name of the output for the other: then its own text is
lost.

- `Compiler.emittedPaths`: the files of an input that have an output.
- `Compiler.overwrittenPaths`: those where the output for another one goes.
- `Program.EmitsFiles.paths_eq`: a run writes to the outputs of its files.
- `Compiler.emit_size`: how many texts an emission leaves.
-/

namespace ScriptHost

/-- A run writes to the outputs of its files, in turn. -/
theorem Program.EmitsFiles.paths_eq {p : Program} {t : Transformers} {before : List Report}
    {files : List SourceFile} {runs : List FileRun} (h : p.EmitsFiles t before files runs) :
    runs.map (some ·.path) = files.map fun f => Path.outputName f.name p.options.allowJs := by
  induction h with
  | nil => rfl
  | cons hr _ ih => rw [List.map_cons, List.map_cons, ih, hr.path]

namespace Compiler

/-- The paths of the files of an input that have an output. -/
def emittedPaths (c : Compiler) (input : SortedMap String) : List String :=
  (input.keys.map Path.canonical).filter fun path =>
    (Path.outputName path c.options.allowJs).isSome

/-- Of these, the paths where the output for another one goes. -/
def overwrittenPaths (c : Compiler) (input : SortedMap String) : List String :=
  (c.emittedPaths input).filter fun path =>
    (c.emittedPaths input).any fun other => Path.outputName other false == some path

/-- The output for an emitted file. -/
def outputPath (c : Compiler) (path : String) : String :=
  (Path.outputName path c.options.allowJs).getD path

variable {c : Compiler} {input : SortedMap String} {path : String}

/-! ## Outputs of paths -/

theorem mem_emittedPaths_iff : path ∈ c.emittedPaths input ↔
    path ∈ input.keys.map Path.canonical ∧
      Path.outputName path c.options.allowJs = some (c.outputPath path) := by
  rw [emittedPaths, List.mem_filter, outputPath]
  refine and_congr_right fun _ => ?_
  cases Path.outputName path c.options.allowJs <;> simp

theorem mem_overwrittenPaths_iff : path ∈ c.overwrittenPaths input ↔
    path ∈ c.emittedPaths input ∧
      ∃ other ∈ c.emittedPaths input, Path.outputName other false = some path := by
  simp only [overwrittenPaths, List.mem_filter, List.any_eq_true, beq_iff_eq]

/-- What is overwritten is written to its own path. -/
theorem outputPath_of_overwritten (h : path ∈ c.overwrittenPaths input) :
    c.outputPath path = path := by
  obtain ⟨hmem, other, -, hother⟩ := mem_overwrittenPaths_iff.1 h
  exact Path.eq_of_outputName_false (mem_emittedPaths_iff.1 hmem).2 (Path.outputName_output hother)

/-- What overwrites is not overwritten. -/
theorem not_overwritten_of_output {other : String} (h : Path.outputName other false = some path) :
    other ∉ c.overwrittenPaths input := by
  intro hother
  obtain ⟨-, another, -, hanother⟩ := mem_overwrittenPaths_iff.1 hother
  cases h.symm.trans (Path.outputName_output hanother)

/-- Where files without types have no output, nothing is overwritten. -/
theorem overwrittenPaths_of_not_allowJs (h : c.options.allowJs = false) :
    c.overwrittenPaths input = [] := by
  refine List.eq_nil_iff_forall_not_mem.2 fun path hpath => ?_
  obtain ⟨hmem, other, -, hother⟩ := mem_overwrittenPaths_iff.1 hpath
  have hemitted := (mem_emittedPaths_iff.1 hmem).2
  rw [h, Path.outputName_output hother] at hemitted
  cases hemitted

/-- **Which emitted files have one output**, if no two are spelled alike but for case. -/
theorem clash_of_nodup
    (h : (input.keys.map fun path => lowerCase (Path.canonical path)).Nodup) {first second : String}
    (hfirst : first ∈ c.emittedPaths input) (hsecond : second ∈ c.emittedPaths input)
    (hne : first ≠ second) (hsame : c.outputPath first = c.outputPath second) :
    c.options.allowJs = true ∧
      (Path.outputName first false = some second ∨ Path.outputName second false = some first) := by
  obtain ⟨hmem, hname⟩ := mem_emittedPaths_iff.1 hfirst
  obtain ⟨hmem', hname'⟩ := mem_emittedPaths_iff.1 hsecond
  rw [← hsame] at hname'
  refine (Path.outputName_clash hname hname').resolve_left fun hcase => hne ?_
  rw [← Function.comp_def lowerCase, ← List.map_map] at h
  exact List.inj_on_of_nodup_map h hmem hmem' hcase

/-- How many outputs the emitted files have: as many as they are, but for those that are
overwritten. -/
theorem card_image_outputPath
    (h : (input.keys.map fun path => lowerCase (Path.canonical path)).Nodup) :
    ((c.emittedPaths input).toFinset.image c.outputPath).card + (c.overwrittenPaths input).length =
      (c.emittedPaths input).length := by
  have hpaths : (input.keys.map Path.canonical).Nodup := by
    rw [← Function.comp_def lowerCase, ← List.map_map] at h
    exact List.Nodup.of_map _ h
  have hemitted : (c.emittedPaths input).Nodup := hpaths.filter _
  have hover : (c.overwrittenPaths input).Nodup := hemitted.filter _
  have hsubset : (c.overwrittenPaths input).toFinset ⊆ (c.emittedPaths input).toFinset :=
    fun path hpath => List.mem_toFinset.2
      (mem_overwrittenPaths_iff.1 (List.mem_toFinset.1 hpath)).1
  have himage : (c.emittedPaths input).toFinset.image c.outputPath =
      ((c.emittedPaths input).toFinset \ (c.overwrittenPaths input).toFinset).image
        c.outputPath := by
    refine Finset.Subset.antisymm ?_ (Finset.image_subset_image Finset.sdiff_subset)
    intro name hname
    obtain ⟨path, hpath, rfl⟩ := Finset.mem_image.1 hname
    by_cases hlost : path ∈ c.overwrittenPaths input
    · obtain ⟨-, other, hother, houtput⟩ := mem_overwrittenPaths_iff.1 hlost
      have hsame : c.outputPath other = c.outputPath path := by
        rw [outputPath_of_overwritten hlost, outputPath,
          Path.outputName_of_false houtput c.options.allowJs, Option.getD_some]
      rw [← hsame]
      refine Finset.mem_image_of_mem _ (Finset.mem_sdiff.2 ⟨List.mem_toFinset.2 hother, ?_⟩)
      exact fun hmem => not_overwritten_of_output houtput (List.mem_toFinset.1 hmem)
    · refine Finset.mem_image_of_mem _ (Finset.mem_sdiff.2 ⟨hpath, ?_⟩)
      exact fun hmem => hlost (List.mem_toFinset.1 hmem)
  -- Of two files with one output, one is overwritten, so what is left has outputs of its own.
  have hinjective : Set.InjOn c.outputPath
      ((c.emittedPaths input).toFinset \ (c.overwrittenPaths input).toFinset : Finset String) := by
    intro first hfirst second hsecond hsame
    simp only [Finset.coe_sdiff, Set.mem_sdiff, Finset.mem_coe, List.mem_toFinset]
      at hfirst hsecond
    by_contra hne
    obtain ⟨-, houtput | houtput⟩ := clash_of_nodup h hfirst.1 hsecond.1 hne hsame
    · exact hsecond.2 (mem_overwrittenPaths_iff.2 ⟨hsecond.1, first, hfirst.1, houtput⟩)
    · exact hfirst.2 (mem_overwrittenPaths_iff.2 ⟨hfirst.1, second, hsecond.1, houtput⟩)
  rw [himage, Finset.card_image_of_injOn hinjective, ← List.toFinset_card_of_nodup hemitted,
    ← List.toFinset_card_of_nodup hover, Finset.card_sdiff_add_card_eq_card hsubset]

/-! ## Emitted files -/

theorem files_presents (c : Compiler) (input : SortedMap String) :
    (c.files input).Presents input c.external :=
  (VirtualFiles.ofMaps_presents input c.external c.environment).indexedBy c.indexing

theorem mem_keys_files_iff :
    path ∈ (c.files input).input.files.keys ↔ path ∈ input.keys.map Path.canonical :=
  FileSet.mem_keys_ofCanonical_iff

/-- A path of the input is known with slashes, and it is there to be compiled. -/
theorem canonicalName_of_mem_keys (h : path ∈ input.keys) :
    (c.files input).host.canonicalName path = Path.canonical path ∧
      (c.files input).host.isLibrary (Path.canonical path) = false := by
  have hmem : Path.canonical path ∈ (c.files input).input.files.keys :=
    mem_keys_files_iff.2 (List.mem_map_of_mem h)
  have hkey := FileSet.key?_of_mem hmem
  constructor
  · show ((c.files input).key? (Path.canonical path)).getD (Path.canonical path) = _
    rw [VirtualFiles.key?, hkey, Option.some_or, Option.getD_some]
  · show (((c.files input).input.key? (Path.canonical (Path.canonical path))).isNone && _) = false
    rw [Path.canonical_canonical, hkey]
    rfl

/-- Every root of a program has the file of its name. -/
theorem file?_of_mem_roots (h : path ∈ input.keys ++ c.ambientRoots) :
    (c.program input).file? path =
      some ((c.files input).host.file ((c.files input).host.canonicalName path)) := by
  have hname : (c.setting input).host.canonicalName path ∈
      (c.setting input).names (c.program input).log :=
    Setting.mem_names_iff.2 (.inl (List.mem_map_of_mem (List.mem_append_left _ h)))
  exact ((c.program_loaded input).file?_eq hname).1

/-- Files that every program includes are declarations, if their common ending is that of one. -/
theorem isDeclaration_of_mem_ambientRoots
    (hambient : Path.isDeclaration c.environment.ambientEnding = true) (h : path ∈ c.ambientRoots) :
    Path.isDeclaration (Path.canonical path) = true := by
  obtain ⟨ending, hending, hsuffix⟩ := Path.endsWithAny_iff.1 (List.mem_filter.1 h).2
  obtain rfl := List.mem_singleton.1 hending
  exact Path.isDeclaration_canonical (Path.isDeclaration_of_suffix hsuffix hambient)

/-- **Which files are emitted**, unless nothing is to be emitted: those of the input that have an
output. What others depend on only declares. -/
theorem mem_emitted_iff (hskips : (c.program input).skipsEmit = false)
    (hambient : Path.isDeclaration c.environment.ambientEnding = true) :
    (∃ file ∈ (c.program input).emitted, file.name = path) ↔ path ∈ c.emittedPaths input := by
  simp only [Program.emitted, hskips, Bool.false_eq_true, if_false, Program.emittable,
    program_host, program_options, program_roots, List.mem_filter, List.mem_filterMap,
    Bool.not_eq_true']
  constructor
  · rintro ⟨file, ⟨⟨⟨root, hroot, hfile⟩, hlibrary⟩, houtput⟩, rfl⟩
    rw [file?_of_mem_roots hroot] at hfile
    cases hfile
    rw [Host.file_name] at hlibrary houtput ⊢
    refine List.mem_filter.2 ⟨?_, houtput⟩
    have hv := c.files_presents input
    rcases hv.held_or_isLibrary_or_missing root with hheld | hlibrary' | hmissing
    · exact List.mem_map.2 (hv.exists_canonical_eq_name_iff.2 hheld)
    · cases hlibrary'.symm.trans hlibrary
    · have hname := VirtualFiles.canonicalName_of_not_exists hmissing
      rcases List.mem_append.1 hroot with hkey | hexternal
      · exact hname ▸ List.mem_map_of_mem hkey
      · -- A root of this kind only declares, and has no output.
        rw [hname, Path.outputName_of_isDeclaration
          (isDeclaration_of_mem_ambientRoots hambient hexternal)] at houtput
        cases houtput
  · intro h
    obtain ⟨hmem, houtput⟩ := List.mem_filter.1 h
    obtain ⟨key, hkey, rfl⟩ := List.mem_map.1 hmem
    obtain ⟨hname, hlibrary⟩ := canonicalName_of_mem_keys (c := c) hkey
    have hfile := file?_of_mem_roots (c := c) (List.mem_append_left _ hkey)
    rw [hname] at hfile
    refine ⟨_, ⟨⟨⟨key, List.mem_append_left _ hkey, hfile⟩, ?_⟩, ?_⟩, Host.file_name _ _⟩
    · rw [Host.file_name, hlibrary]
    · rw [Host.file_name]
      exact houtput

/-- The output for an emitted file has slashes in its path. -/
theorem canonical_outputPath (h : path ∈ c.emittedPaths input) :
    Path.canonical (c.outputPath path) = c.outputPath path := by
  obtain ⟨hmem, houtput⟩ := mem_emittedPaths_iff.1 h
  obtain ⟨key, -, rfl⟩ := List.mem_map.1 hmem
  exact Path.canonical_outputName (Path.canonical_canonical key) houtput

/-- The paths of the texts of an emission are the outputs of the emitted files. -/
theorem keys_output_eq {t : Transformers} {before found : List Report} {emission : Emission}
    (hemit : ((c.program input).emit t).Yields before emission found)
    (hskipped : emission.skipped = false)
    (hambient : Path.isDeclaration c.environment.ambientEnding = true) :
    emission.output.keys.toFinset = (c.emittedPaths input).toFinset.image c.outputPath := by
  obtain ⟨runs, hruns, rfl, -⟩ := Program.emit_yields_iff.1 hemit
  have hpaths := hruns.paths_eq
  rw [program_options] at hpaths
  have hemitted : ∀ {path}, (∃ file ∈ (c.program input).emitted, file.name = path) ↔
      path ∈ c.emittedPaths input := mem_emitted_iff hskipped hambient
  ext name
  rw [List.mem_toFinset, Emission.output, SortedMap.mem_keys_ofList_iff, Finset.mem_image]
  simp only [List.map_map, List.mem_map, List.mem_toFinset, Function.comp_apply, FileRun.written]
  constructor
  · rintro ⟨r, hr, rfl⟩
    have hmem : some r.path ∈ runs.map (some ·.path) := List.mem_map_of_mem hr
    rw [hpaths] at hmem
    obtain ⟨file, hfile, houtput⟩ := List.mem_map.1 hmem
    have hpath := hemitted.1 ⟨file, hfile, rfl⟩
    have hsame : r.path = c.outputPath file.name :=
      Option.some.inj (houtput.symm.trans (mem_emittedPaths_iff.1 hpath).2)
    exact ⟨file.name, hpath, by rw [hsame, canonical_outputPath hpath]⟩
  · rintro ⟨path, hpath, rfl⟩
    obtain ⟨file, hfile, rfl⟩ := hemitted.2 hpath
    have hmem : some (c.outputPath file.name) ∈
        (c.program input).emitted.map fun f => Path.outputName f.name c.options.allowJs :=
      List.mem_map.2 ⟨file, hfile, (mem_emittedPaths_iff.1 hpath).2⟩
    rw [← hpaths] at hmem
    obtain ⟨r, hr, hsame⟩ := List.mem_map.1 hmem
    exact ⟨r, hr, by rw [Option.some.inj hsame, canonical_outputPath hpath]⟩

/-- **How many texts an emission leaves**, if no two files of the input are spelled alike but for
case and separators. Two emitted files have one output only if files without types are emitted, too,
and one of the two is such a file under the name of the output for the other. An emission that is
not skipped leaves as many texts as there are emitted files, but for those that are overwritten. -/
theorem emit_size (c : Compiler) (input : SortedMap String)
    (hdistinct : (input.keys.map fun path => lowerCase (Path.canonical path)).Nodup) :
    (∀ first ∈ c.emittedPaths input, ∀ second ∈ c.emittedPaths input, first ≠ second →
      Path.outputName first c.options.allowJs = Path.outputName second c.options.allowJs →
        c.options.allowJs = true ∧ (Path.outputName first false = some second ∨
          Path.outputName second false = some first)) ∧
    (c.options.allowJs = false → c.overwrittenPaths input = []) ∧
    (Path.isDeclaration c.environment.ambientEnding = true →
      ∀ t before emission found, ((c.program input).emit t).Yields before emission found →
        emission.skipped = false →
          emission.output.size + (c.overwrittenPaths input).length =
            (c.emittedPaths input).length) := by
  refine ⟨fun first hfirst second hsecond hne hsame => ?_, overwrittenPaths_of_not_allowJs, ?_⟩
  · refine clash_of_nodup hdistinct hfirst hsecond hne ?_
    rw [(mem_emittedPaths_iff.1 hfirst).2, (mem_emittedPaths_iff.1 hsecond).2] at hsame
    exact Option.some.inj hsame
  · intro hambient t before emission found hemit hskipped
    have hsize : emission.output.size = emission.output.keys.toFinset.card := by
      rw [List.toFinset_card_of_nodup emission.output.nodup_keys, SortedMap.keys, List.length_map,
        SortedMap.size]
    rw [hsize, keys_output_eq hemit hskipped hambient]
    exact card_image_outputPath hdistinct

/-- Two files with one output leave one text. -/
theorem emit_scriptBesideTyped :
    ∃ emission, ((allowingScripts.program scriptBesideTyped).emit {}).Yields [] emission [] ∧
      emission.skipped = false ∧ emission.output.size = 1 := by
  have hpasses : ((allowingScripts.program scriptBesideTyped).emit {}).passes
      (fun emission reports =>
        reports.isEmpty && !emission.skipped && emission.output.size == 1) = true := by
    decide +kernel
  obtain ⟨emission, found, hemit, hcheck⟩ := Action.yields_of_passes hpasses
  simp only [Bool.and_eq_true, List.isEmpty_iff, Bool.not_eq_true', beq_iff_eq] at hcheck
  obtain ⟨⟨rfl, hskipped⟩, hsize⟩ := hcheck
  exact ⟨emission, hemit, hskipped, hsize⟩

/-- Of the two files, one is overwritten, and the other one leaves a text. -/
theorem scriptBesideTyped_size :
    ∃ emission, ((allowingScripts.program scriptBesideTyped).emit {}).Yields [] emission [] ∧
      allowingScripts.emittedPaths scriptBesideTyped = ["a.js", "a.ts"] ∧
      allowingScripts.overwrittenPaths scriptBesideTyped = ["a.js"] ∧
      emission.output.size + (allowingScripts.overwrittenPaths scriptBesideTyped).length =
        (allowingScripts.emittedPaths scriptBesideTyped).length := by
  obtain ⟨emission, hemit, hskipped, -⟩ := emit_scriptBesideTyped
  have hdistinct : (scriptBesideTyped.keys.map fun path =>
      lowerCase (Path.canonical path)).Nodup := by
    decide +kernel
  exact ⟨emission, hemit, by decide +kernel, by decide +kernel,
    (emit_size allowingScripts scriptBesideTyped hdistinct).2.2 (by decide +kernel) {} [] emission
      [] hemit hskipped⟩

/-- Two files that are spelled differently are emitted, and have one output. -/
theorem scriptBesideTyped_collides :
    (scriptBesideTyped.keys.map fun path => lowerCase (Path.canonical path)).Nodup ∧
      (∃ first ∈ allowingScripts.emittedPaths scriptBesideTyped,
        ∃ second ∈ allowingScripts.emittedPaths scriptBesideTyped, first ≠ second ∧
          Path.outputName first true = Path.outputName second true) ∧
      ∃ emission, ((allowingScripts.program scriptBesideTyped).emit {}).Yields [] emission [] ∧
        emission.skipped = false ∧
        emission.output.size ≠ (allowingScripts.emittedPaths scriptBesideTyped).length := by
  obtain ⟨emission, hemit, hskipped, hsize⟩ := emit_scriptBesideTyped
  refine ⟨by decide +kernel, by decide +kernel, emission, hemit, hskipped, ?_⟩
  rw [hsize]
  decide +kernel

end Compiler

end ScriptHost
