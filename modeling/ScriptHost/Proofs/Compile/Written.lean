import ScriptHost.Proofs.Compile.Output
import ScriptHost.Proofs.Host.Declaration
/-!
# What is written

An emission writes the outputs of the input, all of them and nothing else. What
others depend on is read and checked, and never written, and neither are
declarations, however their endings are spelled.

- `Compiler.Compilable`: what every emitted file is.
- `Compiler.emit_names_eq`: the texts of an emission are those of the emitted files.
- `Compiler.emit_writes`: what an emission writes.
-/

namespace ScriptHost

namespace Compiler

variable {c : Compiler} {input : SortedMap String} {file : SourceFile}

/-- A file is compiled for its own sake: it is known under a path of the input, and it is neither
one to depend on nor the default library, and no declaration. -/
structure Compilable (c : Compiler) (input : SortedMap String) (file : SourceFile) : Prop where
  own : ∃ key ∈ input.keys, (c.files input).host.canonicalName key = file.name
  /-- The file is no spelling of an external file that the input does not hold, too. -/
  not_external : ∀ key ∈ c.external.keys, (∀ own ∈ input.keys, Path.fold own ≠ Path.fold key) →
    Path.fold file.name ≠ Path.fold key
  not_library : (c.files input).host.isLibrary file.name = false
  not_defaultLib : Path.fold file.name ≠ Path.fold c.environment.defaultLib
  not_declaration : file.isDeclaration = false

/-- A file of the input that has an output is compiled for its own sake, if the default library is a
declaration. -/
theorem compilable_of_mem_emittedPaths
    (hlib : Path.isDeclaration (Path.canonical c.environment.defaultLib) = true)
    (h : file.name ∈ c.emittedPaths input) : c.Compilable input file := by
  obtain ⟨hmem, houtput⟩ := mem_emittedPaths_iff.1 h
  obtain ⟨key, hkey, hname⟩ := List.mem_map.1 hmem
  obtain ⟨hcanonical, hlibrary⟩ := canonicalName_of_mem_keys (c := c) hkey
  have hfold : Path.fold key = Path.fold file.name := by rw [← hname, Path.fold_canonical]
  have hslash : Path.canonical file.name = file.name := by rw [← hname, Path.canonical_canonical]
  have hdeclares : Path.isDeclaration file.name = false := (Path.outputName_eq_some_iff.1 houtput).1
  constructor
  case own => exact ⟨key, hkey, hcanonical.trans hname⟩
  case not_external =>
    intro external _ hnone
    rw [← hfold]
    exact hnone key hkey
  case not_library => exact hname ▸ hlibrary
  case not_defaultLib =>
    intro hsame
    rw [Path.fold_of_canonical hslash] at hsame
    rw [Path.isDeclaration_of_lowerCase_eq hsame hlib] at hdeclares
    cases hdeclares
  case not_declaration => exact hdeclares

/-- The texts of an emission are those of the emitted files, in turn. -/
theorem emit_names_eq {t : Transformers} {before found : List Report} {emission : Emission}
    (hemit : ((c.program input).emit t).Yields before emission found) :
    emission.names.map some =
      (c.program input).emitted.map fun file => Path.outputName file.name c.options.allowJs := by
  obtain ⟨runs, hruns, rfl, -⟩ := Program.emit_yields_iff.1 hemit
  rw [← program_options c input, ← hruns.paths_eq, Emission.names, List.map_map, List.map_map]
  rfl

/-- The outputs of the paths of an input are those of the names under which they are known. -/
theorem mem_image_outputPath_iff {path : String} :
    path ∈ (c.emittedPaths input).toFinset.image c.outputPath ↔ ∃ key ∈ input.keys,
      Path.outputName ((c.files input).host.canonicalName key) c.options.allowJs = some path := by
  simp only [Finset.mem_image, List.mem_toFinset, mem_emittedPaths_iff]
  constructor
  · rintro ⟨name, ⟨hmem, houtput⟩, rfl⟩
    obtain ⟨key, hkey, rfl⟩ := List.mem_map.1 hmem
    exact ⟨key, hkey, by rw [(canonicalName_of_mem_keys hkey).1, houtput]⟩
  · rintro ⟨key, hkey, houtput⟩
    rw [(canonicalName_of_mem_keys hkey).1] at houtput
    have hpath : c.outputPath (Path.canonical key) = path := by
      rw [outputPath, houtput, Option.getD_some]
    exact ⟨Path.canonical key, ⟨List.mem_map_of_mem hkey, hpath.symm ▸ houtput⟩, hpath⟩

/-- **What an emission writes**, in the environment that is there by default: the outputs of the
paths of the input, as they are known, whatever errors their files have. Every text is that of a
file that is compiled for its own sake, and no file of the input that has an output is left out. -/
theorem emit_writes (hdefault : c.environment = {}) {t : Transformers}
    {before found : List Report} {emission : Emission}
    (hemit : ((c.program input).emit t).Yields before emission found)
    (hskipped : emission.skipped = false) :
    (∀ path, path ∈ emission.output.keys ↔ ∃ key ∈ input.keys,
      Path.outputName ((c.files input).host.canonicalName key) c.options.allowJs = some path) ∧
    emission.names.map some = (c.program input).emitted.map
      (fun file => Path.outputName file.name c.options.allowJs) ∧
    (∀ file ∈ (c.program input).emitted, c.Compilable input file) ∧
    ∀ key ∈ input.keys,
      (Path.outputName ((c.files input).host.canonicalName key) c.options.allowJs).isSome →
        ∃ file ∈ (c.program input).emitted,
          file.name = (c.files input).host.canonicalName key := by
  have hambient : Path.isDeclaration c.environment.ambientEnding = true := by
    rw [hdefault]
    decide +kernel
  have hlib : Path.isDeclaration (Path.canonical c.environment.defaultLib) = true := by
    rw [hdefault]
    decide +kernel
  have hskips : (c.program input).skipsEmit = false := by
    obtain ⟨runs, -, rfl, -⟩ := Program.emit_yields_iff.1 hemit
    exact hskipped
  refine ⟨fun path => ?_, emit_names_eq hemit, fun file hfile => ?_, fun key hkey houtput => ?_⟩
  · rw [← List.mem_toFinset, keys_output_eq hemit hskipped hambient, mem_image_outputPath_iff]
  · exact compilable_of_mem_emittedPaths hlib
      ((mem_emitted_iff hskips hambient).1 ⟨file, hfile, rfl⟩)
  · rw [(canonicalName_of_mem_keys hkey).1] at houtput ⊢
    exact (mem_emitted_iff hskips hambient).2
      (List.mem_filter.2 ⟨List.mem_map_of_mem hkey, houtput⟩)

/-- A compiler with an external file that is spelled like one of the input, one that is imported,
and a declaration. -/
def withLibrary : Compiler where
  options := { target := .esNext, allowJs := true }
  external := .ofList [("SRC/main.ts", "0;"), ("lib/dep.ts", "1;"), ("p/index.d.ts", "2;")]

/-- Files to compile, one of which cannot be read and one of which is a declaration. -/
def mixedInput : SortedMap String :=
  .ofList [("src\\Main.ts", "3;"), ("src/broken.ts", "const = 4;"),
    ("src/run.js", "import '../lib/dep';"), ("src/types.D.TS", "declare const t: number;")]

/-- A file that cannot be read is written like the others, and what is there to depend on and
declarations are not. -/
theorem mixedInput_written :
    withLibrary.environment = {} ∧ (withLibrary.program mixedInput).preEmitErrors ≠ [] ∧
    "lib/dep.ts" ∈ (withLibrary.program mixedInput).files.map (·.name) ∧
    ∃ emission, ((withLibrary.program mixedInput).emit {}).Yields [] emission [] ∧
      emission.skipped = false ∧
      (∀ path ∈ ["src/Main.js", "src/broken.js", "src/run.js"], path ∈ emission.output.keys) ∧
      (∀ path ∈ ["SRC/main.js", "lib/dep.js", "p/index.d.js", "src/types.D.js"],
        path ∉ emission.output.keys) ∧
      ∀ file ∈ (withLibrary.program mixedInput).emitted,
        withLibrary.Compilable mixedInput file := by
  have hfiles : (withLibrary.program mixedInput).preEmitErrors ≠ [] ∧
      "lib/dep.ts" ∈ (withLibrary.program mixedInput).files.map (·.name) ∧
      ((withLibrary.program mixedInput).emit {}).passes
        (fun emission reports => reports.isEmpty && !emission.skipped) = true := by
    decide +kernel
  obtain ⟨herrors, hlibrary, hpasses⟩ := hfiles
  obtain ⟨emission, found, hemit, hcheck⟩ := Action.yields_of_passes hpasses
  simp only [Bool.and_eq_true, List.isEmpty_iff, Bool.not_eq_true'] at hcheck
  obtain ⟨rfl, hskipped⟩ := hcheck
  obtain ⟨hkeys, -, hcompilable, -⟩ := emit_writes (c := withLibrary) rfl hemit hskipped
  refine ⟨rfl, herrors, hlibrary, emission, hemit, hskipped, ?_, ?_, hcompilable⟩
  · simp only [hkeys]
    decide +kernel
  · simp only [hkeys]
    decide +kernel

end Compiler

end ScriptHost
