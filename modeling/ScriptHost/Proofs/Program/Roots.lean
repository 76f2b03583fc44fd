import ScriptHost.Proofs.Compile.Success
import ScriptHost.Proofs.Host.Spelling
/-!
# What is found of external files

The paths of external files are kept as they are spelled, and what is looked up
has slashes. An external file whose own path has backslashes is therefore never
found, and a root of this path has another file's text, or none at all.

- `CompiledText.eq_own`, `VirtualFiles.Presents.sourceText_eq_own`: when a root has its own text.
- `VirtualFiles.host_finds`: which paths exist, and what is compiled for a root.
- `Compiler.backslashedRoot_missed`: a root that is compiled without its text.
-/

namespace ScriptHost

variable {input external : SortedMap String} {root own text : String}

/-- The only external file of its path is compiled from its own text, if its path has slashes. -/
theorem CompiledText.eq_own (htext : CompiledText input external root text)
    (hown : (root, own) ∈ external.entries) (hslash : Path.canonical root = root)
    (hsole : ∀ key ∈ external.keys, Path.canonical key = key → Path.fold key = Path.fold root →
      key = root) : text = own := by
  have hmem : root ∈ external.keys := List.mem_map_of_mem hown
  cases htext with
  | @external key _ hentry hkeySlash hfold =>
    obtain rfl : key = root := hsole key (List.mem_map_of_mem hentry) hkeySlash hfold
    exact SortedMap.eq_of_mem_entries hentry hown
  | input hnone => exact absurd rfl (hnone root hmem hslash)
  | nothing hnone => exact absurd rfl (hnone root hmem hslash)

namespace VirtualFiles

variable {v : VirtualFiles}

/-- An external file that the input does not hold, too, is compiled from its own text, if its path
has slashes. -/
theorem Presents.sourceText_eq_own (hv : v.Presents input external)
    (hown : (root, own) ∈ external.entries) (hslash : Path.canonical root = root)
    (hmissing : ∀ key ∈ input.keys, Path.fold key ≠ Path.fold root) :
    v.host.sourceText (v.host.canonicalName root) = own := by
  have hinput : v.input.key? (Path.canonical root) = none := by
    rw [← Option.not_isSome_iff_eq_none, hv.isSome_input]
    rintro ⟨key, hkey, hfold⟩
    exact hmissing key hkey hfold
  have hexternal : v.external.key? root = some root :=
    FileSet.key?_of_mem (hv.external ▸ List.mem_map_of_mem hown)
  have hname : v.host.canonicalName root = root := by
    show (v.key? (Path.canonical root)).getD (Path.canonical root) = root
    rw [key?, hinput, Option.none_or, hslash, hexternal, Option.getD_some]
  have htext : v.external.text? root = some own :=
    FileSet.text?_eq_some_iff.2 ⟨root, hexternal, hv.external ▸ hown⟩
  rw [hname]
  show ((v.external.text? root).or (v.input.text? root)).getD "" = own
  rw [htext, Option.some_or, Option.getD_some]

/-- **What is found.** A path exists if the input holds it under some spelling, or the external
files under one with slashes, and what exists can be read. A root is compiled from the text of an
external file that is found under its path, or else from one of the input, or else from nothing.
This is the root's own text if its path has slashes, unless the external files hold another spelling
of it with slashes and the input holds one, too. -/
theorem host_finds (hv : v.Presents input external) :
    (∀ path, v.host.exists? path = true ↔ (∃ key ∈ input.keys, Path.fold key = Path.fold path) ∨
      ∃ key ∈ external.keys, Path.canonical key = key ∧ Path.fold key = Path.fold path) ∧
    (∀ path, v.host.exists? path = true ↔ ∃ text, v.host.read? path = some text) ∧
    ∀ options roots, ∀ root ∈ roots, ∃ file text,
      (Program.load v.host options roots).file? root = some file ∧
      file.text = SourceFile.withoutMark text ∧ CompiledText input external root text ∧
      ∀ own, (root, own) ∈ external.entries → Path.canonical root = root →
        ((∀ key ∈ input.keys, Path.fold key ≠ Path.fold root) ∨
          ∀ key ∈ external.keys, Path.canonical key = key → Path.fold key = Path.fold root →
            key = root) → text = own := by
  refine ⟨hv.exists?_iff, fun path => ?_, fun options roots root hroot => ?_⟩
  · rw [← isSome_read?, Option.isSome_iff_exists]
  · have hloaded : (Program.load v.host options roots).Loaded ⟨v.host, options, roots⟩ :=
      Program.loaded_load (c := ⟨v.host, options, roots⟩) v.host_settled
    have hname : v.host.canonicalName root ∈ (Setting.mk v.host options roots).names
        (Program.load v.host options roots).log :=
      Setting.mem_names_iff.2 (.inl (List.mem_map_of_mem (List.mem_append_left _ hroot)))
    refine ⟨_, _, (hloaded.file?_eq hname).1, rfl, hv.compiledText root, ?_⟩
    intro own hown hslash hwhen
    rcases hwhen with hmissing | hsole
    · exact hv.sourceText_eq_own hown hslash hmissing
    · exact (hv.compiledText root).eq_own hown hslash hsole

end VirtualFiles

namespace Compiler

/-- A compiler with two external files, of which one has a backslash in its path. -/
def backslashedRoot : Compiler :=
  { external := .ofList
      [("n/b.d.ts", "declare const y: number;"), ("n\\a.d.ts", "declare const x: number;")] }

/-- A file to compile whose path has a backslash. -/
def backslashedInput : SortedMap String := .ofList [("s\\A.ts", "x;")]

/-- A file to compile is found under another spelling of its path with a backslash, an external file
is not found under its own, and one without a backslash is compiled from its own text. -/
theorem backslashedRoot_finds :
    (backslashedRoot.files backslashedInput).Presents backslashedInput backslashedRoot.external ∧
    (backslashedRoot.files backslashedInput).host.exists? "S/a.ts" = true ∧
    (∃ text, (backslashedRoot.files backslashedInput).host.read? "S/a.ts" = some text) ∧
    (backslashedRoot.files backslashedInput).host.exists? "n\\a.d.ts" = false ∧
    ∃ file, (backslashedRoot.program backslashedInput).file? "n/b.d.ts" = some file ∧
      file.text = SourceFile.withoutMark "declare const y: number;" := by
  have hv : (backslashedRoot.files backslashedInput).Presents backslashedInput
      backslashedRoot.external :=
    (VirtualFiles.ofMaps_presents backslashedInput backslashedRoot.external {}).indexedBy .byPath
  obtain ⟨hexists, hread, hroot⟩ := VirtualFiles.host_finds hv
  have hfound : (backslashedRoot.files backslashedInput).host.exists? "S/a.ts" = true :=
    (hexists "S/a.ts").2 (.inl ⟨"s\\A.ts", by decide +kernel, by decide +kernel⟩)
  have hlost : (backslashedRoot.files backslashedInput).host.exists? "n\\a.d.ts" = false :=
    Bool.eq_false_iff.2 fun h => absurd ((hexists "n\\a.d.ts").1 h) (by decide +kernel)
  obtain ⟨file, text, hfile, htext, -, hown⟩ := hroot backslashedRoot.options
    (backslashedInput.keys ++ backslashedRoot.ambientRoots) "n/b.d.ts" (by decide +kernel)
  refine ⟨hv, hfound, (hread "S/a.ts").1 hfound, hlost, file, hfile, ?_⟩
  rw [htext, hown "declare const y: number;" (by decide +kernel) (by decide +kernel)
    (.inl (by decide +kernel))]

/-- A root whose path has a backslash does not exist and cannot be read, and it is compiled from
nothing in place of its own text. -/
theorem backslashedRoot_missed :
    ("n\\a.d.ts", "declare const x: number;") ∈ backslashedRoot.external.entries ∧
    "n\\a.d.ts" ∈ backslashedRoot.ambientRoots ∧
    (backslashedRoot.files .empty).host.exists? "n\\a.d.ts" = false ∧
    (backslashedRoot.files .empty).host.read? "n\\a.d.ts" = none ∧
    ((backslashedRoot.program .empty).file? "n\\a.d.ts").map (·.text) = some "" := by
  decide +kernel

end Compiler

end ScriptHost
