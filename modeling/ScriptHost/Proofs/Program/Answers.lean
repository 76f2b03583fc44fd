import ScriptHost.Proofs.Host.Declaration
import ScriptHost.Proofs.Host.Spelling
import ScriptHost.Proofs.Program.Resolution
import ScriptHost.Proofs.Program.Slices
/-!
# Answers of resolution

Over the files of two sets, what a specifier refers to is a file that is there
and that a program can load, or a module that is declared under its name. No
alias, description of a package or ending of an output leads anywhere else.

- `VirtualFiles.exists?_canonicalName`: what exists does so under its name.
- `VirtualFiles.endsWithAny_canonicalName`: a name ends like the paths it is for.
- `Resolver.Answers`, `VirtualFiles.resolve_answers`: what resolution may answer.
-/

namespace ScriptHost

/-! ## Names of files that exist -/

namespace VirtualFiles

/-- What exists does so under its name. -/
theorem exists?_canonicalName {v : VirtualFiles} {path : String}
    (h : v.host.exists? path = true) : v.host.exists? (v.host.canonicalName path) = true := by
  obtain ⟨key, hkey⟩ := Option.isSome_iff_exists.1 h
  obtain ⟨hslash, hown⟩ := key?_key? (Path.canonical_canonical path) hkey
  show (v.key? (Path.canonical ((v.key? (Path.canonical path)).getD _))).isSome = true
  rw [hkey, Option.getD_some, hslash, hown, Option.isSome_some]

/-- The name of a path ends as the path does, in some case. -/
theorem endsWithAny_canonicalName {v : VirtualFiles} {endings : List String} {path : String}
    (hslash : ∀ e ∈ endings, Path.canonical e = e)
    (hchars : ∀ e ∈ endings, e.toList.Forall (· ∈ endingChars))
    (h : Path.endsWithAny endings (Path.lowerAscii path) = true) :
    Path.endsWithAny endings (Path.lowerAscii (v.host.canonicalName path)) = true := by
  obtain ⟨hname, hfold⟩ := v.canonicalName_spec path
  rw [Path.fold_of_canonical hname, Path.fold] at hfold
  exact Path.endsWithAny_of_lowerCase_eq hchars hfold (Path.endsWithAny_canonical hslash h)

end VirtualFiles

namespace Path

/-- Declarations have types. -/
theorem endsWithAny_of_isDeclaration {path : String} (h : isDeclaration path = true) :
    endsWithAny [".ts", ".tsx", ".mts", ".cts"] (lowerAscii path) = true := by
  rw [isDeclaration, endsWithAny_iff] at h
  obtain ⟨e, he, hsuffix⟩ := h
  have hall : ∀ e ∈ [".d.ts", ".d.mts", ".d.cts"],
      ∃ e' ∈ [".ts", ".tsx", ".mts", ".cts"], e'.toList <:+ e.toList := by decide
  obtain ⟨e', he', hend⟩ := hall e he
  exact endsWithAny_iff.2 ⟨e', he', hend.trans hsuffix⟩

end Path

/-! ## Answers -/

/-- What resolution may answer for a specifier when some modules are declared. -/
structure Resolver.Answers (r : Resolver) (modules : List String) (specifier : String)
    (answer : Resolution) : Prop where
  /-- A file is there, under its own name, and ends in some case like one with types or, where
  these are allowed, like one without. -/
  file : ∀ name, answer = .file name →
    r.host.exists? name = true ∧ r.host.canonicalName name = name ∧
      (Path.endsWithAny [".ts", ".tsx", ".mts", ".cts"] (Path.lowerAscii name) = true ∨
        r.options.allowJs = true ∧
          Path.endsWithAny [".js", ".jsx", ".mjs", ".cjs"] (Path.lowerAscii name) = true)
  /-- A module is declared, and the specifier names it and is no path. -/
  ambient : ∀ name, answer = .ambient name →
    name = specifier ∧ Resolver.isPath specifier = false ∧ specifier ∈ modules

namespace Resolver

/-- A found file is there under its own name, which ends like the path by which it was found. -/
theorem FindsSource.spec {v : VirtualFiles} {options : CompilerOptions} {name : String}
    (h : (Resolver.mk options v.host).FindsSource name) :
    v.host.exists? name = true ∧ v.host.canonicalName name = name ∧
      (Path.endsWithAny [".ts", ".tsx", ".mts", ".cts"] (Path.lowerAscii name) = true ∨
        options.allowJs = true ∧
          Path.endsWithAny [".js", ".jsx", ".mjs", ".cjs"] (Path.lowerAscii name) = true) := by
  obtain ⟨path, hpath, hsource, rfl⟩ := h
  refine ⟨VirtualFiles.exists?_canonicalName hpath,
    v.host_settled.canonicalName_canonicalName path, ?_⟩
  rw [namesSource, Bool.or_eq_true, Bool.and_eq_true] at hsource
  rcases hsource with htyped | ⟨hallowed, hscript⟩
  · exact .inl (VirtualFiles.endsWithAny_canonicalName (by decide) (by decide) htyped)
  · exact .inr ⟨hallowed,
      VirtualFiles.endsWithAny_canonicalName (by decide) (by decide) hscript⟩

end Resolver

namespace VirtualFiles

/-- **What resolution answers**, over any two sets of files: a file that is there, under its own
name and with the ending of one that can be compiled, or a declared module with the name of the
specifier. No cut of a text in it fails, and what can be compiled with types includes all
declarations. -/
theorem resolve_answers (v : VirtualFiles) (options : CompilerOptions) (modules : List String)
    (file specifier : String) :
    (∀ answer, (Resolver.mk options v.host).resolve modules file specifier = some answer →
        (Resolver.mk options v.host).Answers modules specifier answer) ∧
      (Resolver.mk options v.host).checkedResolve modules file specifier =
        some ((Resolver.mk options v.host).resolve modules file specifier) ∧
      ∀ path, Path.isDeclaration path = true →
        Path.endsWithAny [".ts", ".tsx", ".mts", ".cts"] (Path.lowerAscii path) = true := by
  refine ⟨fun answer h => ⟨?_, ?_⟩, Resolver.checkedResolve_eq _ modules file specifier,
    fun path => Path.endsWithAny_of_isDeclaration⟩
  · rintro name rfl
    exact (Resolver.findsSource_of_resolve h).spec
  · rintro name rfl
    obtain ⟨hpath, hdeclared, hname⟩ := Resolver.resolve_eq_ambient_iff.1 h
    exact ⟨hname, hpath, hdeclared⟩

end VirtualFiles

end ScriptHost
