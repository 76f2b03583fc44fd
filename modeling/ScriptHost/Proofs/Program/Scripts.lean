import ScriptHost.Proofs.Program.Answers
import ScriptHost.Proofs.Program.Candidates
/-!
# Resolution with files without types

Where files without types are allowed, resolution has more candidates, and those
with types are the ones that it has without them, in their order. A specifier
therefore refers to what it refers to without them, unless the first candidate
that exists has no types. Such a candidate does not wait for those with types: a
file is looked for before a directory, and a nearer package before another.

- `Path.hasTypes`: whether a file has types, by its name.
- `Resolver.candidates_withJs_false`: the candidates with types.
- `Resolver.LeadsToScript`: the first candidate that exists has no types.
- `VirtualFiles.resolve_allowJs`: what allowing files without types changes.
-/

namespace ScriptHost

/-! ## Files with and without types -/

namespace Path

/-- Whether a file has types. -/
def hasTypes (path : String) : Bool :=
  endsWithAny [".ts", ".tsx", ".mts", ".cts"] (lowerAscii path)

/-- No file is both with types and without. -/
theorem hasTypes_eq_false_of_isJavaScript {path : String} (h : isJavaScript path = true) :
    hasTypes path = false := by
  rw [Bool.eq_false_iff]
  intro htypes
  obtain ⟨script, hscript, hend⟩ := endsWithAny_iff.1 h
  obtain ⟨typed, htyped, hend'⟩ := endsWithAny_iff.1 htypes
  -- of two endings of one path, one ends with the other
  have hapart : ∀ script ∈ [".js", ".jsx", ".mjs", ".cjs"],
      ∀ typed ∈ [".ts", ".tsx", ".mts", ".cts"],
        ¬ script.toList <:+ typed.toList ∧ ¬ typed.toList <:+ script.toList := by
    decide
  obtain ⟨hnot, hnot'⟩ := hapart script hscript typed htyped
  rcases List.suffix_or_suffix_of_suffix hend hend' with hsuffix | hsuffix
  · exact hnot hsuffix
  · exact hnot' hsuffix

end Path

namespace Resolver

/-- The same resolution, with files without types allowed or not. -/
def withJs (r : Resolver) (allowed : Bool) : Resolver :=
  { r with options := { r.options with allowJs := allowed } }

variable {r : Resolver}

/-! ## Candidates with types -/

/-- Without the others allowed, the files that can be compiled are those with types. -/
theorem namesSource_withJs_false (path : String) :
    (r.withJs false).namesSource path = Path.hasTypes path := by
  rw [namesSource, withJs, Bool.false_and, Bool.or_false]
  rfl

/-- The sources of an output have types. -/
theorem hasTypes_of_mem_sourceCandidates {path candidate : String}
    (h : candidate ∈ sourceCandidates path) : Path.hasTypes candidate = true := by
  obtain ⟨sources, hsources, hmem⟩ := List.mem_flatMap.1 h
  dsimp only at hmem
  split at hmem
  · obtain ⟨ending, hending, rfl⟩ := List.mem_map.1 hmem
    have hall : ∀ s ∈ sourceEndings, ∀ e ∈ s.2, Path.hasTypes e = true := by decide
    exact Path.endsWithAny_append (hall sources hsources ending hending) _
  · cases hmem

/-- Of the endings that a path may have, those with types are there in any case. -/
theorem filter_endings (path : String) :
    (r.endings.map (path ++ ·)).filter Path.hasTypes =
      (r.withJs false).endings.map (path ++ ·) := by
  have htyped : ∀ ending ∈ [".ts", ".tsx", ".d.ts"], Path.hasTypes (path ++ ending) = true := by
    have hall : ∀ ending ∈ [".ts", ".tsx", ".d.ts"], Path.hasTypes ending = true := by decide
    exact fun ending hmem => Path.endsWithAny_append (hall ending hmem) path
  have hscript : ∀ ending ∈ [".js", ".jsx"], Path.hasTypes (path ++ ending) = false := by
    have hall : ∀ ending ∈ [".js", ".jsx"], Path.isJavaScript ending = true := by decide
    exact fun ending hmem =>
      Path.hasTypes_eq_false_of_isJavaScript (Path.endsWithAny_append (hall ending hmem) path)
  simp only [List.forall_mem_cons, List.not_mem_nil, false_imp_iff, implies_true, and_true]
    at htyped hscript
  cases hallowed : r.options.allowJs <;>
    simp [endings, withJs, hallowed, htyped, hscript]

/-- The paths of a file with types are among those of the file, in their order. -/
theorem filter_fileCandidates (path : String) :
    (r.fileCandidates path).filter Path.hasTypes = (r.withJs false).fileCandidates path := by
  have hown : (if r.namesSource path then [path] else []).filter Path.hasTypes =
      if (r.withJs false).namesSource path then [path] else [] := by
    rw [namesSource_withJs_false]
    cases htypes : Path.hasTypes path with
    | true =>
      have hsource : r.namesSource path = true := by
        rw [namesSource, Bool.or_eq_true]
        exact .inl htypes
      simp [hsource, htypes]
    | false => cases r.namesSource path <;> simp [htypes]
  have hsources : (sourceCandidates path).filter Path.hasTypes = sourceCandidates path :=
    List.filter_eq_self.2 fun _ => hasTypes_of_mem_sourceCandidates
  rw [fileCandidates, List.filter_append, List.filter_append, hown, hsources, filter_endings,
    fileCandidates]

theorem filter_placeCandidates (place : String) :
    (r.placeCandidates place).filter Path.hasTypes = (r.withJs false).placeCandidates place := by
  have hindex (path : String) : (r.indexCandidates path).filter Path.hasTypes =
      (r.withJs false).indexCandidates path := filter_endings (path ++ "/index")
  simp only [placeCandidates, List.filter_append, List.filter_flatMap, filter_fileCandidates,
    hindex]
  rfl

/-- **The candidates with types** are those that there are without the others, in their order. -/
theorem candidates_withJs_false (file specifier : String) :
    (r.withJs false).candidates file specifier =
      (r.candidates file specifier).filter Path.hasTypes := by
  rw [candidates, candidates, List.filter_flatMap]
  simp only [filter_placeCandidates]
  rfl

/-! ## All candidates -/

theorem namesSource_of_mem_fileCandidates {path candidate : String}
    (h : candidate ∈ r.fileCandidates path) : r.namesSource candidate = true := by
  simp only [fileCandidates, List.mem_append] at h
  rcases h with (hown | hsource) | hending
  · split at hown
    · next hpath => rwa [List.mem_singleton.1 hown]
    · cases hown
  · rw [namesSource, Bool.or_eq_true]
    exact .inl (hasTypes_of_mem_sourceCandidates hsource)
  · obtain ⟨ending, hmem, rfl⟩ := List.mem_map.1 hending
    exact namesSource_append (namesSource_of_mem_endings ending hmem) path

/-- All candidates end like files that can be compiled. -/
theorem namesSource_of_mem_candidates {file specifier candidate : String}
    (h : candidate ∈ r.candidates file specifier) : r.namesSource candidate = true := by
  have hindex {path : String} (hmem : candidate ∈ r.indexCandidates path) :
      r.namesSource candidate = true := by
    obtain ⟨ending, hending, rfl⟩ := List.mem_map.1 hmem
    exact namesSource_append (namesSource_of_mem_endings ending hending) _
  obtain ⟨place, -, hplace⟩ := List.mem_flatMap.1 h
  simp only [placeCandidates, List.mem_append] at hplace
  rcases hplace with (hfile | hdescribed) | hlast
  · exact namesSource_of_mem_fileCandidates hfile
  · obtain ⟨path, -, hpath⟩ := List.mem_flatMap.1 hdescribed
    rcases List.mem_append.1 hpath with hfile | hmem
    · exact namesSource_of_mem_fileCandidates hfile
    · exact hindex hmem
  · exact hindex hlast

/-- A candidate without types is a script. -/
theorem isJavaScript_of_mem_candidates {file specifier candidate : String}
    (h : candidate ∈ r.candidates file specifier) (htypes : Path.hasTypes candidate = false) :
    Path.isJavaScript candidate = true := by
  have hsource := namesSource_of_mem_candidates h
  rw [namesSource, Bool.or_eq_true, Bool.and_eq_true] at hsource
  rcases hsource with htyped | ⟨-, hscript⟩
  · cases htypes.symm.trans htyped
  · exact hscript

/-! ## What scripts change -/

/-- A specifier refers to a file without types: the first of its candidates that exists. -/
structure LeadsToScript (r : Resolver) (modules : List String) (file specifier : String)
    (path : String) : Prop where
  first : (r.candidates file specifier).find? r.host.exists? = some path
  answer : r.resolve modules file specifier = some (.file (r.host.canonicalName path))
  candidate : Path.isJavaScript path = true
  name : Path.isJavaScript (r.host.canonicalName path) = true

/-- The first element with a property is the first of those that pass a test, if it passes. -/
theorem find?_filter_of_find? {α : Type} {l : List α} {p q : α → Bool} {a : α}
    (h : l.find? p = some a) (hq : q a = true) : (l.filter q).find? p = some a := by
  obtain ⟨hp, before, after, rfl, hbefore⟩ := List.find?_eq_some_iff_append.1 h
  refine List.find?_eq_some_iff_append.2 ⟨hp, before.filter q, after.filter q, ?_, ?_⟩
  · rw [List.filter_append, List.filter_cons_of_pos hq]
  · exact fun x hx => hbefore x (List.mem_filter.1 hx).1

/-- If the first candidate that exists has types, or none exists, scripts change nothing. -/
theorem resolve_withJs_false_of_hasTypes {modules : List String} {file specifier : String}
    (h : ∀ path, (r.candidates file specifier).find? r.host.exists? = some path →
      Path.hasTypes path = true) :
    (r.withJs false).resolve modules file specifier = r.resolve modules file specifier := by
  have hfind : ((r.candidates file specifier).filter Path.hasTypes).find? r.host.exists? =
      (r.candidates file specifier).find? r.host.exists? := by
    cases hfirst : (r.candidates file specifier).find? r.host.exists? with
    | some path => exact find?_filter_of_find? hfirst (h path hfirst)
    | none =>
      rw [List.find?_eq_none] at hfirst ⊢
      exact fun path hmem => hfirst path (List.mem_filter.1 hmem).1
  rw [resolve_eq_firstOf, resolve_eq_firstOf, candidates_withJs_false, Host.firstOf, Host.firstOf,
    ← hfind]
  rfl

end Resolver

namespace VirtualFiles

variable {v : VirtualFiles} {options : CompilerOptions} {modules : List String}
  {file specifier : String}

open Resolver

/-- A first candidate without types is a script, to which the specifier leads unless it names a
declared module. -/
theorem leadsToScript_of_first {path : String}
    (hdeclared : ¬ (isPath specifier = false ∧ specifier ∈ modules))
    (hfirst : ((Resolver.mk options v.host).candidates file specifier).find? v.host.exists? =
      some path) (htypes : Path.hasTypes path = false) :
    (Resolver.mk options v.host).LeadsToScript modules file specifier path := by
  have hscript : Path.isJavaScript path = true :=
    isJavaScript_of_mem_candidates (List.mem_of_find?_eq_some hfirst) htypes
  refine ⟨hfirst, ?_, hscript, endsWithAny_canonicalName (by decide) (by decide) hscript⟩
  rw [resolve_eq_firstOf, if_neg hdeclared, Host.firstOf, hfirst]
  rfl

/-- A specifier that leads to a script where these are allowed refers to something else where they
are not. -/
theorem resolve_ne_of_leadsToScript {path : String}
    (h : ((Resolver.mk options v.host).withJs true).LeadsToScript modules file specifier path) :
    ((Resolver.mk options v.host).withJs true).resolve modules file specifier ≠
      ((Resolver.mk options v.host).withJs false).resolve modules file specifier := by
  intro hsame
  have htyped := (findsSource_of_resolve (hsame.symm.trans h.answer)).spec.2.2
  rcases htyped with htyped | ⟨hallowed, -⟩
  · cases (Path.hasTypes_eq_false_of_isJavaScript h.name).symm.trans htyped
  · cases hallowed

/-- A specifier that leads to no script refers to the same without scripts. -/
theorem resolve_eq_of_not_leadsToScript
    (h : ¬ ∃ path, ((Resolver.mk options v.host).withJs true).LeadsToScript modules file specifier
      path) :
    ((Resolver.mk options v.host).withJs true).resolve modules file specifier =
      ((Resolver.mk options v.host).withJs false).resolve modules file specifier := by
  by_cases hdeclared : isPath specifier = false ∧ specifier ∈ modules
  · rw [resolve_eq_firstOf, resolve_eq_firstOf, if_pos hdeclared, if_pos hdeclared]
  · refine (resolve_withJs_false_of_hasTypes fun path hfirst => ?_).symm
    cases htypes : Path.hasTypes path with
    | true => rfl
    | false => exact absurd ⟨path, leadsToScript_of_first hdeclared hfirst htypes⟩ h

/-- **What allowing files without types changes**, over any two sets of files. A specifier refers to
the same as without them, unless it leads to a script, the first of its candidates that exists. So
whatever refers to something does so with scripts, too: to the same, or to a script. -/
theorem resolve_allowJs (v : VirtualFiles) (options : CompilerOptions) (modules : List String)
    (file specifier : String) :
    (((Resolver.mk options v.host).withJs true).resolve modules file specifier =
        ((Resolver.mk options v.host).withJs false).resolve modules file specifier ↔
      ¬ ∃ path, ((Resolver.mk options v.host).withJs true).LeadsToScript modules file specifier
        path) ∧
    ∀ answer, ((Resolver.mk options v.host).withJs false).resolve modules file specifier =
        some answer →
      ((Resolver.mk options v.host).withJs true).resolve modules file specifier = some answer ∨
        ∃ path, ((Resolver.mk options v.host).withJs true).LeadsToScript modules file specifier
          path := by
  by_cases hscript : ∃ path,
      ((Resolver.mk options v.host).withJs true).LeadsToScript modules file specifier path
  · obtain ⟨path, hpath⟩ := hscript
    refine ⟨iff_of_false (resolve_ne_of_leadsToScript hpath) ?_, fun _ _ => .inr ⟨path, hpath⟩⟩
    exact not_not_intro ⟨path, hpath⟩
  · have hsame := resolve_eq_of_not_leadsToScript hscript
    exact ⟨iff_of_true hsame hscript, fun answer hanswer => .inl (hsame.trans hanswer)⟩

/-- A script next to a directory of its name. -/
def scriptBesideDirectory : VirtualFiles :=
  ofMaps (.ofList [("a.ts", ""), ("api.js", ""), ("api/index.ts", "")]) ∅ {}

/-- The name of both refers to the directory, and to the script where scripts are allowed. -/
theorem scriptBesideDirectory_first :
    ((Resolver.mk {} scriptBesideDirectory.host).withJs false).resolve [] "a.ts" "./api" =
        some (.file "api/index.ts") ∧
      ((Resolver.mk {} scriptBesideDirectory.host).withJs true).resolve [] "a.ts" "./api" =
        some (.file "api.js") := by
  decide +kernel

/-- Where scripts are allowed, the name of both leads to the script. -/
theorem scriptBesideDirectory_leads :
    ((Resolver.mk {} scriptBesideDirectory.host).withJs false).resolve [] "a.ts" "./api" =
        some (.file "api/index.ts") ∧
      ∃ path, ((Resolver.mk {} scriptBesideDirectory.host).withJs true).LeadsToScript [] "a.ts"
        "./api" path := by
  have htyped : ((Resolver.mk {} scriptBesideDirectory.host).withJs false).resolve [] "a.ts"
      "./api" = some (.file "api/index.ts") := by
    decide +kernel
  have hother : ((Resolver.mk {} scriptBesideDirectory.host).withJs true).resolve [] "a.ts"
      "./api" ≠ some (.file "api/index.ts") := by
    decide +kernel
  obtain ⟨-, hkept⟩ := resolve_allowJs scriptBesideDirectory {} [] "a.ts" "./api"
  exact ⟨htyped, (hkept _ htyped).resolve_left hother⟩

end VirtualFiles

end ScriptHost
