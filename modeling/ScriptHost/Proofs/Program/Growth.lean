import Mathlib.Data.List.Flatten
import ScriptHost.Proofs.Host.Growth
import ScriptHost.Proofs.Program.Candidates
/-!
# Resolution with one more file

A specifier that refers to something still does so when a file is added and the
other paths are indexed in the same order, for its candidates are all there as
before, in their order. A new file can be a candidate itself, and it can describe
a package: then more candidates come before the index of the package, which stays
the last one. The answer may be another one in these two ways only. If the order
changes, too, another one of two paths that differ in case alone may be found.

- `Resolver.candidates_sublist`: a host that reads more has more candidates.
- `Resolver.isSome_resolve_of_extends`: a host that finds more resolves more.
- `Resolver.candidates_congr`: where descriptions are read alike, the candidates are the same.
- `VirtualFiles.StaysResolved`: what another host may change about what a specifier refers to.
- `VirtualFiles.Indexes`: the files of two maps, indexed in some order.
- `VirtualFiles.resolve_added`: when a new file takes nothing away.
-/

namespace ScriptHost

namespace Resolver

variable {h h' : Host} {options : CompilerOptions} {modules : List String} {file specifier : String}

/-! ## Hosts that find more -/

/-- A package that is described is described alike by a host that reads more. -/
theorem described_sublist (hext : h.Extends h') (place : String) :
    ((Resolver.mk options h).described place).Sublist
      ((Resolver.mk options h').described place) := by
  rw [described, described]
  cases hread : h.read? (place ++ "/package.json") with
  | none => exact List.nil_sublist _
  | some text => rw [hext.read? _ _ hread]

/-- **More candidates.** The candidates with a host are among those with a host that reads more, in
their order. -/
theorem candidates_sublist (hext : h.Extends h') (options : CompilerOptions)
    (file specifier : String) :
    ((Resolver.mk options h).candidates file specifier).Sublist
      ((Resolver.mk options h').candidates file specifier) := by
  refine List.Sublist.flatMap_right _ fun place _ => ?_
  -- only the part in the middle depends on the host
  refine (List.Sublist.append (List.Sublist.refl _) ?_).append (List.Sublist.refl _)
  exact (described_sublist hext place).flatMap _

/-- **What is resolved stays resolved** with a host that finds and reads more. -/
theorem isSome_resolve_of_extends (hext : h.Extends h')
    (hsome : ((Resolver.mk options h).resolve modules file specifier).isSome = true) :
    ((Resolver.mk options h').resolve modules file specifier).isSome = true := by
  rw [isSome_resolve] at hsome ⊢
  rcases hsome with hdeclared | ⟨path, hpath, hexists⟩
  · exact .inl hdeclared
  · exact .inr ⟨path, (candidates_sublist hext options file specifier).subset hpath,
      hext.exists? path hexists⟩

/-- Where descriptions of packages are read alike, the candidates are the same. -/
theorem candidates_congr
    (hread : ∀ place, h'.read? (place ++ "/package.json") = h.read? (place ++ "/package.json")) :
    (Resolver.mk options h').candidates file specifier =
      (Resolver.mk options h).candidates file specifier := by
  have hplace : (Resolver.mk options h').placeCandidates =
      (Resolver.mk options h).placeCandidates := by
    funext place
    rw [placeCandidates, placeCandidates, described, described, hread]
    rfl
  rw [candidates, candidates, hplace]

end Resolver

/-! ## A new file -/

namespace VirtualFiles

variable {v w : VirtualFiles} {input external : SortedMap String} {path text : String}
  {options : CompilerOptions} {modules : List String} {file specifier : String}

open Resolver

/-- Of the same candidates, the first that exists is the same with a new file, unless it is a
spelling of the new file's path. -/
theorem Adds.firstOf_eq (h : v.Adds w input external path text) {paths : List String}
    {name : String} (hfirst : w.host.firstOf paths = some name) :
    v.host.firstOf paths = some name ∨ Path.fold name = Path.fold path := by
  obtain ⟨found, hfind, rfl⟩ := Option.map_eq_some_iff.1 hfirst
  rw [(w.canonicalName_spec found).2]
  refine or_iff_not_imp_right.2 fun hne => ?_
  obtain ⟨hexists, before, after, rfl, hbefore⟩ := List.find?_eq_some_iff_append.1 hfind
  obtain ⟨hsame, -, hname⟩ := h.alike hne
  have hfind' : (before ++ found :: after).find? v.host.exists? = some found := by
    refine List.find?_eq_some_iff_append.2 ⟨hsame ▸ hexists, before, after, rfl, ?_⟩
    intro other hother
    have hmissing := hbefore other hother
    rw [Bool.not_eq_true'] at hmissing ⊢
    rw [Bool.eq_false_iff] at hmissing ⊢
    exact fun hold => hmissing (h.host_extends.exists? other hold)
  rw [Host.firstOf, hfind', Option.map_some, hname]

/-- A new file that describes no package does not change the candidates. -/
theorem Adds.candidates_eq (h : v.Adds w input external path text)
    (hplain : ¬ ∃ place, Path.fold (place ++ "/package.json") = Path.fold path)
    (options : CompilerOptions) (file specifier : String) :
    (Resolver.mk options w.host).candidates file specifier =
      (Resolver.mk options v.host).candidates file specifier :=
  candidates_congr fun place => (h.alike fun heq => hplain ⟨place, heq⟩).2.1

/-- What a specifier refers to is the name of a candidate. -/
theorem exists_candidate_of_resolve {name : String}
    (h : (Resolver.mk options v.host).resolve modules file specifier = some (.file name)) :
    ∃ found ∈ (Resolver.mk options v.host).candidates file specifier,
      Path.fold found = Path.fold name := by
  rw [resolve_eq_firstOf] at h
  split at h
  · cases h
  · obtain ⟨_, hfirst, heq⟩ := Option.map_eq_some_iff.1 h
    obtain rfl := Resolution.file.inj heq
    obtain ⟨found, hfind, rfl⟩ := Option.map_eq_some_iff.1 hfirst
    exact ⟨found, List.mem_of_find?_eq_some hfind, (v.canonicalName_spec found).2.symm⟩

/-- With a new file that describes no package, a specifier refers to the same or to the new file. -/
theorem Adds.resolve_eq (h : v.Adds w input external path text)
    (hplain : ¬ ∃ place, Path.fold (place ++ "/package.json") = Path.fold path)
    {answer : Resolution}
    (hanswer : (Resolver.mk options w.host).resolve modules file specifier = some answer) :
    (Resolver.mk options v.host).resolve modules file specifier = some answer ∨
      ∃ name, answer = .file name ∧ Path.fold name = Path.fold path := by
  rw [resolve_eq_firstOf] at hanswer ⊢
  split at hanswer
  · next hdeclared => exact .inl (by rw [if_pos hdeclared, hanswer])
  · next hdeclared =>
    obtain ⟨name, hfirst, rfl⟩ := Option.map_eq_some_iff.1 hanswer
    rw [h.candidates_eq hplain] at hfirst
    refine (h.firstOf_eq hfirst).imp (fun hsame => ?_) fun hnew => ⟨name, rfl, hnew⟩
    rw [if_neg hdeclared]
    exact congrArg (Option.map Resolution.file) hsame

/-- A specifier that refers to something with one host does so with another one, which has a new
file: to a declared module exactly if it did, and to another file only if this is the new one or if
the new one describes a package. -/
def StaysResolved (v w : VirtualFiles) (path : String) (options : CompilerOptions)
    (modules : List String) (file specifier : String) : Prop :=
  ∀ answer, (Resolver.mk options v.host).resolve modules file specifier = some answer →
    ∃ answer', (Resolver.mk options w.host).resolve modules file specifier = some answer' ∧
      (∀ name, answer' = .ambient name ↔ answer = .ambient name) ∧
      (answer' = answer ∨ (∃ name, answer' = .file name ∧ Path.fold name = Path.fold path) ∨
        ∃ place, Path.fold (place ++ "/package.json") = Path.fold path)

theorem Adds.staysResolved (h : v.Adds w input external path text) (options : CompilerOptions)
    (modules : List String) (file specifier : String) :
    v.StaysResolved w path options modules file specifier := by
  intro answer hanswer
  have hsome : ((Resolver.mk options v.host).resolve modules file specifier).isSome = true := by
    rw [hanswer, Option.isSome_some]
  obtain ⟨answer', hanswer'⟩ :=
    Option.isSome_iff_exists.1 (isSome_resolve_of_extends h.host_extends hsome)
  refine ⟨answer', hanswer', fun name => ?_, ?_⟩
  · have hiff : (Resolver.mk options w.host).resolve modules file specifier = some (.ambient name) ↔
        (Resolver.mk options v.host).resolve modules file specifier = some (.ambient name) := by
      rw [resolve_eq_ambient_iff, resolve_eq_ambient_iff]
    rwa [hanswer', hanswer, Option.some_inj, Option.some_inj] at hiff
  · by_cases hplain : ∃ place, Path.fold (place ++ "/package.json") = Path.fold path
    · exact .inr (.inr hplain)
    · rcases h.resolve_eq hplain hanswer' with hsame | hnew
      · exact .inl (Option.some.inj (hsame.symm.trans hanswer))
      · exact .inr (.inl hnew)

/-! ## Hosts in any order -/

/-- The files of two maps, with their paths indexed in some order. -/
def Indexes (v : VirtualFiles) (input external : SortedMap String) (environment : Environment) :
    Prop :=
  ∃ i, v = (ofMaps input external environment).indexedBy i

/-- The files of two maps and a new one, which is in the one map or in the other. -/
def IndexesNew (w : VirtualFiles) (input external : SortedMap String) (environment : Environment)
    (path text : String) : Prop :=
  w.Indexes (input.insert path text) external environment ∨
    w.Indexes input (external.insert path text) environment

/-- A path is no spelling of any in two maps. -/
def IsNew (input external : SortedMap String) (path : String) : Prop :=
  ∀ key ∈ input.keys ++ external.keys, Path.fold key ≠ Path.fold path

/-- A specifier refers to something. -/
def Resolves (v : VirtualFiles) (options : CompilerOptions) (modules : List String)
    (file specifier : String) : Prop :=
  ∃ answer, (Resolver.mk options v.host).resolve modules file specifier = some answer

variable {environment : Environment}

theorem indexes_ofMaps (input external : SortedMap String) (environment : Environment) :
    (ofMaps input external environment).Indexes input external environment :=
  ⟨.byPath, rfl⟩

theorem StaysResolved.resolves (h : v.StaysResolved w path options modules file specifier)
    (hv : v.Resolves options modules file specifier) :
    w.Resolves options modules file specifier := by
  obtain ⟨answer, hanswer⟩ := hv
  obtain ⟨answer', hanswer', -⟩ := h answer hanswer
  exact ⟨answer', hanswer'⟩

/-- **A host in some order.** For each host with a new file there is one without it, from which the
new file takes nothing away. -/
theorem exists_staysResolved (hnew : IsNew input external path)
    (hw : w.IndexesNew input external environment path text) (options : CompilerOptions)
    (modules : List String) (file specifier : String) :
    ∃ v : VirtualFiles, v.Indexes input external environment ∧
      v.StaysResolved w path options modules file specifier := by
  rcases hw with ⟨j, rfl⟩ | ⟨j, rfl⟩
  · exact ⟨_, ⟨_, rfl⟩,
      (ofMaps_adds environment hnew text j).1.staysResolved options modules file specifier⟩
  · exact ⟨_, ⟨_, rfl⟩,
      (ofMaps_adds environment hnew text j).2.staysResolved options modules file specifier⟩

/-- There is a new file with which a specifier refers to something only if it does without. -/
theorem exists_path_resolves (input external : SortedMap String) (environment : Environment)
    (options : CompilerOptions) (modules : List String) (file specifier : String) (j : Indexing) :
    ∃ path, IsNew input external path ∧
      (((ofMaps input (external.insert path "") environment).indexedBy j).Resolves options modules
          file specifier →
        ((ofMaps input external environment).indexedBy j).Resolves options modules file
          specifier) := by
  generalize hv : (ofMaps input external environment).indexedBy j = v
  obtain ⟨path, hpath, hplain⟩ := exists_new_path
    (input.keys ++ external.keys ++ (Resolver.mk options v.host).candidates file specifier)
  have hnew : IsNew input external path := fun key hkey => hpath key (List.mem_append_left _ hkey)
  have hadds := (ofMaps_adds environment hnew "" j).2
  rw [hv] at hadds
  refine ⟨path, hnew, ?_⟩
  rintro ⟨answer, hanswer⟩
  rcases hadds.resolve_eq hplain hanswer with hsame | ⟨name, rfl, hname⟩
  · exact ⟨answer, hsame⟩
  · -- the new file is no candidate
    obtain ⟨found, hfound, hfold⟩ := exists_candidate_of_resolve hanswer
    rw [hadds.candidates_eq hplain] at hfound
    exact absurd (hfold.trans hname) (hpath found (List.mem_append_right _ hfound))

/-- **When a new file takes nothing away**, whatever its path and its text are. All calls that see
the new file resolve a specifier that one without it resolves exactly if all calls without it
resolve it alike. This is so if the files are definite, and then the specifier may refer to the new
file, or to another one if the new one describes a package, and in no other way to anything else. In
any case, each call that sees the new file does so to one that indexes the other paths in the same
order. -/
theorem resolve_added (input external : SortedMap String) (environment : Environment)
    (options : CompilerOptions) (modules : List String) (file specifier : String) :
    ((∀ path text, IsNew input external path → ∀ v w : VirtualFiles,
        v.Indexes input external environment →
        w.IndexesNew input external environment path text →
        v.Resolves options modules file specifier → w.Resolves options modules file specifier) ↔
      ∀ v w : VirtualFiles, v.Indexes input external environment →
        w.Indexes input external environment →
        v.Resolves options modules file specifier → w.Resolves options modules file specifier) ∧
    ((FileSet.ofCanonical input).Definite →
      ∀ path text, IsNew input external path → ∀ v w : VirtualFiles,
        v.Indexes input external environment →
        w.IndexesNew input external environment path text →
        v.StaysResolved w path options modules file specifier) ∧
    ∀ path text, IsNew input external path → ∀ w : VirtualFiles,
      w.IndexesNew input external environment path text →
      ∃ v : VirtualFiles, v.Indexes input external environment ∧
        v.StaysResolved w path options modules file specifier := by
  refine ⟨⟨?_, ?_⟩, ?_, fun path text hnew w hw =>
    exists_staysResolved hnew hw options modules file specifier⟩
  · rintro h v _ hv ⟨j, rfl⟩ hresolves
    obtain ⟨path, hnew, hback⟩ :=
      exists_path_resolves input external environment options modules file specifier j
    exact hback (h path "" hnew v _ hv (.inr ⟨j, rfl⟩) hresolves)
  · intro h path text hnew v w hv hw hresolves
    obtain ⟨v', hv', hstays⟩ := exists_staysResolved hnew hw options modules file specifier
    exact hstays.resolves (h v v' hv hv' hresolves)
  · intro hdefinite path text hnew v w hv hw
    obtain ⟨v', hv', hstays⟩ := exists_staysResolved hnew hw options modules file specifier
    have hhost : v.host = v'.host := by
      obtain ⟨i, rfl⟩ := hv
      obtain ⟨i', rfl⟩ := hv'
      rw [host_indexedBy hdefinite, host_indexedBy hdefinite]
    rw [StaysResolved, hhost]
    exact hstays

/-- The files of a package without a description. -/
def plainPackage : SortedMap String :=
  .ofList [("node_modules/p/index.d.ts", ""), ("node_modules/p/lib.d.ts", "")]

/-- A package refers to its index, and it still refers to something when a description of it is
added which names another file. -/
theorem plainPackage_added :
    (FileSet.ofCanonical plainPackage).Definite ∧
      IsNew plainPackage ∅ "Node_Modules/p/package.json" ∧
      (Resolver.mk {} (ofMaps plainPackage ∅ {}).host).resolve [] "a.ts" "p" =
        some (.file "node_modules/p/index.d.ts") ∧
      ∃ answer, (Resolver.mk {} (ofMaps (plainPackage.insert "Node_Modules/p/package.json"
        "\x7b\"types\":\"lib\"\x7d") ∅ {}).host).resolve [] "a.ts" "p" = some answer := by
  have hdefinite : (FileSet.ofCanonical plainPackage).Definite :=
    FileSet.definite_of_nodup (by decide +kernel)
  have hnew : IsNew plainPackage ∅ "Node_Modules/p/package.json" := by
    rw [IsNew]
    decide +kernel
  have hanswer : (Resolver.mk {} (ofMaps plainPackage ∅ {}).host).resolve [] "a.ts" "p" =
      some (.file "node_modules/p/index.d.ts") := by
    decide +kernel
  obtain ⟨-, hstays, -⟩ := resolve_added plainPackage ∅ {} {} [] "a.ts" "p"
  obtain ⟨answer, hresolved, -⟩ := hstays hdefinite "Node_Modules/p/package.json"
    "\x7b\"types\":\"lib\"\x7d" hnew _ _ (indexes_ofMaps ..) (.inl (indexes_ofMaps ..)) _ hanswer
  exact ⟨hdefinite, hnew, hanswer, answer, hresolved⟩

/-- A package with two descriptions whose paths differ in case alone. -/
def competingPackage : SortedMap String :=
  .ofList [("a.ts", ""), ("node_modules/P/package.json", "\x7b\"types\":\"gone\"\x7d"),
    ("node_modules/p/Package.json", "\x7b\"types\":\"lib\"\x7d"), ("node_modules/p/lib.d.ts", "")]

/-- A package refers to a file in a call that indexes the one description first, and to nothing in
a call on one more file that indexes the other description first. -/
theorem competingPackage_added :
    IsNew competingPackage ∅ "b.ts" ∧
      (Resolver.mk {} ((ofMaps competingPackage ∅ {}).indexedBy
        (.first "node_modules/p/Package.json")).host).resolve [] "a.ts" "p" =
          some (.file "node_modules/p/lib.d.ts") ∧
      (Resolver.mk {} ((ofMaps (competingPackage.insert "b.ts" "") ∅ {}).indexedBy
        .byPath).host).resolve [] "a.ts" "p" = none := by
  have hnew : IsNew competingPackage ∅ "b.ts" := by
    rw [IsNew]
    decide +kernel
  exact ⟨hnew, by decide +kernel, by decide +kernel⟩

end VirtualFiles

end ScriptHost
