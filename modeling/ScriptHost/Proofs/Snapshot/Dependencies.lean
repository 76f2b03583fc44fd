import ScriptHost.Proofs.Host.Normal
import ScriptHost.Proofs.Snapshot.Packages
/-!
# Private dependencies in a snapshot

A package may have dependencies of its own, in directories of packages at any
depth below it. Each of them lies in such a directory by its name, or, if the
name has a scope, in the directory of the scope there. What is looked for are
manifests: a dependency is found if each directory has one in which the way to
it goes on behind a directory of packages. So those with a scope are missed,
unless the directory of the scope happens to have a manifest.

- `Snapshot.Dependency`: the private dependencies below a package.
- `Snapshot.Dependency.provided`: the files of those that are found.
- `Snapshot.foundOnly`: a package without all that is missed.
- `Snapshot.packageFiles_foundOnly`, `Snapshot.Dependency.marked`: what is missed adds nothing,
  and manifests lead to what is left.
- `Snapshot.collect_keepsPrivate`: which private dependencies a snapshot keeps.
-/

namespace ScriptHost

namespace Snapshot

/-! ## Dependencies -/

/-- Below the entries of a directory, a dependency with some entries has a name and a manifest. It
lies in a directory of packages or, by the rest of its name, in the directory of a scope there.
`passed` is asked of each directory in which the way goes on behind a directory of packages. -/
inductive Dependency (passed : List (String × FileTree) → Prop) :
    List (String × FileTree) → String → List (String × FileTree) → Prop where
  | plain {entries packages inner : List (String × FileTree)} {name : String} :
      (packagesName, .dir packages) ∈ entries → (name, .dir inner) ∈ packages →
      hasManifest inner = true → Dependency passed entries name inner
  | ofScope {entries packages members inner : List (String × FileTree)} {scope name : String} :
      (packagesName, .dir packages) ∈ entries → (scope, .dir members) ∈ packages →
      Path.startsWith "@" scope = true → passed members →
      (name, .dir inner) ∈ members → name ≠ packagesName → hasManifest inner = true →
      Dependency passed entries (scope ++ "/" ++ Path.canonical name) inner
  | behind {entries packages between inner : List (String × FileTree)} {other name : String} :
      (packagesName, .dir packages) ∈ entries → (other, .dir between) ∈ packages →
      passed between → Dependency passed between name inner → Dependency passed entries name inner
  | within {entries between inner : List (String × FileTree)} {sub name : String} :
      (sub, .dir between) ∈ entries → sub ≠ packagesName → Dependency passed between name inner →
      Dependency passed entries name inner

/-- Whether a directory has a manifest, which is asked on the way to what is found. -/
def Marked (entries : List (String × FileTree)) : Prop := hasManifest entries = true

variable {entries inner : List (String × FileTree)} {name inside file text : String}

/-- **The files of a dependency that is found** are those of a carried package: of the dependency
itself, or of the directory of its scope. -/
theorem Dependency.provided (h : Dependency Marked entries name inner)
    (hfile : OwnFile inner inside file text)
    (hdeclares : Path.endsWithAny [declarationEnding] file = true) :
    ∃ package found, Carries entries package found ∧
      OwnEntry package found (key name inside file) text := by
  have hcollected (inside : String) : isCollected inside file = true := by
    rw [isCollected, hdeclares, Bool.true_or]
  induction h with
  | plain hmem hpackage hmanifest =>
    exact ⟨_, _, .here hmem hpackage hmanifest, _, _, hfile, hcollected _, rfl⟩
  | @ofScope _ _ members _ scope name hmem hscope _ hmarked hname hne _ =>
    -- the way from the scope on to the file goes over the directory of the dependency
    refine ⟨scope, members, .here hmem hscope hmarked, name ++ "/" ++ inside, file,
      .within hname hne hfile, hcollected _, ?_⟩
    have hslash : Path.canonical "/" = "/" := by decide
    simp only [key, Path.canonical_append, hslash, String.append_assoc]
  | behind hmem hpackage hmarked _ ih =>
    obtain ⟨package, found, hcarries, hown⟩ := ih hfile
    exact ⟨package, found, .deeper hmem hpackage hmarked hcarries, hown⟩
  | within hmem hsub _ ih =>
    obtain ⟨package, found, hcarries, hown⟩ := ih hfile
    exact ⟨package, found, .within hmem hsub hcarries, hown⟩

/-! ## What is missed -/

mutual
/-- The entries of a directory without what is missed below them. -/
def foundOnly : List (String × FileTree) → List (String × FileTree)
  | [] => []
  | (name, t) :: rest => (name, foundOnlyAt name t) :: foundOnly rest
/-- An entry of a directory without what is missed below it. -/
def foundOnlyAt (name : String) : FileTree → FileTree
  | .file text => .file text
  | .dir entries =>
    if name == packagesName then .dir (markedOnly entries) else .dir (foundOnly entries)
/-- The packages of a directory of packages: the directories with a manifest. -/
def markedOnly : List (String × FileTree) → List (String × FileTree)
  | [] => []
  | (name, t) :: rest => markedOne name t ++ markedOnly rest
/-- A package, if the entry of a directory of packages is one. -/
def markedOne (name : String) : FileTree → List (String × FileTree)
  | .file _ => []
  | .dir entries => if hasManifest entries then [(name, .dir (foundOnly entries))] else []
end

theorem lookup_foundOnly (entries : List (String × FileTree)) (name : String) :
    (foundOnly entries).lookup name = (entries.lookup name).map (foundOnlyAt name) := by
  induction entries with
  | nil => rfl
  | cons e rest ih =>
    obtain ⟨other, t⟩ := e
    rw [foundOnly, SortedMap.lookup_cons_eq_ite, SortedMap.lookup_cons_eq_ite]
    by_cases h : name = other
    · subst h
      simp
    · simp [h, ih]

/-- Leaving out what is missed leaves manifests as they are. -/
theorem hasManifest_foundOnly (entries : List (String × FileTree)) :
    hasManifest (foundOnly entries) = hasManifest entries := by
  rw [hasManifest, lookup_foundOnly, Option.isSome_map, hasManifest]

mutual
/-- **What is missed adds nothing** to what a directory adds to a snapshot. -/
theorem packageFiles_foundOnly (library inside : String) (entries : List (String × FileTree)) :
    packageFiles library inside (foundOnly entries) = packageFiles library inside entries := by
  cases entries with
  | nil => rfl
  | cons e rest =>
    obtain ⟨name, t⟩ := e
    rw [foundOnly, packageFiles, packageFiles, entryFiles_foundOnlyAt,
      packageFiles_foundOnly library inside rest]
theorem entryFiles_foundOnlyAt (library inside name : String) (t : FileTree) :
    entryFiles library inside name (foundOnlyAt name t) = entryFiles library inside name t := by
  cases t with
  | file text => rfl
  | dir entries =>
    rw [foundOnlyAt]
    by_cases hname : (name == packagesName) = true
    · rw [if_pos hname, entryFiles, entryFiles, if_pos hname, if_pos hname,
        carriedFiles_markedOnly entries]
    · rw [if_neg hname, entryFiles, entryFiles, if_neg hname, if_neg hname,
        packageFiles_foundOnly _ _ entries]
theorem carriedFiles_markedOnly (entries : List (String × FileTree)) :
    carriedFiles (markedOnly entries) = carriedFiles entries := by
  cases entries with
  | nil => rfl
  | cons e rest =>
    obtain ⟨name, t⟩ := e
    rw [markedOnly, carriedFiles, ← carriedFiles_markedOnly rest]
    cases t with
    | file text => rfl
    | dir entries =>
      rw [markedOne, carriedEntry]
      by_cases hmanifest : hasManifest entries = true
      · rw [if_pos hmanifest, if_pos hmanifest, List.singleton_append, carriedFiles, carriedEntry,
          hasManifest_foundOnly, if_pos hmanifest, packageFiles_foundOnly _ _ entries]
      · rw [if_neg hmanifest, if_neg hmanifest, List.nil_append, List.nil_append]
end

/-- A directory that is left is one without what is missed: a directory of packages with the
packages of one, or any other directory. -/
theorem exists_of_mem_foundOnly {left : List (String × FileTree)}
    (h : (name, .dir left) ∈ foundOnly entries) :
    ∃ inner, left = if name = packagesName then markedOnly inner else foundOnly inner := by
  induction entries with
  | nil => cases h
  | cons e rest ih =>
    obtain ⟨other, t⟩ := e
    rw [foundOnly] at h
    rcases List.mem_cons.1 h with h | h
    · obtain ⟨rfl, ht⟩ := Prod.mk.inj h
      cases t with
      | file text => cases ht
      | dir inner =>
        refine ⟨inner, ?_⟩
        rw [foundOnlyAt] at ht
        by_cases hname : name = packagesName
        · rw [if_pos (beq_iff_eq.2 hname)] at ht
          rw [if_pos hname, FileTree.dir.inj ht]
        · rw [if_neg (by simpa using hname)] at ht
          rw [if_neg hname, FileTree.dir.inj ht]
    · exact ih h

/-- What is left of a directory of packages are packages with manifests. -/
theorem exists_of_mem_markedOnly {left : List (String × FileTree)}
    (h : (name, .dir left) ∈ markedOnly entries) :
    Marked left ∧ ∃ inner, left = foundOnly inner := by
  induction entries with
  | nil => cases h
  | cons e rest ih =>
    obtain ⟨other, t⟩ := e
    rw [markedOnly] at h
    rcases List.mem_append.1 h with h | h
    · cases t with
      | file text => cases h
      | dir inner =>
        rw [markedOne] at h
        split at h
        · next hmanifest =>
          obtain ⟨-, hleft⟩ := Prod.mk.inj (List.mem_singleton.1 h)
          rw [FileTree.dir.inj hleft]
          exact ⟨(hasManifest_foundOnly inner).trans hmanifest, inner, rfl⟩
        · cases h
    · exact ih h

/-- **Manifests lead to all dependencies that are left.** -/
theorem Dependency.marked (h : Dependency (fun _ => True) (foundOnly entries) name inner) :
    Dependency Marked (foundOnly entries) name inner := by
  generalize hleft : foundOnly entries = left at h
  have hpackages {packages : List (String × FileTree)} {original : List (String × FileTree)}
      (hmem : (packagesName, .dir packages) ∈ foundOnly original) :
      ∃ inner, packages = markedOnly inner := by
    obtain ⟨inner, hinner⟩ := exists_of_mem_foundOnly hmem
    rw [if_pos rfl] at hinner
    exact ⟨inner, hinner⟩
  -- of a directory of packages only those with a manifest are left, so that each step has one
  induction h generalizing entries with
  | plain hmem hpackage hmanifest => exact .plain hmem hpackage hmanifest
  | ofScope hmem hscope hat _ hname hne hmanifest =>
    subst hleft
    obtain ⟨original, rfl⟩ := hpackages hmem
    obtain ⟨hmarked, -⟩ := exists_of_mem_markedOnly hscope
    exact .ofScope hmem hscope hat hmarked hname hne hmanifest
  | behind hmem hother _ _ ih =>
    subst hleft
    obtain ⟨original, rfl⟩ := hpackages hmem
    obtain ⟨hmarked, between, rfl⟩ := exists_of_mem_markedOnly hother
    exact .behind hmem hother hmarked (ih rfl)
  | within hmem hsub _ ih =>
    subst hleft
    obtain ⟨between, hbetween⟩ := exists_of_mem_foundOnly hmem
    rw [if_neg hsub] at hbetween
    subst hbetween
    exact .within hmem hsub (ih rfl)

/-! ## What a snapshot keeps -/

/-- What a snapshot keeps of the private dependencies of some packages. -/
structure KeepsPrivate (d : Disk) (input : String) (libraries : List String)
    (snapshot : SortedMap String) : Prop where
  /-- Each declaring file of a dependency has its path, if manifests lead to the dependency. So all
  dependencies without a scope are kept that are reached by such ones. -/
  found : ∀ library ∈ libraries, ∀ entries, installed? d input library = some entries →
    ∀ name inner, Dependency Marked entries name inner →
      ∀ inside file text, OwnFile inner inside file text →
        Path.endsWithAny [declarationEnding] file = true →
          key name inside file ∈ snapshot.keys
  /-- Nothing comes from the directories behind a directory of packages that have no manifest: the
  snapshot is that of the packages without them. -/
  missed : snapshot = .ofList (libraries.flatMap fun library =>
    ((installed? d input library).map fun entries =>
      packageFiles library "" (foundOnly entries)).getD [])
  /-- To the dependencies that these packages are left with, manifests lead. -/
  left : ∀ entries name inner, Dependency (fun _ => True) (foundOnly entries) name inner →
    Dependency Marked (foundOnly entries) name inner

variable {d : Disk} {input : String}

/-- **Which private dependencies a snapshot keeps**: those that manifests lead to, whether they are
listed or not, and nothing of the others, even if they have a manifest themselves. -/
theorem collect_keepsPrivate {snapshot : SortedMap String} (h : collect d input = .ok snapshot) :
    ∃ libraries, dependencies d input = .ok libraries ∧
      KeepsPrivate d input libraries snapshot := by
  obtain ⟨libraries, hlisted, rfl⟩ := collect_eq_ok_iff.1 h
  refine ⟨libraries, hlisted, ?_, ?_, fun _ _ _ => Dependency.marked⟩
  · intro library hlibrary entries hinstalled name inner hdependency inside file text
      hfile hdeclares
    obtain ⟨package, found, hcarries, hown⟩ := hdependency.provided hfile hdeclares
    exact ((keeps_ofList d input libraries).paths _).2
      ⟨text, .carried hlibrary hinstalled hcarries hown⟩
  · simp only [packageFiles_foundOnly]
    rfl

/-- A package with one file that declares, and with a manifest. -/
def plainEntries : List (String × FileTree) :=
  [("index.d.ts", .file "declared"), ("package.json", .file "\x7b\x7d")]

/-- Private dependencies: one whose scope has a manifest, and one below a directory of another. -/
def deepEntries : List (String × FileTree) :=
  [("node_modules", .dir [
    ("@s", .dir [("b", .dir plainEntries), ("package.json", .file "\x7b\x7d")]),
    ("c", .dir [
      ("lib", .dir [("node_modules", .dir [("e", .dir plainEntries)])]),
      ("package.json", .file "\x7b\x7d")])])]

/-- A private dependency whose scope has no manifest. -/
def scopedEntries : List (String × FileTree) :=
  [("node_modules", .dir [("@s", .dir [("b", .dir plainEntries)])]),
    ("package.json", .file "\x7b\x7d")]

/-- The directory in which a package with some entries is installed, which is listed. -/
def diskWith (entries : List (String × FileTree)) : Disk where
  home := "/project"
  tree := .dir [
    ("node_modules", .dir [("z", .dir entries)]),
    ("package-lock.json", .file "\x7b\"packages\":\x7b\"node_modules/z\":\x7b\x7d\x7d\x7d")]

/-- The files of the dependency with a scope and of the one below another one are kept. -/
theorem deepEntries_kept : ∃ snapshot, collect (diskWith deepEntries) "." = .ok snapshot ∧
    "node_modules/@s/b/index.d.ts" ∈ snapshot.keys ∧
      "node_modules/e/index.d.ts" ∈ snapshot.keys := by
  have hlisted : dependencies (diskWith deepEntries) "." = .ok ["z"] := rfl
  have hcollect := collect_eq_ok_iff.2 ⟨_, hlisted, rfl⟩
  obtain ⟨libraries, hsame, hkeeps⟩ := collect_keepsPrivate hcollect
  obtain rfl := Except.ok.inj (hlisted.symm.trans hsame)
  have hfound := hkeeps.found "z" List.mem_cons_self deepEntries rfl
  have hfile : OwnFile plainEntries "" "index.d.ts" "declared" := .here List.mem_cons_self
  refine ⟨_, hcollect, ?_, ?_⟩
  · have hscope : Dependency Marked deepEntries ("@s" ++ "/" ++ Path.canonical "b") plainEntries :=
      .ofScope List.mem_cons_self List.mem_cons_self (by decide) rfl List.mem_cons_self (by decide)
        rfl
    exact hfound _ _ hscope _ _ _ hfile (by decide)
  · have hdeep : Dependency Marked [("node_modules", .dir [("e", .dir plainEntries)])] "e"
        plainEntries := .plain List.mem_cons_self List.mem_cons_self rfl
    have hbehind : Dependency Marked deepEntries "e" plainEntries :=
      .behind List.mem_cons_self (List.mem_cons_of_mem _ List.mem_cons_self) rfl
        (.within List.mem_cons_self (by decide) hdeep)
    exact hfound _ _ hbehind _ _ _ hfile (by decide)

/-- A private dependency is missed though it has a manifest, since its scope has none. -/
theorem scopedEntries_missed : ¬ ∀ snapshot, collect (diskWith scopedEntries) "." = .ok snapshot →
    ∃ libraries, dependencies (diskWith scopedEntries) "." = .ok libraries ∧
      ∀ library ∈ libraries, ∀ entries,
        installed? (diskWith scopedEntries) "." library = some entries →
        ∀ name inner, Dependency (fun _ => True) entries name inner →
          ∀ inside file text, OwnFile inner inside file text →
            Path.endsWithAny [declarationEnding] file = true →
              key name inside file ∈ snapshot.keys := by
  intro hall
  have hlisted : dependencies (diskWith scopedEntries) "." = .ok ["z"] := rfl
  have hcollect := collect_eq_ok_iff.2 ⟨_, hlisted, rfl⟩
  obtain ⟨libraries, hsame, hkept⟩ := hall _ hcollect
  obtain rfl := Except.ok.inj (hlisted.symm.trans hsame)
  have hscope : Dependency (fun _ => True) scopedEntries ("@s" ++ "/" ++ Path.canonical "b")
      plainEntries :=
    .ofScope List.mem_cons_self List.mem_cons_self (by decide) trivial List.mem_cons_self
      (by decide) rfl
  have hmem := hkept "z" List.mem_cons_self scopedEntries rfl _ _ hscope _ _ _
    (.here List.mem_cons_self) (by decide)
  exact absurd hmem (by decide +kernel)

end Snapshot

end ScriptHost
