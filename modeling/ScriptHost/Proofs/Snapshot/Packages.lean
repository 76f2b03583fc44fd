import ScriptHost.Proofs.Snapshot.Collected
/-!
# The packages behind a snapshot

All that is in a snapshot lies in a package: a directory that is listed and
installed, or one that another package carries. The path of a file says which
package that is and where in it the file lies, and a file that is found below
an inner directory of packages is one of the package there.

- `FileTree.Holds`: names lead down from a tree to another one.
- `Snapshot.ownFile_iff`: the files of a package by the names that lead to them.
- `Snapshot.IsPackage`: the directories that are packages.
- `Snapshot.Provides`: the files of packages that go into a snapshot.
- `Snapshot.collect_provides`: a snapshot holds these files and nothing else.
-/

namespace ScriptHost

namespace FileTree

/-- Names lead down from a tree to another one. -/
inductive Holds : FileTree → List String → FileTree → Prop where
  | here {t : FileTree} : Holds t [] t
  | down {entries : List (String × FileTree)} {next t : FileTree} {name : String}
      {names : List String} :
      (name, next) ∈ entries → Holds next names t → Holds (dir entries) (name :: names) t

variable {entries : List (String × FileTree)} {t : FileTree} {text name : String}
  {names : List String}

theorem not_holds_file : ¬ (file text).Holds (name :: names) t := nofun

theorem holds_nil_iff {t' : FileTree} : t.Holds [] t' ↔ t = t' := by
  constructor
  · intro h
    cases h
    rfl
  · rintro rfl
    exact .here

theorem holds_cons_iff : (dir entries).Holds (name :: names) t ↔
    ∃ next, (name, next) ∈ entries ∧ next.Holds names t := by
  constructor
  · intro h
    cases h with
    | down hmem hnext => exact ⟨_, hmem, hnext⟩
  · rintro ⟨next, hmem, hnext⟩
    exact .down hmem hnext

/-- What names lead to leads on to what it holds itself. -/
theorem Holds.append {between : FileTree} {more : List String} (h : t.Holds names between)
    {t' : FileTree} (h' : between.Holds more t') : t.Holds (names ++ more) t' := by
  induction h with
  | here => exact h'
  | down hmem _ ih => exact .down hmem (ih h')

end FileTree

namespace Snapshot

open FileTree (Holds)

variable {d : Disk} {input : String} {libraries : List String}

/-! ## Files by their names -/

/-- The path of a file from a directory on, by the directories on the way and its name. -/
def relativePath (dirs : List String) (name : String) : String := "/".intercalate (dirs ++ [name])

/-- The directories on the way as they stand in front of a name. -/
def inFront (dirs : List String) : String := String.join (dirs.map (· ++ "/"))

theorem inFront_cons (sub : String) (dirs : List String) :
    inFront (sub :: dirs) = sub ++ "/" ++ inFront dirs := by
  rw [inFront, inFront, List.map_cons, String.join_cons]

theorem inFront_eq_empty_iff {dirs : List String} : inFront dirs = "" ↔ dirs = [] := by
  cases dirs with
  | nil => exact iff_of_true rfl rfl
  | cons sub dirs =>
    refine iff_of_false (fun h => ?_) (List.cons_ne_nil _ _)
    have hchars := congrArg String.toList h
    rw [inFront_cons] at hchars
    simp at hchars

theorem inFront_append (dirs : List String) (name : String) :
    inFront dirs ++ name = relativePath dirs name := by
  induction dirs with
  | nil => exact String.empty_append
  | cons sub dirs ih =>
    have hmore : dirs ++ [name] ≠ [] := List.append_ne_nil_of_right_ne_nil _ (List.cons_ne_nil _ _)
    rw [inFront_cons, String.append_assoc, ih, relativePath, relativePath, List.cons_append,
      String.intercalate_cons_of_ne_nil hmore]

/-- **A file that a package has by itself** is one that names lead to, of which none is that of a
directory of packages. -/
theorem ownFile_iff {entries : List (String × FileTree)} {inside name text : String} :
    OwnFile entries inside name text ↔ ∃ dirs, packagesName ∉ dirs ∧ inFront dirs = inside ∧
      (FileTree.dir entries).Holds (dirs ++ [name]) (.file text) := by
  constructor
  · intro h
    induction h with
    | here hmem => exact ⟨[], List.not_mem_nil, rfl, .down hmem .here⟩
    | within hmem hsub _ ih =>
      obtain ⟨dirs, hdirs, rfl, hholds⟩ := ih
      refine ⟨_ :: dirs, ?_, inFront_cons _ _, .down hmem hholds⟩
      exact List.not_mem_cons_of_ne_of_not_mem (Ne.symm hsub) hdirs
  · rintro ⟨dirs, hdirs, rfl, hholds⟩
    induction dirs generalizing entries with
    | nil =>
      obtain ⟨next, hmem, hnext⟩ := FileTree.holds_cons_iff.1 hholds
      obtain rfl := FileTree.holds_nil_iff.1 hnext
      exact .here hmem
    | cons sub dirs ih =>
      obtain ⟨next, hmem, hnext⟩ := FileTree.holds_cons_iff.1 hholds
      have hsub : sub ≠ packagesName := (List.ne_of_not_mem_cons hdirs).symm
      have hdirs : packagesName ∉ dirs := List.not_mem_of_not_mem_cons hdirs
      rw [inFront_cons]
      cases next with
      | file other => cases dirs <;> exact absurd hnext FileTree.not_holds_file
      | dir inner => exact .within hmem hsub (ih hdirs hnext)

theorem endsWithAny_singleton_iff {ending name : String} :
    Path.endsWithAny [ending] name = true ↔ ∃ stem, name = stem ++ ending := by
  simp only [Path.endsWithAny, List.any_cons, List.any_nil, Bool.or_false,
    List.isSuffixOf_iff_suffix]
  constructor
  · rintro ⟨stem, hstem⟩
    exact ⟨String.ofList stem, String.toList_inj.1 (by simp [hstem])⟩
  · rintro ⟨stem, rfl⟩
    exact ⟨stem.toList, String.toList_append.symm⟩

/-- The files that go into a snapshot: those that declare, and the manifest of the package. -/
theorem isCollected_iff {dirs : List String} {name : String} :
    isCollected (inFront dirs) name = true ↔
      (∃ stem, name = stem ++ declarationEnding) ∨ dirs = [] ∧ name = manifestName := by
  rw [isCollected, Bool.or_eq_true, endsWithAny_singleton_iff, Bool.and_eq_true,
    String.isEmpty_iff, inFront_eq_empty_iff, beq_iff_eq]

/-! ## Packages -/

/-- A directory with its entries is a package under a name: it is listed and installed, or it has a
manifest and lies in an inner directory of packages of another package. -/
inductive IsPackage (d : Disk) (input : String) (libraries : List String) :
    String → List (String × FileTree) → Prop where
  | locked {library : String} {entries : List (String × FileTree)} :
      library ∈ libraries → d.find (packagePath input library) = .ok (.dir entries) →
      IsPackage d input libraries library entries
  | nested {owner name : String} {entries inner : List (String × FileTree)} {dirs : List String} :
      IsPackage d input libraries owner entries → packagesName ∉ dirs →
      (FileTree.dir entries).Holds (dirs ++ [packagesName, name]) (.dir inner) →
      hasManifest inner = true → IsPackage d input libraries name inner

theorem installed?_eq_some_iff {library : String} {entries : List (String × FileTree)} :
    installed? d input library = some entries ↔
      d.find (packagePath input library) = .ok (.dir entries) := by
  rw [installed?]
  cases d.find (packagePath input library) with
  | error e => simp
  | ok t => cases t <;> simp

/-- What a package carries is carried behind a directory of it, too. -/
theorem carries_of_holds {entries inner : List (String × FileTree)} {dirs : List String}
    {name : String} (hdirs : packagesName ∉ dirs)
    (h : (FileTree.dir entries).Holds (dirs ++ [packagesName, name]) (.dir inner))
    (hmanifest : hasManifest inner = true) : Carries entries name inner := by
  induction dirs generalizing entries with
  | nil =>
    obtain ⟨next, hmem, hnext⟩ := FileTree.holds_cons_iff.1 h
    cases next with
    | file text => exact absurd hnext FileTree.not_holds_file
    | dir packages =>
      obtain ⟨next, hpackage, hnext⟩ := FileTree.holds_cons_iff.1 hnext
      obtain rfl := FileTree.holds_nil_iff.1 hnext
      exact .here hmem hpackage hmanifest
  | cons sub dirs ih =>
    obtain ⟨next, hmem, hnext⟩ := FileTree.holds_cons_iff.1 h
    have hsub : sub ≠ packagesName := (List.ne_of_not_mem_cons hdirs).symm
    have hdirs : packagesName ∉ dirs := List.not_mem_of_not_mem_cons hdirs
    cases next with
    | file text => cases dirs <;> exact absurd hnext FileTree.not_holds_file
    | dir between => exact .within hmem hsub (ih hdirs hnext)

/-- What a carried package carries is carried by its owner. -/
theorem Carries.trans {entries between inner : List (String × FileTree)} {other name : String}
    (h : Carries entries other between) (h' : Carries between name inner) :
    Carries entries name inner := by
  induction h with
  | here hmem hpackage hmanifest => exact .deeper hmem hpackage hmanifest h'
  | deeper hmem hpackage hmanifest _ ih => exact .deeper hmem hpackage hmanifest (ih h')
  | within hmem hsub _ ih => exact .within hmem hsub (ih h')

/-- What is carried below a directory of a package is a package, too. -/
theorem IsPackage.of_carries {owner name : String} {root entries inner : List (String × FileTree)}
    {dirs : List String} (howner : IsPackage d input libraries owner root)
    (hdirs : packagesName ∉ dirs) (hroot : (FileTree.dir root).Holds dirs (.dir entries))
    (h : Carries entries name inner) : IsPackage d input libraries name inner := by
  -- the directories on the way grow until a directory of packages is met, and start anew there
  induction h generalizing owner root dirs with
  | here hmem hpackage hmanifest =>
    exact .nested howner hdirs (hroot.append (.down hmem (.down hpackage .here))) hmanifest
  | deeper hmem hpackage hmanifest _ ih =>
    have hbetween := IsPackage.nested howner hdirs
      (hroot.append (.down hmem (.down hpackage .here))) hmanifest
    exact ih hbetween List.not_mem_nil .here
  | within hmem hsub _ ih =>
    refine ih howner ?_ (hroot.append (.down hmem .here))
    rw [List.mem_append, List.mem_singleton]
    exact not_or.2 ⟨hdirs, Ne.symm hsub⟩

/-- **Packages are those that are listed and installed, and those that they carry.** -/
theorem isPackage_iff {name : String} {inner : List (String × FileTree)} :
    IsPackage d input libraries name inner ↔ ∃ library ∈ libraries, ∃ entries,
      installed? d input library = some entries ∧
        (name = library ∧ inner = entries ∨ Carries entries name inner) := by
  constructor
  · intro h
    induction h with
    | locked hlibrary hfind =>
      exact ⟨_, hlibrary, _, installed?_eq_some_iff.2 hfind, .inl ⟨rfl, rfl⟩⟩
    | nested _ hdirs hholds hmanifest ih =>
      obtain ⟨library, hlibrary, entries, hinstalled, howner⟩ := ih
      refine ⟨library, hlibrary, entries, hinstalled, .inr ?_⟩
      have hcarries := carries_of_holds hdirs hholds hmanifest
      rcases howner with ⟨-, rfl⟩ | hmore
      · exact hcarries
      · exact hmore.trans hcarries
  · rintro ⟨library, hlibrary, entries, hinstalled, ⟨rfl, rfl⟩ | hcarries⟩
    · exact .locked hlibrary (installed?_eq_some_iff.1 hinstalled)
    · exact .of_carries (.locked hlibrary (installed?_eq_some_iff.1 hinstalled)) List.not_mem_nil
        .here hcarries

/-! ## Files of packages -/

/-- A file of a package goes into a snapshot with its path and text: it lies in no inner directory
of packages, and it declares or is the manifest of the package. `spelled` says how the path from the
package on is written. -/
inductive Provides (d : Disk) (input : String) (libraries : List String)
    (spelled : String → String) : String → String → Prop where
  | file {library name text : String} {entries : List (String × FileTree)} {dirs : List String} :
      IsPackage d input libraries library entries → packagesName ∉ dirs →
      (FileTree.dir entries).Holds (dirs ++ [name]) (.file text) →
      ((∃ stem, name = stem ++ declarationEnding) ∨ dirs = [] ∧ name = manifestName) →
      Provides d input libraries spelled
        (packagesName ++ "/" ++ library ++ "/" ++ spelled (relativePath dirs name)) text

/-- What packages have by themselves or carry is what they provide. -/
theorem source_iff_provides {path text : String} :
    Source d input libraries path text ↔ Provides d input libraries Path.canonical path text := by
  have hprovides {library : String} {entries : List (String × FileTree)}
      (hpackage : IsPackage d input libraries library entries)
      (hown : OwnEntry library entries path text) :
      Provides d input libraries Path.canonical path text := by
    obtain ⟨inside, name, hfile, hcollected, rfl⟩ := hown
    obtain ⟨dirs, hdirs, rfl, hholds⟩ := ownFile_iff.1 hfile
    rw [key, inFront_append]
    exact .file hpackage hdirs hholds (isCollected_iff.1 hcollected)
  constructor
  · rintro (⟨hlibrary, hinstalled, hown⟩ | ⟨hlibrary, hinstalled, hcarries, hown⟩)
    · exact hprovides (isPackage_iff.2 ⟨_, hlibrary, _, hinstalled, .inl ⟨rfl, rfl⟩⟩) hown
    · exact hprovides (isPackage_iff.2 ⟨_, hlibrary, _, hinstalled, .inr hcarries⟩) hown
  · rintro ⟨hpackage, hdirs, hholds, hkind⟩
    next library name entries dirs =>
    have hown : OwnEntry library entries
        (packagesName ++ "/" ++ library ++ "/" ++ Path.canonical (relativePath dirs name))
        text := by
      refine ⟨inFront dirs, name, ownFile_iff.2 ⟨dirs, hdirs, rfl, hholds⟩,
        isCollected_iff.2 hkind, ?_⟩
      rw [key, inFront_append]
    obtain ⟨owner, hlibrary, root, hinstalled, ⟨rfl, rfl⟩ | hcarries⟩ := isPackage_iff.1 hpackage
    · exact .own hlibrary hinstalled hown
    · exact .carried hlibrary hinstalled hcarries hown

/-- A snapshot is collected if the packages can be told. -/
theorem collect_eq_ok_iff {snapshot : SortedMap String} : collect d input = .ok snapshot ↔
    ∃ libraries, dependencies d input = .ok libraries ∧
      snapshot = .ofList (collected d input libraries) := by
  rw [collect]
  cases dependencies d input with
  | error failure =>
    constructor
    · intro h
      cases h
    · rintro ⟨libraries, hlisted, -⟩
      cases hlisted
  | ok libraries =>
    constructor
    · intro h
      cases h
      exact ⟨libraries, rfl, rfl⟩
    · rintro ⟨listed, hlisted, rfl⟩
      cases hlisted
      rfl

/-- **A snapshot holds what packages provide, and nothing else**: each of its texts is that of a
file of a package that provides its path, and each path that a package provides is there. Paths from
a package on are written with slashes for backslashes. -/
theorem collect_provides {snapshot : SortedMap String} (h : collect d input = .ok snapshot) :
    ∃ libraries, dependencies d input = .ok libraries ∧
      (∀ path text, snapshot.get? path = some text →
        Provides d input libraries Path.canonical path text) ∧
      ∀ path, path ∈ snapshot.keys ↔
        ∃ text, Provides d input libraries Path.canonical path text := by
  obtain ⟨libraries, hlisted, rfl⟩ := collect_eq_ok_iff.1 h
  have hkeeps := keeps_ofList d input libraries
  refine ⟨libraries, hlisted, fun path text htext => ?_, fun path => ?_⟩
  · -- the text is that of the last of the files that were collected with the path
    obtain ⟨before, after, hsplit, -⟩ := (hkeeps.last path text).1 htext
    have hmem : (path, text) ∈ collected d input libraries :=
      hsplit ▸ List.mem_append_right _ List.mem_cons_self
    exact source_iff_provides.1 (mem_collected_iff.1 hmem)
  · rw [hkeeps.paths]
    exact exists_congr fun text => source_iff_provides

/-- A package with a package that it carries, sources, inner manifests and directories that are no
packages, and with a file whose name has a backslash. -/
def mixedPackages : Disk where
  home := "/project"
  tree := .dir [
    ("node_modules", .dir [
      ("a", .dir [
        ("lib", .dir [
          ("index.js", .file "source"), ("package.json", .file "inner"),
          ("x\\y.d.ts", .file "declared")]),
        ("node_modules", .dir [
          (".tools", .dir [("t.d.ts", .file "tool")]),
          ("b", .dir [("b.d.ts", .file "carried"), ("package.json", .file "manifest")])])])]),
    ("package-lock.json", .file "\x7b\"packages\":\x7b\"node_modules/a\":\x7b\x7d\x7d\x7d")]

/-- The snapshot of these packages has the two files that declare and the manifest. -/
theorem mixedPackages_provided : ∃ snapshot, collect mixedPackages "." = .ok snapshot ∧
    snapshot.get? "node_modules/a/lib/x/y.d.ts" = some "declared" ∧
    Provides mixedPackages "." ["a"] Path.canonical "node_modules/a/lib/x/y.d.ts" "declared" ∧
    snapshot.keys = ["node_modules/a/lib/x/y.d.ts", "node_modules/b/b.d.ts",
      "node_modules/b/package.json"] := by
  have hlisted : dependencies mixedPackages "." = .ok ["a"] := rfl
  have hcollect := collect_eq_ok_iff.2 ⟨_, hlisted, rfl⟩
  have htext : (SortedMap.ofList (collected mixedPackages "." ["a"])).get?
      "node_modules/a/lib/x/y.d.ts" = some "declared" := by decide +kernel
  obtain ⟨libraries, hsame, hprovides, -⟩ := collect_provides hcollect
  obtain rfl := Except.ok.inj (hlisted.symm.trans hsame)
  exact ⟨_, hcollect, htext, hprovides _ _ htext, by decide +kernel⟩

/-- A package with one file, whose name has a backslash. -/
def backslashedFile : Disk where
  home := "/project"
  tree := .dir [
    ("node_modules", .dir [("a", .dir [("x\\y.d.ts", .file "declared")])]),
    ("package-lock.json", .file "\x7b\"packages\":\x7b\"node_modules/a\":\x7b\x7d\x7d\x7d")]

/-- The package is the only one. -/
theorem isPackage_backslashedFile {library : String} {entries : List (String × FileTree)}
    (h : IsPackage backslashedFile "." ["a"] library entries) :
    library = "a" ∧ entries = [("x\\y.d.ts", .file "declared")] := by
  induction h with
  | locked hlibrary hfind =>
    obtain rfl := List.mem_singleton.1 hlibrary
    cases hfind
    exact ⟨rfl, rfl⟩
  | @nested _ _ _ _ dirs _ _ hholds _ ih =>
    obtain ⟨-, rfl⟩ := ih
    cases dirs with
    | nil =>
      obtain ⟨next, hmem, -⟩ := FileTree.holds_cons_iff.1 hholds
      obtain ⟨hname, -⟩ := Prod.mk.inj (List.mem_singleton.1 hmem)
      exact absurd hname (by decide)
    | cons sub dirs =>
      obtain ⟨next, hmem, hnext⟩ := FileTree.holds_cons_iff.1 hholds
      obtain ⟨-, rfl⟩ := Prod.mk.inj (List.mem_singleton.1 hmem)
      cases dirs <;> exact absurd hnext FileTree.not_holds_file

/-- Not every path of a snapshot tells where its file lies: no file of the package lies where a
slash stands for the backslash. -/
theorem backslashedFile_respelled : ¬ ∀ snapshot, collect backslashedFile "." = .ok snapshot →
    ∃ libraries, dependencies backslashedFile "." = .ok libraries ∧
      ∀ path text, snapshot.get? path = some text →
        Provides backslashedFile "." libraries id path text := by
  intro hall
  have hlisted : dependencies backslashedFile "." = .ok ["a"] := rfl
  have hcollect := collect_eq_ok_iff.2 ⟨_, hlisted, rfl⟩
  obtain ⟨libraries, hsame, hprovides⟩ := hall _ hcollect
  obtain rfl := Except.ok.inj (hlisted.symm.trans hsame)
  have htext : (SortedMap.ofList (collected backslashedFile "." ["a"])).get?
      "node_modules/a/x/y.d.ts" = some "declared" := by decide +kernel
  generalize hpath : "node_modules/a/x/y.d.ts" = path at htext
  obtain ⟨hpackage, -, hholds, -⟩ := hprovides _ _ htext
  next library name entries dirs =>
  obtain ⟨rfl, rfl⟩ := isPackage_backslashedFile hpackage
  cases dirs with
  | nil =>
    obtain ⟨next, hmem, -⟩ := FileTree.holds_cons_iff.1 hholds
    obtain ⟨rfl, -⟩ := Prod.mk.inj (List.mem_singleton.1 hmem)
    exact absurd hpath (by decide)
  | cons sub dirs =>
    obtain ⟨next, hmem, hnext⟩ := FileTree.holds_cons_iff.1 hholds
    obtain ⟨-, rfl⟩ := Prod.mk.inj (List.mem_singleton.1 hmem)
    cases dirs <;> exact absurd hnext FileTree.not_holds_file

end Snapshot

end ScriptHost
