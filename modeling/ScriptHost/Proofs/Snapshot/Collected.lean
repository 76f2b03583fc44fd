import ScriptHost.Proofs.Snapshot.Access
/-!
# Where the files of a snapshot come from

A snapshot has one path for each file of a package, and the files of a package
that another one carries have the paths that they would have if it were
installed by itself. So files of several packages may have one path, and of
these the one that is collected last is in the snapshot.

- `Snapshot.OwnFile`: a file of a package that is in no directory of carried packages.
- `Snapshot.Carries`: a package carries another one, at any depth.
- `Snapshot.Source`: a file of installed packages, with the path that it has in a snapshot.
- `Snapshot.mem_packageFiles_iff`: which files a package adds to a snapshot.
- `Snapshot.Keeps`, `Snapshot.collect_keeps`: which of the files with one path a snapshot keeps.
-/

namespace ScriptHost

namespace Snapshot

/-! ## Files of packages -/

/-- A file below the entries of a directory, with its directory from there on and its name, that is
in no directory of carried packages. -/
inductive OwnFile : List (String × FileTree) → String → String → String → Prop where
  | here {entries : List (String × FileTree)} {name text : String} :
      (name, .file text) ∈ entries → OwnFile entries "" name text
  | within {entries inner : List (String × FileTree)} {sub inside name text : String} :
      (sub, .dir inner) ∈ entries → sub ≠ packagesName → OwnFile inner inside name text →
      OwnFile entries (sub ++ "/" ++ inside) name text

/-- Below the entries of a directory, a package of some name and with some entries is carried, maybe
by a package that is carried itself. -/
inductive Carries : List (String × FileTree) → String → List (String × FileTree) → Prop where
  | here {entries packages inner : List (String × FileTree)} {name : String} :
      (packagesName, .dir packages) ∈ entries → (name, .dir inner) ∈ packages →
      hasManifest inner = true → Carries entries name inner
  | deeper {entries packages between inner : List (String × FileTree)} {other name : String} :
      (packagesName, .dir packages) ∈ entries → (other, .dir between) ∈ packages →
      hasManifest between = true → Carries between name inner → Carries entries name inner
  | within {entries between inner : List (String × FileTree)} {sub name : String} :
      (sub, .dir between) ∈ entries → sub ≠ packagesName → Carries between name inner →
      Carries entries name inner

/-- A file that a package has by itself and that goes into a snapshot, with its path and text. -/
def OwnEntry (library : String) (entries : List (String × FileTree)) (path text : String) : Prop :=
  ∃ inside name, OwnFile entries inside name text ∧ isCollected inside name = true ∧
    key library inside name = path

/-! ## What a package adds -/

variable {library inside path text : String} {entries : List (String × FileTree)}

theorem mem_packageFiles {e : String × String} :
    e ∈ packageFiles library inside entries ↔
      ∃ entry ∈ entries, e ∈ entryFiles library inside entry.1 entry.2 := by
  induction entries with
  | nil => simp [packageFiles]
  | cons entry rest ih =>
    obtain ⟨name, t⟩ := entry
    rw [packageFiles, List.mem_append, ih]
    simp

theorem mem_carriedFiles {e : String × String} :
    e ∈ carriedFiles entries ↔ ∃ entry ∈ entries, e ∈ carriedEntry entry.1 entry.2 := by
  induction entries with
  | nil => simp [carriedFiles]
  | cons entry rest ih =>
    obtain ⟨name, t⟩ := entry
    rw [carriedFiles, List.mem_append, ih]
    simp

/-- The files of a directory are added. -/
theorem mem_packageFiles_of_ownFile {name : String} {sub : String}
    (h : OwnFile entries sub name text) (hcollected : isCollected (inside ++ sub) name = true) :
    (key library (inside ++ sub) name, text) ∈ packageFiles library inside entries := by
  -- the directory in front grows on the way down, so it is not fixed
  induction h generalizing inside with
  | here hmem =>
    rw [String.append_empty] at hcollected ⊢
    refine mem_packageFiles.2 ⟨_, hmem, ?_⟩
    rw [entryFiles, if_pos hcollected]
    exact List.mem_cons_self
  | within hmem hname _ ih =>
    refine mem_packageFiles.2 ⟨_, hmem, ?_⟩
    rw [entryFiles, if_neg (by simpa using hname)]
    rw [← String.append_assoc, ← String.append_assoc] at hcollected ⊢
    exact ih hcollected

/-- What carried packages add is added. -/
theorem mem_packageFiles_of_carries {name : String} {inner : List (String × FileTree)}
    (h : Carries entries name inner) {e : String × String} (he : e ∈ packageFiles name "" inner) :
    e ∈ packageFiles library inside entries := by
  induction h generalizing library inside with
  | here hmem hpackage hmanifest =>
    refine mem_packageFiles.2 ⟨_, hmem, ?_⟩
    rw [entryFiles, if_pos (beq_self_eq_true _)]
    refine mem_carriedFiles.2 ⟨_, hpackage, ?_⟩
    rwa [carriedEntry, if_pos hmanifest]
  | deeper hmem hpackage hmanifest _ ih =>
    refine mem_packageFiles.2 ⟨_, hmem, ?_⟩
    rw [entryFiles, if_pos (beq_self_eq_true _)]
    refine mem_carriedFiles.2 ⟨_, hpackage, ?_⟩
    rw [carriedEntry, if_pos hmanifest]
    exact ih he
  | within hmem hname _ ih =>
    refine mem_packageFiles.2 ⟨_, hmem, ?_⟩
    rw [entryFiles, if_neg (by simpa using hname)]
    exact ih he

/-- A directory is smaller than the entries among which it is. -/
theorem sizeOf_lt_of_mem {inner : List (String × FileTree)} {name : String}
    (h : (name, FileTree.dir inner) ∈ entries) : sizeOf inner < sizeOf entries := by
  have hless := List.sizeOf_lt_of_mem h
  rw [Prod.mk.sizeOf_spec, FileTree.dir.sizeOf_spec] at hless
  omega

/-- What is added is a file of the package or one of a carried package. The recursion goes down into
directories and into the packages of a directory of carried ones. -/
theorem ownFile_or_carries {library inside : String} {entries : List (String × FileTree)}
    {e : String × String} (h : e ∈ packageFiles library inside entries) :
    (∃ sub name, OwnFile entries sub name e.2 ∧ isCollected (inside ++ sub) name = true ∧
        key library (inside ++ sub) name = e.1) ∨
      ∃ package inner, Carries entries package inner ∧ OwnEntry package inner e.1 e.2 := by
  obtain ⟨⟨name, t⟩, hmem, he⟩ := mem_packageFiles.1 h
  cases t with
  | file text =>
    rw [entryFiles] at he
    split at he
    · next hcollected =>
      rw [List.mem_singleton.1 he]
      refine .inl ⟨"", name, .here hmem, ?_, ?_⟩
      · rwa [String.append_empty]
      · rw [String.append_empty]
    · cases he
  | dir inner =>
    rw [entryFiles] at he
    split at he
    · next hname =>
      -- a directory of carried packages, each with its own name and no directory in front
      obtain rfl := beq_iff_eq.1 hname
      obtain ⟨⟨package, t⟩, hpackage, he⟩ := mem_carriedFiles.1 he
      cases t with
      | file text => cases he
      | dir between =>
        rw [carriedEntry] at he
        split at he
        · next hmanifest =>
          have hless : sizeOf between < sizeOf entries :=
            Nat.lt_trans (sizeOf_lt_of_mem hpackage) (sizeOf_lt_of_mem hmem)
          rcases ownFile_or_carries he with ⟨sub, name, hown, hcollected, hkey⟩ |
            ⟨package', inner', hcarries, hentry⟩
          · rw [String.empty_append] at hcollected hkey
            exact .inr ⟨package, between, .here hmem hpackage hmanifest,
              sub, name, hown, hcollected, hkey⟩
          · exact .inr ⟨package', inner', .deeper hmem hpackage hmanifest hcarries, hentry⟩
        · cases he
    · next hname =>
      -- any other directory, which comes in front of what is found below it
      have hname : name ≠ packagesName := by simpa using hname
      have hless : sizeOf inner < sizeOf entries := sizeOf_lt_of_mem hmem
      rcases ownFile_or_carries he with ⟨sub, name', hown, hcollected, hkey⟩ |
        ⟨package, inner', hcarries, hentry⟩
      · have hpath : inside ++ name ++ "/" ++ sub = inside ++ (name ++ "/" ++ sub) := by
          simp only [String.append_assoc]
        rw [hpath] at hcollected hkey
        exact .inl ⟨name ++ "/" ++ sub, name', .within hmem hname hown, hcollected, hkey⟩
      · exact .inr ⟨package, inner', .within hmem hname hcarries, hentry⟩
termination_by sizeOf entries
decreasing_by all_goals assumption

/-- **What a package adds**: the files that it has by itself, and those of the packages that it
carries. -/
theorem mem_packageFiles_iff :
    (path, text) ∈ packageFiles library "" entries ↔ OwnEntry library entries path text ∨
      ∃ package inner, Carries entries package inner ∧ OwnEntry package inner path text := by
  constructor
  · intro h
    simpa only [String.empty_append, OwnEntry] using ownFile_or_carries h
  · have hown {library : String} {entries : List (String × FileTree)}
        (h : OwnEntry library entries path text) :
        (path, text) ∈ packageFiles library "" entries := by
      obtain ⟨sub, name, hown, hcollected, rfl⟩ := h
      rw [← String.empty_append (s := sub)] at hcollected ⊢
      exact mem_packageFiles_of_ownFile hown hcollected
    rintro (h | ⟨package, inner, hcarries, h⟩)
    · exact hown h
    · exact mem_packageFiles_of_carries hcarries (hown h)

/-! ## What a snapshot keeps -/

/-- A file that installed packages have or carry, with the path that it has in a snapshot. -/
inductive Source (d : Disk) (input : String) (libraries : List String) (path text : String) :
    Prop where
  /-- A package that is listed and installed has the file by itself. -/
  | own {library : String} {entries : List (String × FileTree)} :
      library ∈ libraries → installed? d input library = some entries →
      OwnEntry library entries path text → Source d input libraries path text
  /-- Such a package carries another one that has the file. -/
  | carried {library package : String} {entries inner : List (String × FileTree)} :
      library ∈ libraries → installed? d input library = some entries →
      Carries entries package inner → OwnEntry package inner path text →
      Source d input libraries path text

/-- What is collected, in the order in which it is collected. -/
def collected (d : Disk) (input : String) (libraries : List String) : List (String × String) :=
  libraries.flatMap (libraryFiles d input)

variable {d : Disk} {input : String} {libraries : List String}

/-- What is collected are the files that installed packages have or carry. -/
theorem mem_collected_iff :
    (path, text) ∈ collected d input libraries ↔ Source d input libraries path text := by
  rw [collected, List.mem_flatMap]
  constructor
  · rintro ⟨library, hlibrary, hmem⟩
    rw [libraryFiles] at hmem
    cases hinstalled : installed? d input library with
    | none => simp [hinstalled] at hmem
    | some entries =>
      rw [hinstalled, Option.map_some, Option.getD_some, mem_packageFiles_iff] at hmem
      rcases hmem with hown | ⟨package, inner, hcarries, hown⟩
      · exact .own hlibrary hinstalled hown
      · exact .carried hlibrary hinstalled hcarries hown
  · have hadds {library : String} {entries : List (String × FileTree)}
        (hinstalled : installed? d input library = some entries) :
        libraryFiles d input library = packageFiles library "" entries := by
      rw [libraryFiles, hinstalled, Option.map_some, Option.getD_some]
    rintro (⟨hlibrary, hinstalled, hown⟩ | ⟨hlibrary, hinstalled, hcarries, hown⟩)
    · exact ⟨_, hlibrary, hadds hinstalled ▸ mem_packageFiles_iff.2 (.inl hown)⟩
    · exact ⟨_, hlibrary, hadds hinstalled ▸ mem_packageFiles_iff.2 (.inr ⟨_, _, hcarries, hown⟩)⟩

/-- What a snapshot keeps of the files of some packages. -/
structure Keeps (d : Disk) (input : String) (libraries : List String)
    (snapshot : SortedMap String) : Prop where
  /-- It has a path exactly if a package has or carries a file with this path. -/
  paths : ∀ path, path ∈ snapshot.keys ↔ ∃ text, Source d input libraries path text
  /-- Its text for a path is that of a file with this path, which is the last one collected. -/
  last : ∀ path text, snapshot.get? path = some text ↔
    ∃ before after, collected d input libraries = before ++ (path, text) :: after ∧
      ∀ other, (path, other) ∉ after
  /-- A file that a listed and installed package has by itself is kept unless a file with its path
  has another text, and then the text that is kept is that of such a file or its own. -/
  own : ∀ library ∈ libraries, ∀ entries, installed? d input library = some entries →
    ∀ path text, OwnEntry library entries path text →
      ∃ kept, snapshot.get? path = some kept ∧ Source d input libraries path kept ∧
        ((∀ other, Source d input libraries path other → other = text) → kept = text)

/-- The map of what is collected keeps the last of the files with one path. -/
theorem keeps_ofList (d : Disk) (input : String) (libraries : List String) :
    Keeps d input libraries (.ofList (collected d input libraries)) := by
  have hpaths (path : String) : path ∈ (SortedMap.ofList (collected d input libraries)).keys ↔
      ∃ text, Source d input libraries path text := by
    simp only [SortedMap.mem_keys_ofList_iff, List.mem_map, Prod.exists, exists_and_right,
      exists_eq_right, mem_collected_iff]
  have hlast (path text : String) :
      (SortedMap.ofList (collected d input libraries)).get? path = some text ↔
        ∃ before after, collected d input libraries = before ++ (path, text) :: after ∧
          ∀ other, (path, other) ∉ after := by
    rw [SortedMap.get?_ofList_eq_some_iff]
    simp
  refine ⟨hpaths, hlast, ?_⟩
  intro library hlibrary entries hinstalled path text hown
  have hkey := (hpaths path).2 ⟨text, .own hlibrary hinstalled hown⟩
  obtain ⟨kept, hkept⟩ := Option.isSome_iff_exists.1 (SortedMap.contains_iff.2 hkey)
  -- what is found is one of the files that were collected
  obtain ⟨before, after, hsplit, -⟩ := (hlast path kept).1 hkept
  have hsource : Source d input libraries path kept :=
    mem_collected_iff.1 (hsplit ▸ List.mem_append_right _ List.mem_cons_self)
  exact ⟨kept, hkept, hsource, fun hall => hall kept hsource⟩

/-- **What a snapshot keeps.** Collection fails exactly where the packages cannot be told, or where
one of them or one of its files cannot be read. Where it does not fail, the snapshot keeps, of all
files with one path, the one that is collected last. -/
theorem collect_keeps (d : Disk) (input : String) :
    (∀ access : Access, (∃ f, access.collect d input = .error f) ↔ Fails access d input) ∧
      (∀ access : Access, access.IsFaithful → ∀ snapshot, access.collect d input = .ok snapshot →
        collect d input = .ok snapshot) ∧
      ∀ snapshot, collect d input = .ok snapshot →
        ∃ libraries, dependencies d input = .ok libraries ∧ Keeps d input libraries snapshot := by
  refine ⟨fun access => Access.collect_fails_iff,
    fun access haccess snapshot => Access.collect_of_isFaithful haccess, fun snapshot h => ?_⟩
  rw [collect] at h
  obtain ⟨libraries, hlist, h⟩ := exists_of_bind_eq_ok h
  cases h
  exact ⟨libraries, hlist, keeps_ofList d input libraries⟩

/-- A package, and another one that carries a copy of it. -/
def copiedPackage : Disk where
  home := "/project"
  tree := .dir [
    ("node_modules", .dir [
      ("a", .dir [("index.d.ts", .file "own"), ("package.json", .file "\x7b\x7d")]),
      ("z", .dir [
        ("node_modules", .dir [
          ("a", .dir [("index.d.ts", .file "copy"), ("package.json", .file "\x7b\x7d")])]),
        ("package.json", .file "\x7b\x7d")])]),
    ("package-lock.json", .file
      "\x7b\"packages\":\x7b\"node_modules/a\":\x7b\x7d,\"node_modules/z\":\x7b\x7d\x7d\x7d")]

/-- The copy of a package may replace the package. -/
theorem copiedPackage_replaced :
    (∃ libraries entries, dependencies copiedPackage "." = .ok libraries ∧ "a" ∈ libraries ∧
      installed? copiedPackage "." "a" = some entries ∧
        OwnEntry "a" entries "node_modules/a/index.d.ts" "own") ∧
    ∃ snapshot, collect copiedPackage "." = .ok snapshot ∧
      snapshot.get? "node_modules/a/index.d.ts" = some "copy" := by
  have hlisted : dependencies copiedPackage "." = .ok ["a", "z"] := rfl
  refine ⟨⟨_, [("index.d.ts", .file "own"), ("package.json", .file "\x7b\x7d")], hlisted,
    List.mem_cons_self, rfl, "", "index.d.ts", .here List.mem_cons_self, by decide, by decide⟩, ?_⟩
  rw [collect, hlisted]
  exact ⟨_, rfl, by decide +kernel⟩

end Snapshot

end ScriptHost
