import Mathlib.Algebra.Order.BigOperators.Group.List
import Mathlib.Algebra.Order.Group.Nat
import Mathlib.Data.List.Nodup
import Mathlib.Data.List.Sort
import ScriptHost.Proofs.Host.Indexing
import ScriptHost.Proofs.Host.OutputName
import ScriptHost.Proofs.Host.Spelling
/-!
# Hosts with one more file

A file is new if no set of a host holds its path under any spelling. A host that
has a new file finds what it found before, and reads the same texts: the new
file can be found under spellings of its own path only, and these found nothing.
What this takes is that of two paths that differ in case alone the same one is
found as before, which is so if the other paths are indexed in the same order.

- `Host.Extends`: a host finds and reads what another one does.
- `VirtualFiles.Adds`: a host of two maps, and one of the maps with a new file.
- `VirtualFiles.Adds.host_extends`: a host with a new file finds and reads what it did.
- `VirtualFiles.ofMaps_adds`: hosts that index the other paths in the same order.
- `exists_new_path`: there is always one more path.
-/

namespace ScriptHost

/-- A host finds and reads what another one does. -/
structure Host.Extends (h h' : Host) : Prop where
  exists? : ∀ path, h.exists? path = true → h'.exists? path = true
  read? : ∀ path text, h.read? path = some text → h'.read? path = some text

/-! ## Maps with one more entry -/

namespace SortedMap

variable {m : SortedMap String} {key path text value : String}

theorem get?_insert (m : SortedMap String) (path text key : String) :
    (m.insert path text).get? key = if key = path then some text else m.get? key :=
  lookup_insertEntry path text m.entries key

theorem mem_keys_insert : key ∈ (m.insert path text).keys ↔ key = path ∨ key ∈ m.keys := by
  rw [← contains_iff, ← contains_iff, contains, contains, get?_insert]
  by_cases h : key = path <;> simp [h]

theorem mem_entries_insert (hne : key ≠ path) :
    (key, value) ∈ (m.insert path text).entries ↔ (key, value) ∈ m.entries := by
  rw [← get?_eq_some_iff, ← get?_eq_some_iff, get?_insert, if_neg hne]

/-- An entry with a new key is put between two others. -/
theorem exists_insertEntry_eq (text : String) {l : List (String × String)}
    (h : path ∉ l.map (·.1)) :
    ∃ before after, l = before ++ after ∧
      insertEntry path text l = before ++ (path, text) :: after := by
  induction l with
  | nil => exact ⟨[], [], rfl, rfl⟩
  | cons e rest ih =>
    rw [List.map_cons, List.mem_cons, not_or] at h
    obtain ⟨hne, hrest⟩ := h
    obtain ⟨before, after, hsplit, hinsert⟩ := ih hrest
    rw [insertEntry]
    split
    · exact ⟨[], e :: rest, rfl, rfl⟩
    · next hlt =>
      have hgt : e.1 < path := by
        by_contra hgt
        exact hne (String.le_antisymm hgt hlt)
      rw [if_pos hgt, hinsert]
      exact ⟨e :: before, after, by rw [hsplit, List.cons_append], rfl⟩

end SortedMap

namespace FileSet

variable {s t : FileSet} {files : SortedMap String} {path other key text value : String}

/-- With slashes in its paths, a map with a new file holds the other files as before. -/
theorem mem_entries_ofCanonical_insert (hnew : path ∉ files.keys) (hne : key ≠ Path.canonical path)
    (h : (key, value) ∈ (ofCanonical files).files.entries) :
    (key, value) ∈ (ofCanonical (files.insert path text)).files.entries := by
  have hentries : (files.insert path text).entries =
      SortedMap.insertEntry path text files.entries := rfl
  obtain ⟨before, after, hsplit, hinsert⟩ :=
    SortedMap.exists_insertEntry_eq text hnew
  rw [← SortedMap.get?_eq_some_iff] at h ⊢
  rw [ofCanonical, ofMap, SortedMap.get?_ofList] at h ⊢
  rw [hsplit] at h
  rw [hentries, hinsert]
  simp only [List.map_append, List.map_cons, List.reverse_append, List.reverse_cons,
    List.lookup_append, SortedMap.lookup_cons_eq_ite, List.lookup_nil, hne, if_false,
    Option.or_none] at h ⊢
  exact h

/-! ## Sets with one more file -/

/-- Of two paths of a set that differ in case alone, another set finds the same one. -/
def KeepsFirst (s t : FileSet) : Prop :=
  ∀ a ∈ s.files.keys, ∀ b ∈ s.files.keys, a ≠ b → lowerCase a = lowerCase b →
    t.spellings.lookup (lowerCase a) = s.spellings.lookup (lowerCase a)

/-- A set holds the files of another one and at most one more, and of paths that differ in case
alone it finds the same. -/
structure Gains (s t : FileSet) (path : String) : Prop where
  entries : s.files.entries ⊆ t.files.entries
  keys : ∀ key ∈ t.files.keys, key = path ∨ key ∈ s.files.keys
  first : s.KeepsFirst t

theorem Gains.mem_keys (h : s.Gains t path) (hkey : key ∈ s.files.keys) : key ∈ t.files.keys := by
  obtain ⟨e, he, rfl⟩ := List.mem_map.1 hkey
  exact List.mem_map_of_mem (h.entries he)

/-- What a set holds under a spelling of another path is held as before. -/
theorem Gains.key?_eq_some (h : s.Gains t path) (hne : lowerCase other ≠ lowerCase path)
    (hkey : s.key? other = some key) : t.key? other = some key := by
  obtain ⟨hmem, hlow⟩ := key?_spec hkey
  by_cases hown : other ∈ s.files.keys
  · rw [key?_of_mem (h.mem_keys hown), ← key?_of_mem hown, hkey]
  · have hmissed : ¬ t.files.contains other = true := by
      rw [SortedMap.contains_iff]
      intro hin
      rcases h.keys other hin with rfl | hin
      · exact hne rfl
      · exact hown hin
    have hmissed' : ¬ s.files.contains other = true := by rwa [SortedMap.contains_iff]
    obtain ⟨found, hfound⟩ := Option.isSome_iff_exists.1
      (key?_isSome_iff.2 ⟨key, h.mem_keys hmem, hlow⟩)
    obtain ⟨hfoundMem, hfoundLow⟩ := key?_spec hfound
    rcases h.keys found hfoundMem with rfl | hfoundMem
    · exact absurd hfoundLow.symm hne
    · -- both are paths of the smaller set, and they differ in case at most
      by_cases hsame : found = key
      · rw [hfound, hsame]
      · have hfirst := h.first found hfoundMem key hmem hsame (hfoundLow.trans hlow.symm)
        rw [hfoundLow] at hfirst
        rw [key?, if_neg hmissed'] at hkey
        rw [key?, if_neg hmissed, hfirst, hkey]

/-- Spellings of another path are held as before. -/
theorem Gains.key?_eq (h : s.Gains t path) (hne : lowerCase other ≠ lowerCase path) :
    t.key? other = s.key? other := by
  cases hkey : s.key? other with
  | some key => exact h.key?_eq_some hne hkey
  | none =>
    rw [← Option.not_isSome_iff_eq_none, key?_isSome_iff] at hkey ⊢
    rintro ⟨key, hmem, hlow⟩
    rcases h.keys key hmem with rfl | hmem
    · exact hne hlow.symm
    · exact hkey ⟨key, hmem, hlow⟩

/-- Spellings of another path have the text that they had. -/
theorem Gains.text?_eq (h : s.Gains t path) (hne : lowerCase other ≠ lowerCase path) :
    t.text? other = s.text? other := by
  rw [text?, text?, h.key?_eq hne]
  cases hkey : s.key? other with
  | none => rfl
  | some key =>
    obtain ⟨⟨_, value⟩, hentry, rfl⟩ := List.mem_map.1 (key?_spec hkey).1
    rw [Option.bind_some, Option.bind_some, SortedMap.get?_eq_some_iff.2 hentry,
      SortedMap.get?_eq_some_iff.2 (h.entries hentry)]

/-- A set that holds the same files gains nothing. -/
theorem gains_of_files_eq (hfiles : t.files = s.files) (hfirst : s.KeepsFirst t) (path : String) :
    s.Gains t path :=
  ⟨hfiles ▸ List.Subset.refl _, fun _ hkey => .inr (hfiles ▸ hkey), hfirst⟩

/-- A set of a map gains a new file of the map. -/
theorem gains_insert (hs : s.files = files) (ht : t.files = files.insert path text)
    (hnew : path ∉ files.keys) (hfirst : s.KeepsFirst t) : s.Gains t path := by
  refine ⟨fun e he => ?_, fun key hkey => ?_, hfirst⟩
  · have hne : e.1 ≠ path := by
      rintro rfl
      exact hnew (hs ▸ List.mem_map_of_mem he)
    rw [ht]
    exact (SortedMap.mem_entries_insert hne).2 (hs ▸ he)
  · rw [ht, SortedMap.mem_keys_insert] at hkey
    rwa [hs]

/-- A set that was made with slashes gains a new file of the map, with slashes in its path. -/
theorem gains_ofCanonical_insert (hs : s.files = (ofCanonical files).files)
    (ht : t.files = (ofCanonical (files.insert path text)).files)
    (hnew : ∀ key ∈ files.keys, Path.canonical key ≠ Path.canonical path)
    (hfirst : s.KeepsFirst t) : s.Gains t (Path.canonical path) := by
  refine ⟨fun ⟨key, value⟩ he => ?_, fun key hkey => ?_, hfirst⟩
  · rw [hs] at he
    obtain ⟨own, hown, hkey⟩ := List.mem_map.1 (mem_keys_ofCanonical_iff.1 (List.mem_map_of_mem he))
    have hne : key ≠ Path.canonical path := fun heq => hnew own hown (hkey.trans heq)
    rw [ht]
    exact mem_entries_ofCanonical_insert (fun hmem => hnew path hmem rfl) hne he
  · rw [ht, mem_keys_ofCanonical_iff] at hkey
    obtain ⟨own, hown, rfl⟩ := List.mem_map.1 hkey
    rw [hs, mem_keys_ofCanonical_iff]
    rcases SortedMap.mem_keys_insert.1 hown with rfl | hown
    · exact .inl rfl
    · exact .inr (List.mem_map_of_mem hown)

/-- A new path is passed over where another spelling is looked up. -/
theorem lookup_spellings_filter {spelling : String} (hne : spelling ≠ lowerCase path)
    (l : List String) : (l.map fun key => (lowerCase key, key)).lookup spelling =
      ((l.filter (· != path)).map fun key => (lowerCase key, key)).lookup spelling := by
  induction l with
  | nil => rfl
  | cons key l ih =>
    by_cases hkey : key = path
    · rw [List.filter_cons_of_neg (by simp [hkey]), List.map_cons,
        SortedMap.lookup_cons_eq_ite, if_neg (hkey ▸ hne), ih]
    · rw [List.filter_cons_of_pos (by simp [hkey]), List.map_cons, List.map_cons,
        SortedMap.lookup_cons_eq_ite, SortedMap.lookup_cons_eq_ite, ih]

/-- Spellings that are listed in the same order but for a new path find the same. -/
theorem keepsFirst_of_order {l : List String}
    (hs : s.spellings = (l.filter (· != path)).map fun key => (lowerCase key, key))
    (ht : t.spellings = l.map fun key => (lowerCase key, key))
    (hnew : ∀ key ∈ s.files.keys, lowerCase key ≠ lowerCase path) : s.KeepsFirst t := by
  intro a ha _ _ _ _
  rw [hs, ht, lookup_spellings_filter (hnew a ha)]

/-- The paths of a map with a new one are those of the map but for the new one. -/
theorem filter_keys_eq {m m' : SortedMap String}
    (hkeys : ∀ key, key ∈ m'.keys ↔ key = path ∨ key ∈ m.keys) (hnew : path ∉ m.keys) :
    m'.keys.filter (· != path) = m.keys := by
  refine List.Perm.eq_of_pairwise (fun a b _ _ hab hba => ?_)
    ((List.pairwise_map.2 m'.increasing).sublist List.filter_sublist)
    (List.pairwise_map.2 m.increasing) ?_
  · exact absurd (String.lt_trans hab hba) (String.lt_irrefl a)
  · refine (List.perm_ext_iff_of_nodup (m'.nodup_keys.filter _) m.nodup_keys).2 fun key => ?_
    rw [List.mem_filter, bne_iff_ne, hkeys]
    constructor
    · rintro ⟨hmem, hne⟩
      exact hmem.resolve_left hne
    · intro hmem
      refine ⟨.inr hmem, ?_⟩
      rintro rfl
      exact hnew hmem

/-- The paths of a map with a new file, with slashes in all of them. -/
theorem mem_keys_ofCanonical_insert :
    key ∈ (ofCanonical (files.insert path text)).files.keys ↔
      key = Path.canonical path ∨ key ∈ (ofCanonical files).files.keys := by
  simp only [mem_keys_ofCanonical_iff, List.mem_map, SortedMap.mem_keys_insert, exists_eq_or_imp,
    eq_comm (a := key)]

end FileSet

/-! ## Hosts with a new file -/

namespace VirtualFiles

/-- One host has the files of two maps, and another one has those of the maps with a new file in one
of them. Of two paths that differ in case alone, the second finds the one that the first finds. -/
structure Adds (v w : VirtualFiles) (input external : SortedMap String) (path text : String) :
    Prop where
  before : v.Presents input external
  after : w.Presents (input.insert path text) external ∨
    w.Presents input (external.insert path text)
  new : ∀ key ∈ input.keys ++ external.keys, Path.fold key ≠ Path.fold path
  first : v.input.KeepsFirst w.input ∧ v.external.KeepsFirst w.external

variable {v w : VirtualFiles} {input external : SortedMap String} {path other text : String}

namespace Adds

/-- Each of the sets gains the new file at most. -/
theorem gains (h : v.Adds w input external path text) :
    v.input.Gains w.input (Path.canonical path) ∧ v.external.Gains w.external path := by
  have hnew : ∀ key ∈ input.keys, Path.canonical key ≠ Path.canonical path :=
    fun key hkey heq => h.new key (List.mem_append_left _ hkey) (congrArg lowerCase heq)
  have hnew' : path ∉ external.keys :=
    fun hmem => h.new path (List.mem_append_right _ hmem) rfl
  obtain ⟨hfirst, hfirst'⟩ := h.first
  rcases h.after with hafter | hafter
  · exact ⟨FileSet.gains_ofCanonical_insert h.before.input hafter.input hnew hfirst,
      FileSet.gains_of_files_eq (hafter.external.trans h.before.external.symm) hfirst' path⟩
  · exact ⟨FileSet.gains_of_files_eq (hafter.input.trans h.before.input.symm) hfirst _,
      FileSet.gains_insert h.before.external hafter.external hnew' hfirst'⟩

/-- What exists is no spelling of the new path. -/
theorem fold_ne (h : v.Adds w input external path text) (hexists : v.host.exists? other = true) :
    Path.fold other ≠ Path.fold path := by
  rcases (h.before.exists?_iff other).1 hexists with ⟨key, hkey, hfold⟩ | ⟨key, hkey, -, hfold⟩
  · rw [← hfold]
    exact h.new key (List.mem_append_left _ hkey)
  · rw [← hfold]
    exact h.new key (List.mem_append_right _ hkey)

/-- **Nothing else is changed.** Spellings of another path exist, are read and are known as they
were. -/
theorem alike (h : v.Adds w input external path text) (hne : Path.fold other ≠ Path.fold path) :
    w.host.exists? other = v.host.exists? other ∧ w.host.read? other = v.host.read? other ∧
      w.host.canonicalName other = v.host.canonicalName other := by
  obtain ⟨hinput, hexternal⟩ := h.gains
  have hne' : lowerCase (Path.canonical other) ≠ lowerCase path := by
    intro heq
    have hlow : lowerCase path = Path.fold other := heq.symm
    exact hne (Path.lowerCase_eq_fold_iff.1 hlow).2.symm
  have hkey : w.key? (Path.canonical other) = v.key? (Path.canonical other) := by
    rw [key?, key?, hinput.key?_eq hne, hexternal.key?_eq hne']
  refine ⟨congrArg Option.isSome hkey, ?_, congrArg (Option.getD · (Path.canonical other)) hkey⟩
  show (w.input.text? _).or (w.external.text? _) = (v.input.text? _).or (v.external.text? _)
  rw [hinput.text?_eq hne, hexternal.text?_eq hne']

/-- **A host with a new file** finds and reads what it did without. -/
theorem host_extends (h : v.Adds w input external path text) : v.host.Extends w.host where
  exists? other hexists := (h.alike (h.fold_ne hexists)).1 ▸ hexists
  read? other text hread := by
    have hexists : v.host.exists? other = true := by
      rw [← isSome_read?, hread, Option.isSome_some]
    rw [(h.alike (h.fold_ne hexists)).2.1, hread]

end Adds

/-- The order of the paths of an input in a call that has a new file among them. -/
def orderWithout (j : Indexing) (input : SortedMap String) (path text : String) : Indexing :=
  .listed ((j.order (FileSet.ofCanonical (input.insert path text)).files.keys).filter
    (· != Path.canonical path))

/-- **Hosts have what they had before.** A host with a new file finds the same as one without, if
this indexes the other paths in the same order. -/
theorem ofMaps_adds (environment : Environment)
    (hnew : ∀ key ∈ input.keys ++ external.keys, Path.fold key ≠ Path.fold path) (text : String)
    (j : Indexing) :
    ((ofMaps input external environment).indexedBy (orderWithout j input path text)).Adds
        ((ofMaps (input.insert path text) external environment).indexedBy j)
        input external path text ∧
      ((ofMaps input external environment).indexedBy j).Adds
        ((ofMaps input (external.insert path text) environment).indexedBy j)
        input external path text := by
  have hnewInput : ∀ key ∈ (FileSet.ofCanonical input).files.keys,
      lowerCase key ≠ lowerCase (Path.canonical path) := by
    intro key hkey
    obtain ⟨own, hown, rfl⟩ := List.mem_map.1 (FileSet.mem_keys_ofCanonical_iff.1 hkey)
    exact hnew own (List.mem_append_left _ hown)
  have hnewExternal : ∀ key ∈ external.keys, lowerCase key ≠ lowerCase path := by
    intro key hkey hlow
    refine hnew key (List.mem_append_right _ hkey) ?_
    rw [Path.fold, Path.fold, Path.lowerCase_canonical, Path.lowerCase_canonical, hlow]
  refine ⟨⟨(ofMaps_presents _ _ _).indexedBy _, .inl ((ofMaps_presents _ _ _).indexedBy _), hnew,
    ?_, fun _ _ _ _ _ _ => rfl⟩, ⟨(ofMaps_presents _ _ _).indexedBy _,
    .inr ((ofMaps_presents _ _ _).indexedBy _), hnew, fun _ _ _ _ _ _ => rfl, ?_⟩⟩
  · -- the order of the smaller set is one of its paths
    have hperm : ((j.order (FileSet.ofCanonical (input.insert path text)).files.keys).filter
        (· != Path.canonical path)).Perm (FileSet.ofCanonical input).files.keys := by
      rw [← FileSet.filter_keys_eq (fun _ => FileSet.mem_keys_ofCanonical_insert)
        fun hmem => hnewInput _ hmem rfl]
      exact (j.perm _).filter _
    refine FileSet.keepsFirst_of_order ?_ rfl hnewInput
    show ((Indexing.listed _).order (FileSet.ofCanonical input).files.keys).map _ = _
    rw [Indexing.order_listed hperm]
    rfl
  · refine FileSet.keepsFirst_of_order ?_ rfl hnewExternal
    show external.keys.map _ = _
    rw [FileSet.filter_keys_eq (fun _ => SortedMap.mem_keys_insert)
      fun hmem => hnewExternal path hmem rfl]

end VirtualFiles

/-! ## New paths -/

/-- A text of so many lower-case letters. -/
def letters (n : Nat) : String := String.ofList (List.replicate n 'x')

/-- Lower-case letters have no other spelling in lower case. -/
theorem fold_letters (n : Nat) : Path.fold (letters n) = letters n := by
  have hslash : Path.canonical (letters n) = letters n := by
    rw [Path.canonical_eq_self_iff, letters, String.toList_ofList, List.mem_replicate]
    exact fun h => absurd h.2 (by decide)
  have hlower (before : List Char) (n : Nat) :
      lowerChars before (List.replicate n 'x') = List.replicate n 'x' := by
    induction n generalizing before with
    | zero => rfl
    | succ n ih =>
      rw [List.replicate_succ, lowerChars, ih, if_neg (by decide), if_neg (by decide)]
      rfl
  rw [Path.fold_of_canonical hslash, lowerCase, letters, String.toList_ofList, hlower]

/-- There is always one more path, which describes no package. -/
theorem exists_new_path (paths : List String) :
    ∃ path, (∀ other ∈ paths, Path.fold other ≠ Path.fold path) ∧
      ¬ ∃ place, Path.fold (place ++ "/package.json") = Path.fold path := by
  refine ⟨letters ((paths.map fun other => (Path.fold other).length).sum + 1), ?_, ?_⟩
  · intro other hother hsame
    have hle := List.le_sum_of_mem (List.mem_map_of_mem hother :
      (Path.fold other).length ∈ paths.map fun other => (Path.fold other).length)
    have hlength := congrArg String.length hsame
    rw [fold_letters, letters, String.length_ofList, List.length_replicate] at hlength
    omega
  · rintro ⟨place, hsame⟩
    have hmem : '/' ∈ (Path.fold (place ++ "/package.json")).toList := by
      refine mem_lowerCase_slash ?_
      rw [Path.canonical, String.toList_ofList]
      refine List.mem_map.2 ⟨'/', ?_, rfl⟩
      rw [String.toList_append]
      exact List.mem_append_right _ (by decide)
    rw [hsame, fold_letters, letters, String.toList_ofList] at hmem
    exact absurd (List.eq_of_mem_replicate hmem) (by decide)

end ScriptHost
