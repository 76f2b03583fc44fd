/-!
# Maps in the order of their keys

A map from texts is a list of entries whose keys increase, so that two maps
with the same entries are equal and a walk over a map follows its keys.

- `SortedMap.insert`, `SortedMap.get?`: the operations of a map.
- `SortedMap.ofList`: a map from entries in any order; later entries win.
- `SortedMap.get?_eq_some_iff`, `SortedMap.get?_ofList`: what a map holds.
-/

namespace ScriptHost

/-- Entries whose keys increase. -/
structure SortedMap (α : Type) where
  entries : List (String × α) := []
  increasing : entries.Pairwise (fun a b => a.1 < b.1) := by simp

namespace SortedMap

variable {α β : Type}

/-- Puts an entry into a list of entries, in place of one with the same key. -/
def insertEntry (key : String) (value : α) : List (String × α) → List (String × α)
  | [] => [(key, value)]
  | (k, v) :: rest =>
    if key < k then (key, value) :: (k, v) :: rest
    else if k < key then (k, v) :: insertEntry key value rest
    else (key, value) :: rest

/-- A key of the list after an insertion is the new key or one of the old. -/
theorem mem_insertEntry {key : String} {value : α} {l : List (String × α)} {e : String × α}
    (h : e ∈ insertEntry key value l) : e = (key, value) ∨ e ∈ l := by
  induction l with
  | nil => simpa [insertEntry] using h
  | cons x rest ih =>
    obtain ⟨k, v⟩ := x
    simp only [insertEntry] at h
    split at h
    · simpa using h
    · split at h
      · rcases List.mem_cons.1 h with h | h
        · exact Or.inr (h ▸ List.mem_cons_self)
        · rcases ih h with h | h
          · exact Or.inl h
          · exact Or.inr (List.mem_cons_of_mem _ h)
      · rcases List.mem_cons.1 h with h | h
        · exact Or.inl h
        · exact Or.inr (List.mem_cons_of_mem _ h)

/-- Insertion keeps the keys increasing. -/
theorem pairwise_insertEntry (key : String) (value : α) {l : List (String × α)}
    (h : l.Pairwise (fun a b => a.1 < b.1)) :
    (insertEntry key value l).Pairwise (fun a b => a.1 < b.1) := by
  induction l with
  | nil => simp [insertEntry]
  | cons x rest ih =>
    obtain ⟨k, v⟩ := x
    have hk : ∀ e ∈ rest, k < e.1 := (List.pairwise_cons.1 h).1
    have hr := (List.pairwise_cons.1 h).2
    simp only [insertEntry]
    split
    · next hlt =>
      refine List.pairwise_cons.2 ⟨?_, h⟩
      intro e he
      rcases List.mem_cons.1 he with he | he
      · exact he ▸ hlt
      · exact String.lt_trans hlt (hk e he)
    · next hnlt =>
      split
      · next hlt =>
        refine List.pairwise_cons.2 ⟨?_, ih hr⟩
        intro e he
        rcases mem_insertEntry he with he | he
        · exact he ▸ hlt
        · exact hk e he
      · next hnlt' =>
        have heq : key = k := String.le_antisymm hnlt' hnlt
        refine List.pairwise_cons.2 ⟨?_, hr⟩
        intro e he
        exact heq ▸ hk e he

/-- Puts an entry into a map, in place of one with the same key. -/
def insert (m : SortedMap α) (key : String) (value : α) : SortedMap α :=
  ⟨insertEntry key value m.entries, pairwise_insertEntry key value m.increasing⟩

/-- The value of a key. -/
def get? (m : SortedMap α) (key : String) : Option α := m.entries.lookup key

/-- Whether a key has a value. -/
def contains (m : SortedMap α) (key : String) : Bool := (m.get? key).isSome

/-- The keys in order. -/
def keys (m : SortedMap α) : List String := m.entries.map (·.1)

/-- The number of entries. -/
def size (m : SortedMap α) : Nat := m.entries.length

/-- The map without entries. -/
def empty : SortedMap α := {}

instance : EmptyCollection (SortedMap α) := ⟨empty⟩
instance : Inhabited (SortedMap α) := ⟨empty⟩

instance [BEq α] : BEq (SortedMap α) := ⟨fun a b => a.entries == b.entries⟩

/-- The map of the given entries, where a later entry wins over an earlier one. -/
def ofList (entries : List (String × α)) : SortedMap α :=
  entries.foldl (fun (m : SortedMap α) e => m.insert e.1 e.2) empty

/-! ## What a map holds -/

/-- No key has two entries. -/
theorem nodup_keys (m : SortedMap α) : m.keys.Nodup := by
  refine List.pairwise_map.2 (m.increasing.imp fun {a b} h heq => ?_)
  exact String.lt_irrefl a.1 (heq ▸ h)

/-- What is found under keys that differ is what is there. -/
theorem lookup_eq_some_iff_mem {l : List (String × α)} (h : (l.map (·.1)).Nodup) {key : String}
    {value : α} : l.lookup key = some value ↔ (key, value) ∈ l := by
  induction l with
  | nil => simp
  | cons e rest ih =>
    obtain ⟨k, v⟩ := e
    obtain ⟨hnot, hrest⟩ := List.nodup_cons.1 h
    rw [List.lookup_cons, List.mem_cons, Prod.mk.injEq]
    by_cases hk : key = k
    · subst hk
      have hnot : (key, value) ∉ rest := fun hmem => hnot (List.mem_map.2 ⟨_, hmem, rfl⟩)
      simp [hnot, eq_comm]
    · simp [beq_false_of_ne hk, hk, ih hrest]

/-- The value of a key is that of its entry. -/
theorem get?_eq_some_iff {m : SortedMap α} {key : String} {value : α} :
    m.get? key = some value ↔ (key, value) ∈ m.entries :=
  lookup_eq_some_iff_mem m.nodup_keys

/-- A key has one value. -/
theorem eq_of_mem_entries {m : SortedMap α} {key : String} {a b : α}
    (ha : (key, a) ∈ m.entries) (hb : (key, b) ∈ m.entries) : a = b :=
  Option.some.inj ((get?_eq_some_iff.2 ha).symm.trans (get?_eq_some_iff.2 hb))

/-- The keys with a value are the keys of the entries. -/
theorem contains_iff {m : SortedMap α} {key : String} : m.contains key = true ↔ key ∈ m.keys := by
  rw [contains, Option.isSome_iff_exists]
  constructor
  · rintro ⟨value, h⟩
    exact List.mem_map.2 ⟨(key, value), get?_eq_some_iff.1 h, rfl⟩
  · intro h
    obtain ⟨⟨k, value⟩, hmem, rfl⟩ := List.mem_map.1 h
    exact ⟨value, get?_eq_some_iff.2 hmem⟩

/-- The entries of a map that is made of entries are among these. -/
theorem mem_entries_ofList {entries : List (String × α)} {e : String × α}
    (h : e ∈ (ofList entries).entries) : e ∈ entries := by
  have key : ∀ (l : List (String × α)) (m : SortedMap α),
      e ∈ (l.foldl (fun (m : SortedMap α) e => m.insert e.1 e.2) m).entries →
        e ∈ m.entries ∨ e ∈ l := by
    intro l
    induction l with
    | nil => exact fun m hm => .inl hm
    | cons x rest ih =>
      intro m hm
      rcases ih _ hm with hm | hm
      · rcases mem_insertEntry hm with heq | hm
        · exact .inr (heq ▸ List.mem_cons_self)
        · exact .inl hm
      · exact .inr (List.mem_cons_of_mem _ hm)
  rcases key entries empty h with h | h
  · cases h
  · exact h

/-- The keys of a map that is made of entries are among theirs. -/
theorem mem_keys_ofList {entries : List (String × α)} {key : String}
    (h : key ∈ (ofList entries).keys) : key ∈ entries.map (·.1) := by
  obtain ⟨e, hmem, rfl⟩ := List.mem_map.1 h
  exact List.mem_map_of_mem (mem_entries_ofList hmem)

/-- What is found in a list with one more entry. -/
theorem lookup_cons_eq_ite (e : String × α) (l : List (String × α)) (key : String) :
    List.lookup key (e :: l) = if key = e.1 then some e.2 else l.lookup key := by
  obtain ⟨k, v⟩ := e
  rw [List.lookup_cons]
  by_cases h : key = k
  · simp [h]
  · simp [beq_false_of_ne h, h]

/-- What is found in a list of entries after an insertion. -/
theorem lookup_insertEntry (key : String) (value : α) (l : List (String × α)) (key' : String) :
    (insertEntry key value l).lookup key' = if key' = key then some value else l.lookup key' := by
  induction l with
  | nil => simp only [insertEntry, lookup_cons_eq_ite]
  | cons e rest ih =>
    obtain ⟨k, v⟩ := e
    simp only [insertEntry]
    split
    · simp only [lookup_cons_eq_ite]
    · next hnlt =>
      split
      · next hlt =>
        have hne : k ≠ key := fun heq => String.lt_irrefl k (heq ▸ hlt)
        simp only [lookup_cons_eq_ite, ih]
        by_cases hk : key' = k <;> simp [hk, hne]
      · next hnlt' =>
        have heq : key = k := String.le_antisymm hnlt' hnlt
        simp only [lookup_cons_eq_ite, heq]
        by_cases hk : key' = k <;> simp [hk]

/-- The value of a key in a map that is made of entries is that of its last entry. -/
theorem get?_ofList (entries : List (String × α)) (key : String) :
    (ofList entries).get? key = entries.reverse.lookup key := by
  have hfold : ∀ (l : List (String × α)) (m : SortedMap α),
      (l.foldl (fun (m : SortedMap α) e => m.insert e.1 e.2) m).get? key =
        (l.reverse.lookup key).or (m.get? key) := by
    intro l
    induction l with
    | nil => exact fun m => rfl
    | cons e rest ih =>
      intro m
      have hinsert : (m.insert e.1 e.2).get? key = if key = e.1 then some e.2 else m.get? key :=
        lookup_insertEntry e.1 e.2 m.entries key
      rw [List.foldl_cons, ih, hinsert, List.reverse_cons, List.lookup_append, Option.or_assoc,
        lookup_cons_eq_ite]
      by_cases hkey : key = e.1 <;> simp [hkey]
  rw [ofList, hfold, show (empty : SortedMap α).get? key = none from rfl, Option.or_none]

/-- The last entry with a key is the one that has no other entry with this key behind it. -/
theorem get?_ofList_eq_some_iff {entries : List (String × α)} {key : String} {value : α} :
    (ofList entries).get? key = some value ↔
      ∃ before after, entries = before ++ (key, value) :: after ∧ key ∉ after.map (·.1) := by
  rw [get?_ofList, List.lookup_eq_some_iff]
  constructor
  · rintro ⟨after, before, hsplit, hafter⟩
    refine ⟨before.reverse, after.reverse, ?_, ?_⟩
    · have hentries := congrArg List.reverse hsplit
      rw [List.reverse_reverse] at hentries
      rw [hentries]
      simp
    · rw [List.map_reverse, List.mem_reverse]
      intro hmem
      obtain ⟨e, he, heq⟩ := List.mem_map.1 hmem
      simpa [heq] using hafter e he
  · rintro ⟨before, after, rfl, hafter⟩
    refine ⟨after.reverse, before.reverse, by simp, fun e he => ?_⟩
    rw [bne_iff_ne]
    rintro rfl
    exact hafter (List.mem_map_of_mem (List.mem_reverse.1 he))

/-- The keys of a map that is made of entries are theirs. -/
theorem mem_keys_ofList_iff {entries : List (String × α)} {key : String} :
    key ∈ (ofList entries).keys ↔ key ∈ entries.map (·.1) := by
  refine ⟨mem_keys_ofList, fun h => contains_iff.1 ?_⟩
  obtain ⟨e, hmem, rfl⟩ := List.mem_map.1 h
  rw [contains, get?_ofList, Option.isSome_iff_ne_none, ne_eq, List.lookup_eq_none_iff]
  exact fun hnone => absurd (hnone e (List.mem_reverse.2 hmem)) (by simp)

/-- An entry whose key is greater than all others comes last. -/
theorem insertEntry_of_lt {key : String} {value : α} {l : List (String × α)}
    (h : ∀ e ∈ l, e.1 < key) : insertEntry key value l = l ++ [(key, value)] := by
  induction l with
  | nil => rfl
  | cons e rest ih =>
    obtain ⟨hlt, hrest⟩ := List.forall_mem_cons.1 h
    rw [insertEntry, if_neg (String.lt_asymm hlt), if_pos hlt, ih hrest, List.cons_append]

/-- Entries whose keys increase are the entries of the map that is made of them. -/
theorem entries_ofList {entries : List (String × α)}
    (h : entries.Pairwise (fun a b => a.1 < b.1)) : (ofList entries).entries = entries := by
  have key : ∀ (l : List (String × α)) (m : SortedMap α),
      (m.entries ++ l).Pairwise (fun a b => a.1 < b.1) →
        (l.foldl (fun (m : SortedMap α) e => m.insert e.1 e.2) m).entries = m.entries ++ l := by
    intro l
    induction l with
    | nil => exact fun m _ => (List.append_nil _).symm
    | cons e rest ih =>
      intro m hm
      have hlast : (m.insert e.1 e.2).entries = m.entries ++ [e] :=
        insertEntry_of_lt fun x hx => (List.pairwise_append.1 hm).2.2 x hx e List.mem_cons_self
      rw [List.foldl_cons, ih _ (by rw [hlast]; simpa using hm), hlast]
      simp
  exact key entries empty h

/-- The map that is made of the entries of a map is this map. -/
theorem ofList_entries (m : SortedMap α) : ofList m.entries = m := by
  have h := entries_ofList m.increasing
  generalize ofList m.entries = other at h
  cases m
  cases other
  cases h
  rfl

/-- The map with every value changed. -/
def mapValues (f : α → β) (m : SortedMap α) : SortedMap β :=
  ⟨m.entries.map fun e => (e.1, f e.2), by
    have h := m.increasing
    exact List.pairwise_map.2 (h.imp fun h => h)⟩

end SortedMap

end ScriptHost
