import ScriptHost.Host.Files
/-!
# Canonical names

However a path is spelled, it is known under one name, and that name is known
under itself. This needs that neither the change of separators nor the change
of case makes a path that only the other could find.

- `mem_lowerCase_separator`: case is changed around separators.
- `FileSet.key?_eq_none_of_lowerCase_eq`: a set misses all spellings of a path or none.
- `Host.Settled`: names are known under themselves, and files under their paths.
- `VirtualFiles.host_settled`: the host of two sets of files is settled.
-/

namespace ScriptHost

/-! ## Separators and case -/

/-- No capital letter has a separator for its lower-case form. -/
theorem lowerCaseRuns_above :
    ∀ r ∈ lowerCaseRuns, ('\\'.toNat : Int) < r.first + r.delta := by
  decide +kernel

/-- In ASCII, only a separator has a separator for its lower-case form. -/
theorem toLower_eq_separator_iff {c : Char} (h : c.toNat < 0x80) :
    c.toLower = '\\' ↔ c = '\\' := by
  have key : ∀ n < 0x80, (Char.ofNat n).toLower = '\\' ↔ Char.ofNat n = '\\' := by decide
  have hc := key c.toNat h
  rwa [Char.ofNat_toNat] at hc

/-- Only one number is that of a separator. -/
theorem eq_of_ofNat_eq_separator {n : Nat} (h : Char.ofNat n = '\\') : n = '\\'.toNat := by
  by_cases hvalid : n.isValidChar
  · rw [Char.ofNat, dif_pos hvalid] at h
    exact congrArg Char.toNat h
  · rw [Char.ofNat, dif_neg hvalid] at h
    exact absurd h (by decide)

/-- Only a separator has a separator for its lower-case form. -/
theorem lowerChar_eq_separator_iff {c : Char} : lowerChar c = '\\' ↔ c = '\\' := by
  rw [lowerChar]
  split
  · next hc => exact toLower_eq_separator_iff hc
  · next hc =>
    have hne : c ≠ '\\' := by
      rintro rfl
      exact hc (by decide)
    refine iff_of_false (fun h => ?_) hne
    split at h
    · next r hr =>
      have hrun := lowerCaseRuns_above r (List.mem_of_find?_eq_some hr)
      have hfirst : r.first ≤ c.toNat := by
        have := List.find?_some hr
        simp only [Bool.and_eq_true, decide_eq_true_eq] at this
        exact this.1.1
      have hcode := eq_of_ofNat_eq_separator h
      omega
    · exact hne h

/-- Characters are lowered around separators. -/
theorem mem_lowerChars_separator {before cs : List Char} :
    '\\' ∈ lowerChars before cs ↔ '\\' ∈ cs := by
  induction cs generalizing before with
  | nil => simp [lowerChars]
  | cons c cs ih =>
    rw [lowerChars, List.mem_append, ih, List.mem_cons]
    refine or_congr_left ?_
    by_cases hsigma : c.toNat = 0x3a3
    · have hne : '\\' ≠ c := by
        rintro rfl
        exact absurd hsigma (by decide)
      refine iff_of_false ?_ hne
      simp only [hsigma, beq_self_eq_true, if_true]
      split <;> decide
    · by_cases hdot : c.toNat = 0x130
      · have hne : '\\' ≠ c := by
          rintro rfl
          exact absurd hdot (by decide)
        refine iff_of_false ?_ hne
        rw [hdot, if_neg (by decide), if_pos (by decide)]
        decide
      · simp only [beq_iff_eq, hsigma, hdot, if_false, List.mem_singleton]
        rw [eq_comm, lowerChar_eq_separator_iff, eq_comm]

/-- Case is changed around separators. -/
theorem mem_lowerCase_separator {s : String} :
    '\\' ∈ (lowerCase s).toList ↔ '\\' ∈ s.toList := by
  rw [lowerCase, String.toList_ofList, mem_lowerChars_separator]

/-- Slashes stay in lower case. -/
theorem mem_lowerCase_slash {s : String} (h : '/' ∈ s.toList) : '/' ∈ (lowerCase s).toList := by
  have hchars (before cs : List Char) (hmem : '/' ∈ cs) : '/' ∈ lowerChars before cs := by
    induction cs generalizing before with
    | nil => cases hmem
    | cons c cs ih =>
      rw [lowerChars, List.mem_append]
      rcases List.mem_cons.1 hmem with rfl | hmem
      · rw [if_neg (by decide), if_neg (by decide)]
        exact .inl (by decide)
      · exact .inr (ih (c :: before) hmem)
  rw [lowerCase, String.toList_ofList]
  exact hchars [] s.toList h

/-- The paths with slashes are those without a backslash. -/
theorem Path.canonical_eq_self_iff {path : String} :
    Path.canonical path = path ↔ '\\' ∉ path.toList := by
  constructor
  · intro h hmem
    rw [← h, Path.canonical, String.toList_ofList] at hmem
    obtain ⟨c, -, hc⟩ := List.mem_map.1 hmem
    by_cases hsep : c = '\\'
    · simp [hsep] at hc
    · simp [hsep] at hc
  · intro h
    rw [Path.canonical, ← String.toList_inj, String.toList_ofList]
    refine (List.map_congr_left fun c hc => ?_).trans (List.map_id _)
    have hne : c ≠ '\\' := fun heq => h (heq ▸ hc)
    simp [hne]

/-- A path that is spelled like one with slashes but for case has slashes. -/
theorem Path.canonical_of_lowerCase_eq {a b : String} (h : lowerCase a = lowerCase b)
    (ha : Path.canonical a = a) : Path.canonical b = b := by
  rw [Path.canonical_eq_self_iff, ← mem_lowerCase_separator] at ha ⊢
  rwa [← h]

/-! ## Spellings of a set -/

namespace FileSet

/-- The spellings of a set are those of its paths. -/
theorem mem_spellings {s : FileSet} {e : String × String} :
    e ∈ s.spellings ↔ ∃ path ∈ s.files.keys, (lowerCase path, path) = e := by
  rw [s.indexed.mem_iff, List.mem_map]

/-- A set holds a path under a path of its own that differs in case alone. -/
theorem key?_spec {s : FileSet} {path key : String} (h : s.key? path = some key) :
    key ∈ s.files.keys ∧ lowerCase key = lowerCase path := by
  rw [key?] at h
  split at h
  · next hmem =>
    cases h
    exact ⟨SortedMap.contains_iff.1 hmem, rfl⟩
  · obtain ⟨_, _, hsplit, -⟩ := List.lookup_eq_some_iff.1 h
    obtain ⟨k, hk, heq⟩ := mem_spellings.1 (hsplit ▸ List.mem_append_right _ List.mem_cons_self)
    obtain ⟨hlow, rfl⟩ := Prod.mk.inj heq
    exact ⟨hk, hlow⟩

/-- A set holds its own paths as they are. -/
theorem key?_of_mem {s : FileSet} {path : String} (h : path ∈ s.files.keys) :
    s.key? path = some path := by
  rw [key?, if_pos (SortedMap.contains_iff.2 h)]

/-- A set holds a path exactly if it has one that differs in case at most. -/
theorem key?_isSome_iff {s : FileSet} {path : String} :
    (s.key? path).isSome ↔ ∃ key ∈ s.files.keys, lowerCase key = lowerCase path := by
  constructor
  · intro h
    obtain ⟨key, hkey⟩ := Option.isSome_iff_exists.1 h
    exact ⟨key, key?_spec hkey⟩
  · rintro ⟨key, hkey, hlow⟩
    rw [key?]
    split
    · rfl
    · rw [Option.isSome_iff_ne_none, Ne, List.lookup_eq_none_iff]
      intro hnone
      exact absurd (hnone _ (mem_spellings.2 ⟨key, hkey, rfl⟩)) (by simp [hlow])

/-- A set misses all spellings of a path or none. -/
theorem key?_eq_none_of_lowerCase_eq {s : FileSet} {a b : String} (h : lowerCase a = lowerCase b)
    (ha : s.key? a = none) : s.key? b = none := by
  rw [← Option.not_isSome_iff_eq_none, key?_isSome_iff] at ha ⊢
  rwa [← h]

end FileSet

/-! ## Names of a host -/

/-- Names are known under themselves, and a path that exists is known under the path of a file. -/
structure Host.Settled (h : Host) : Prop where
  canonicalName_canonicalName : ∀ path,
    h.canonicalName (h.canonicalName path) = h.canonicalName path
  mem_names : ∀ path, h.exists? path = true → h.canonicalName path ∈ h.names

namespace VirtualFiles

/-- The path under which a file is held is the path of a file. -/
theorem mem_names_of_key? {v : VirtualFiles} {path key : String} (h : v.key? path = some key) :
    key ∈ v.host.names := by
  rw [key?, Option.or_eq_some_iff] at h
  rcases h with h | ⟨-, h⟩
  · exact List.mem_append_left _ (FileSet.key?_spec h).1
  · exact List.mem_append_right _ (FileSet.key?_spec h).1

/-- The path under which a path with slashes is held has slashes and is held under itself. -/
theorem key?_key? {v : VirtualFiles} {path key : String} (hpath : Path.canonical path = path)
    (h : v.key? path = some key) : Path.canonical key = key ∧ v.key? key = some key := by
  rw [key?, Option.or_eq_some_iff] at h
  rcases h with h | ⟨hnone, h⟩
  · obtain ⟨hmem, -⟩ := FileSet.key?_spec h
    refine ⟨v.canonical_of_mem key hmem, ?_⟩
    rw [key?, FileSet.key?_of_mem hmem, Option.some_or]
  · obtain ⟨hmem, hlow⟩ := FileSet.key?_spec h
    refine ⟨Path.canonical_of_lowerCase_eq hlow.symm hpath, ?_⟩
    rw [key?, FileSet.key?_eq_none_of_lowerCase_eq hlow.symm hnone, Option.none_or,
      FileSet.key?_of_mem hmem]

/-- **Names are settled.** The host of two sets of files knows a name under itself. -/
theorem host_settled (v : VirtualFiles) : v.host.Settled where
  canonicalName_canonicalName path := by
    show (v.key? (Path.canonical ((v.key? (Path.canonical path)).getD (Path.canonical path)))).getD
        (Path.canonical ((v.key? (Path.canonical path)).getD (Path.canonical path)))
      = (v.key? (Path.canonical path)).getD (Path.canonical path)
    cases h : v.key? (Path.canonical path) with
    | none => simp [Path.canonical_canonical, h]
    | some key =>
      obtain ⟨hslash, hkey⟩ := key?_key? (Path.canonical_canonical path) h
      simp [hslash, hkey]
  mem_names path h := by
    obtain ⟨key, hkey⟩ := Option.isSome_iff_exists.1 h
    show (v.key? (Path.canonical path)).getD (Path.canonical path) ∈ v.host.names
    rw [hkey]
    exact mem_names_of_key? hkey

end VirtualFiles

end ScriptHost
