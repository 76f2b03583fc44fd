import ScriptHost.Proofs.Program.Slices
import ScriptHost.Proofs.Text.ByteOrder
/-!
# Which alias a specifier has

A table of aliases may have many patterns that fit a specifier, and one of them
at most speaks for it: the one that is the specifier itself, or else the one
with the longest front, and of equally long ones the last. The table is walked
once, and what the walk keeps is the best of the patterns that it has passed.

- `Resolver.Fits`: a pattern with a star fits a specifier.
- `Resolver.Speaks`: the entry of a table that speaks for a specifier.
- `Resolver.Best`: what a walk over some entries has kept.
- `Resolver.best_foldl`: a walk keeps the best of the entries that it passes.
- `Resolver.loadAlias_uses_one`: the file of an alias is looked for at the places of one entry.
-/

namespace ScriptHost

namespace Resolver

/-! ## The first star -/

/-- A text is split at one place only: at the first of the characters. -/
theorem splitFirst_eq_some_iff {c : Char} {text front back : String} :
    splitFirst c text = some (front, back) ↔
      text.toList = front.toList ++ c :: back.toList ∧ c ∉ front.toList := by
  rw [splitFirst]
  constructor
  · intro h
    have hsplit := List.takeWhile_append_dropWhile (p := (· != c)) (l := text.toList)
    split at h
    · cases h
    · next d rest hdrop =>
      obtain ⟨rfl, rfl⟩ := Prod.mk.inj (Option.some.inj h)
      have hd : d = c := by
        have hhead := List.head?_dropWhile_not (· != c) text.toList
        rw [hdrop] at hhead
        simpa using hhead
      rw [hdrop, hd] at hsplit
      simp only [String.toList_ofList]
      refine ⟨hsplit.symm, fun hmem => ?_⟩
      simpa using List.all_eq_true.1 List.all_takeWhile c hmem
  · rintro ⟨htext, hfront⟩
    have hpass : ∀ d ∈ front.toList, (d != c) = true := by
      intro d hd
      rw [bne_iff_ne]
      rintro rfl
      exact hfront hd
    rw [htext, List.dropWhile_append_of_pos hpass, List.takeWhile_append_of_pos hpass]
    simp

theorem splitFirst_eq_none_iff {c : Char} {text : String} :
    splitFirst c text = none ↔ c ∉ text.toList := by
  constructor
  · intro h hmem
    rw [splitFirst] at h
    split at h
    · next hdrop => simpa using List.dropWhile_eq_nil_iff.1 hdrop c hmem
    · cases h
  · intro hmem
    cases hsplit : splitFirst c text with
    | none => rfl
    | some ends =>
      have htext := (splitFirst_eq_some_iff.1 hsplit).1
      exact absurd (htext ▸ List.mem_append_right _ List.mem_cons_self) hmem

/-! ## What speaks for a specifier -/

/-- A pattern with a star fits a specifier: what stands in front of its first star and behind it
are the front and the end of the specifier, with something captured between them, if it is only
nothing. -/
structure Fits (pattern specifier front captured back : String) : Prop where
  pattern_eq : pattern = front ++ "*" ++ back
  first : '*' ∉ front.toList
  specifier_eq : specifier = front ++ captured ++ back

/-- An entry is the best of some for a specifier: its pattern fits, and of the others that fit none
has a longer front, or one as long and comes after it in the order of bytes. -/
structure IsBest (specifier : String) (entries : List (String × List String))
    (entry : String × List String) (front captured : String) : Prop where
  mem : entry ∈ entries
  fits : ∃ back, Fits entry.1 specifier front captured back
  longest : ∀ other ∈ entries, ∀ front' captured' back',
    Fits other.1 specifier front' captured' back' →
      front'.utf8ByteSize < front.utf8ByteSize ∨ front'.utf8ByteSize = front.utf8ByteSize ∧
        ¬ Location.bytes entry.1 < Location.bytes other.1

/-- The entry of a table that speaks for a specifier, and what it captures. -/
inductive Speaks (paths : SortedMap (List String)) (specifier : String) :
    String × List String → String → Prop where
  /-- The pattern is the specifier. -/
  | exact {places : List String} (h : (specifier, places) ∈ paths.entries) :
    Speaks paths specifier (specifier, places) ""
  /-- No pattern is the specifier, and of those that fit this is the best. -/
  | star {entry : String × List String} {front captured : String} (h : specifier ∉ paths.keys)
    (hbest : IsBest specifier paths.entries entry front captured) :
    Speaks paths specifier entry captured

/-- A place of an alias with what is captured in place of its first star, if it has one. -/
inductive Fills (captured : String) : String → String → Prop where
  | star {front back : String} (h : '*' ∉ front.toList) :
    Fills captured (front ++ "*" ++ back) (front ++ captured ++ back)
  | plain {place : String} (h : '*' ∉ place.toList) : Fills captured place place

/-! ## Fitting -/

section Fitting

variable {pattern specifier front captured back : String}

theorem toList_star (front back : String) :
    (front ++ "*" ++ back).toList = front.toList ++ '*' :: back.toList := by
  simp

/-- A pattern fits exactly if it captures something. -/
theorem capture_eq_some_iff {size : Nat} : capture pattern specifier = some (size, captured) ↔
    ∃ front back, Fits pattern specifier front captured back ∧ front.utf8ByteSize = size := by
  simp only [capture, Option.bind_eq_bind, Option.bind_eq_some_iff, Option.pure_def, Prod.exists,
    Option.some.injEq, Prod.mk.injEq, splitFirst_eq_some_iff, between_eq_some_iff]
  constructor
  · rintro ⟨front, back, ⟨hpattern, hfirst⟩, part, hspecifier, rfl, rfl⟩
    refine ⟨front, back, ⟨?_, hfirst, ?_⟩, rfl⟩
    · rw [← String.toList_inj, toList_star, hpattern]
    · rw [← String.toList_inj, hspecifier]
      simp
  · rintro ⟨front, back, ⟨rfl, hfirst, rfl⟩, rfl⟩
    exact ⟨front, back, ⟨toList_star _ _, hfirst⟩, captured, by simp, rfl, rfl⟩

theorem capture_eq_none_iff : capture pattern specifier = none ↔
    ∀ front captured back, ¬ Fits pattern specifier front captured back := by
  rw [Option.eq_none_iff_forall_ne_some]
  constructor
  · intro h front captured back hfits
    exact h _ (capture_eq_some_iff.2 ⟨front, back, hfits, rfl⟩)
  · rintro h ⟨size, captured⟩ hsome
    obtain ⟨front, back, hfits, -⟩ := capture_eq_some_iff.1 hsome
    exact h front captured back hfits

/-- A pattern fits in one way only. -/
theorem Fits.unique (h : Fits pattern specifier front captured back)
    {front' captured' back' : String} (h' : Fits pattern specifier front' captured' back') :
    front.utf8ByteSize = front'.utf8ByteSize ∧ captured = captured' := by
  have hleft := capture_eq_some_iff.2 ⟨front, back, h, rfl⟩
  have hright := capture_eq_some_iff.2 ⟨front', back', h', rfl⟩
  exact Prod.mk.inj (Option.some.inj (hleft.symm.trans hright))

end Fitting

/-- A place is filled in one way only. -/
theorem fills_iff {captured place text : String} :
    Fills captured place text ↔ fillStar captured place = text := by
  constructor
  · rintro (@⟨front, back, h⟩ | ⟨h⟩)
    · rw [fillStar, splitFirst_eq_some_iff.2 ⟨toList_star front back, h⟩]
    · rw [fillStar, splitFirst_eq_none_iff.2 h]
  · rintro rfl
    rw [fillStar]
    split
    · next front back hsplit =>
      obtain ⟨hplace, hfirst⟩ := splitFirst_eq_some_iff.1 hsplit
      obtain rfl : place = front ++ "*" ++ back := by
        rw [← String.toList_inj, toList_star, hplace]
      exact .star hfirst
    · next hsplit => exact .plain (splitFirst_eq_none_iff.1 hsplit)

/-! ## The walk over a table -/

/-- What a walk has kept that has passed some entries: the best of them, or nothing if none of them
fits. -/
inductive Best (specifier : String) (done : List (String × List String)) :
    Option (Nat × String × List String) → Prop where
  | none (h : ∀ entry ∈ done, ∀ front captured back,
      ¬ Fits entry.1 specifier front captured back) : Best specifier done none
  | some {entry : String × List String} {front captured : String}
    (h : IsBest specifier done entry front captured) :
    Best specifier done (some (front.utf8ByteSize, captured, entry.2))

section Walk

variable {specifier : String} {done : List (String × List String)}
  {entry : String × List String} {best : Option (Nat × String × List String)}

/-- What does not fit changes nothing about the best. -/
theorem IsBest.concat {e : String × List String} {front captured : String}
    (h : IsBest specifier done e front captured)
    (hentry : ∀ front' captured' back', Fits entry.1 specifier front' captured' back' →
      front'.utf8ByteSize < front.utf8ByteSize) :
    IsBest specifier (done ++ [entry]) e front captured := by
  refine ⟨List.mem_append_left _ h.mem, h.fits, ?_⟩
  intro other hother front' captured' back' hfits
  rcases List.mem_append.1 hother with hold | hnew
  · exact h.longest other hold front' captured' back' hfits
  · rw [List.mem_singleton.1 hnew] at hfits
    exact .inl (hentry front' captured' back' hfits)

/-- An entry that comes after all others is the best if no other has a longer front. -/
theorem isBest_concat {front captured back : String}
    (hfits : Fits entry.1 specifier front captured back) (hlast : ∀ e ∈ done, e.1 < entry.1)
    (hdone : ∀ other ∈ done, ∀ front' captured' back',
      Fits other.1 specifier front' captured' back' → front'.utf8ByteSize ≤ front.utf8ByteSize) :
    IsBest specifier (done ++ [entry]) entry front captured := by
  refine ⟨by simp, ⟨back, hfits⟩, ?_⟩
  intro other hother front' captured' back' hother'
  have hnot {other : String} (h : ¬ entry.1 < other) :
      ¬ Location.bytes entry.1 < Location.bytes other :=
    mt Location.bytes_lt_bytes_iff.1 h
  rcases List.mem_append.1 hother with hold | hnew
  · rcases Nat.lt_or_eq_of_le (hdone other hold front' captured' back' hother') with hlt | heq
    · exact .inl hlt
    · exact .inr ⟨heq, hnot (String.lt_asymm (hlast other hold))⟩
  · rw [List.mem_singleton.1 hnew] at hother' ⊢
    exact .inr ⟨(hother'.unique hfits).1, hnot (String.lt_irrefl _)⟩

/-- **One more entry**, which comes after those that were passed. -/
theorem Best.concat (h : Best specifier done best) (hlast : ∀ e ∈ done, e.1 < entry.1) :
    Best specifier (done ++ [entry]) (betterAlias specifier best entry) := by
  rw [betterAlias]
  cases hcapture : capture entry.1 specifier with
  | none =>
    have hentry := capture_eq_none_iff.1 hcapture
    cases h with
    | none hnone =>
      refine .none fun e he => ?_
      rcases List.mem_append.1 he with hold | hnew
      · exact hnone e hold
      · exact List.mem_singleton.1 hnew ▸ hentry
    | some hbest =>
      exact .some (hbest.concat fun front' captured' back' hfits =>
        absurd hfits (hentry front' captured' back'))
  | some found =>
    obtain ⟨size, captured⟩ := found
    obtain ⟨front, back, hfits, rfl⟩ := capture_eq_some_iff.1 hcapture
    cases h with
    | none hnone =>
      exact .some (isBest_concat hfits hlast fun other hother front' captured' back' hother' =>
        absurd hother' (hnone other hother front' captured' back'))
    | @some e longest captured' hbest =>
      dsimp only
      split
      · next hlonger =>
        -- the new front is as long as the longest until here, so no other is longer
        refine .some (isBest_concat hfits hlast ?_)
        intro other hother front' captured' back' hother'
        have hlongest := hbest.longest other hother front' captured' back' hother'
        omega
      · next hshorter =>
        refine .some (hbest.concat ?_)
        intro front' captured' back' hfits'
        have heq := (hfits'.unique hfits).1
        omega

/-- **The walk keeps the best of the entries that it passes**, by induction on the entries that are
left. -/
theorem best_foldl {rest : List (String × List String)} (h : Best specifier done best)
    (hincreasing : (done ++ rest).Pairwise fun a b => a.1 < b.1) :
    Best specifier (done ++ rest) (rest.foldl (betterAlias specifier) best) := by
  induction rest generalizing done best with
  | nil => simpa using h
  | cons entry rest ih =>
    have hlast : ∀ e ∈ done, e.1 < entry.1 := fun e he =>
      (List.pairwise_append.1 hincreasing).2.2 e he entry List.mem_cons_self
    have hstep := h.concat hlast
    have hmore : done ++ entry :: rest = done ++ [entry] ++ rest := by simp
    rw [hmore] at hincreasing ⊢
    rw [List.foldl_cons]
    exact ih hstep hincreasing

end Walk

/-- One walk over the entries of a table, with the best until here, that ends at a pattern which is
the specifier itself. -/
def walkAliases (specifier : String) (best : Option (Nat × String × List String)) :
    List (String × List String) → Option (String × List String)
  | [] => best.map (·.2)
  | entry :: rest =>
    if entry.1 = specifier then some ("", entry.2)
    else walkAliases specifier (betterAlias specifier best entry) rest

/-- A pattern that is the specifier is found wherever it stands, whatever is the best before. -/
theorem walkAliases_eq (specifier : String) (entries : List (String × List String))
    (best : Option (Nat × String × List String)) :
    walkAliases specifier best entries =
      match entries.lookup specifier with
      | some places => some ("", places)
      | none => (entries.foldl (betterAlias specifier) best).map (·.2) := by
  induction entries generalizing best with
  | nil => rfl
  | cons entry rest ih =>
    rw [walkAliases, SortedMap.lookup_cons_eq_ite, List.foldl_cons]
    by_cases h : entry.1 = specifier
    · rw [if_pos h, if_pos h.symm]
    · rw [if_neg h, if_neg (Ne.symm h), ih]

/-! ## The entry that speaks -/

section Speaking

variable {paths : SortedMap (List String)} {specifier : String}

/-- The alias that a specifier matches is found in one walk over the table. -/
theorem matchAlias_eq_walkAliases (paths : SortedMap (List String)) (specifier : String) :
    matchAlias paths specifier = walkAliases specifier none paths.entries := by
  rw [walkAliases_eq]
  rfl

/-- The best of some entries is one entry, and captures one text. -/
theorem IsBest.unique {entry entry' : String × List String}
    {front front' captured captured' : String}
    (h : IsBest specifier paths.entries entry front captured)
    (h' : IsBest specifier paths.entries entry' front' captured') :
    entry = entry' ∧ captured = captured' := by
  obtain ⟨back, hfits⟩ := h.fits
  obtain ⟨back', hfits'⟩ := h'.fits
  have hleft := h.longest entry' h'.mem _ _ _ hfits'
  have hright := h'.longest entry h.mem _ _ _ hfits
  -- neither front is longer, so neither pattern comes after the other
  have hpattern : entry.1 = entry'.1 := by
    rcases hleft with hlt | ⟨heq, hnot⟩ <;> rcases hright with hlt' | ⟨heq', hnot'⟩
    · omega
    · omega
    · omega
    · rw [Location.bytes_lt_bytes_iff, String.not_lt] at hnot hnot'
      exact String.le_antisymm hnot' hnot
  have hplaces : entry.2 = entry'.2 := by
    have hmem : (entry.1, entry'.2) ∈ paths.entries := hpattern ▸ h'.mem
    exact SortedMap.eq_of_mem_entries h.mem hmem
  refine ⟨Prod.ext hpattern hplaces, ?_⟩
  rw [← hpattern] at hfits'
  exact (hfits.unique hfits').2

/-- At most one entry speaks for a specifier. -/
theorem Speaks.unique {entry entry' : String × List String} {captured captured' : String}
    (h : Speaks paths specifier entry captured) (h' : Speaks paths specifier entry' captured') :
    entry = entry' ∧ captured = captured' := by
  have hkey {places : List String} (hmem : (specifier, places) ∈ paths.entries) :
      specifier ∈ paths.keys := List.mem_map_of_mem hmem
  cases h with
  | exact hmem =>
    cases h' with
    | exact hmem' => exact ⟨by rw [SortedMap.eq_of_mem_entries hmem hmem'], rfl⟩
    | star hnot => exact absurd (hkey hmem) hnot
  | star hnot hbest =>
    cases h' with
    | exact hmem' => exact absurd (hkey hmem') hnot
    | star _ hbest' => exact hbest.unique hbest'

/-- A walk over the whole table keeps its best entry. -/
theorem best_entries (paths : SortedMap (List String)) (specifier : String) :
    Best specifier paths.entries (paths.entries.foldl (betterAlias specifier) none) := by
  have hnone : Best specifier [] none := .none fun _ hmem => absurd hmem List.not_mem_nil
  exact best_foldl hnone paths.increasing

theorem not_mem_keys_iff : specifier ∉ paths.keys ↔ paths.get? specifier = none := by
  rw [← SortedMap.contains_iff, SortedMap.contains, Option.not_isSome_iff_eq_none]

/-- **The alias that a specifier matches** is the entry that speaks for it. -/
theorem matchAlias_eq_some_iff {captured : String} {places : List String} :
    matchAlias paths specifier = some (captured, places) ↔
      ∃ pattern, Speaks paths specifier (pattern, places) captured := by
  have hbest := best_entries paths specifier
  rw [matchAlias]
  cases hfound : paths.get? specifier with
  | some own =>
    have hmem := SortedMap.get?_eq_some_iff.1 hfound
    constructor
    · rintro ⟨⟩
      exact ⟨specifier, .exact hmem⟩
    · rintro ⟨pattern, hspeaks⟩
      obtain ⟨heq, rfl⟩ := (Speaks.exact hmem).unique hspeaks
      rw [(Prod.mk.inj heq).2]
  | none =>
    have hkey := not_mem_keys_iff.2 hfound
    dsimp only
    generalize paths.entries.foldl (betterAlias specifier) none = best at hbest
    cases hbest with
    | none hnone =>
      refine iff_of_false (by simp) ?_
      rintro ⟨pattern, hspeaks⟩
      cases hspeaks with
      | exact hmem => exact hkey (List.mem_map_of_mem hmem)
      | star _ hisBest =>
        obtain ⟨back, hfits⟩ := hisBest.fits
        exact hnone _ hisBest.mem _ _ _ hfits
    | @some entry front captured' hisBest =>
      have hstar := Speaks.star hkey hisBest
      constructor
      · rintro ⟨⟩
        exact ⟨entry.1, hstar⟩
      · rintro ⟨pattern, hspeaks⟩
        obtain ⟨rfl, rfl⟩ := hstar.unique hspeaks
        rfl

/-- Of two patterns with fronts of one length the last is taken, unless one is the specifier. -/
example :
    matchAlias (.ofList [("*", ["a"]), ("ä/*", ["b/*"]), ("ä/*ü", ["c/*"]), ("ä/*x", [])]) "ä/öü" =
        some ("ö", ["c/*"]) ∧
      matchAlias (.ofList [("*", ["a"]), ("ä*", ["b/*"])]) "*" = some ("", ["a"]) := by
  decide +kernel

/-- Some entry speaks for a specifier if a pattern is the specifier or fits it. -/
theorem exists_speaks_iff : (∃ entry captured, Speaks paths specifier entry captured) ↔
    specifier ∈ paths.keys ∨ ∃ entry ∈ paths.entries, ∃ front captured back,
      Fits entry.1 specifier front captured back := by
  constructor
  · rintro ⟨entry, captured, hmem | ⟨hkey, hbest⟩⟩
    · exact .inl (List.mem_map_of_mem hmem)
    · obtain ⟨back, hfits⟩ := hbest.fits
      exact .inr ⟨entry, hbest.mem, _, _, back, hfits⟩
  · intro h
    by_cases hkey : specifier ∈ paths.keys
    · obtain ⟨⟨pattern, places⟩, hmem, rfl⟩ := List.mem_map.1 hkey
      exact ⟨_, "", .exact hmem⟩
    · obtain ⟨entry, hmem, front, captured, back, hfits⟩ := h.resolve_left hkey
      have hbest := best_entries paths specifier
      generalize paths.entries.foldl (betterAlias specifier) none = best at hbest
      cases hbest with
      | none hnone => exact absurd hfits (hnone entry hmem front captured back)
      | some hisBest => exact ⟨_, _, .star hkey hisBest⟩

end Speaking

/-! ## The file of an alias -/

/-- What a place of an alias leads to, with the captured text in place of its star, in the base
directory of the options. -/
def LeadsTo (r : Resolver) (captured place : String) (answer : Option String) : Prop :=
  ∃ text, Fills captured place text ∧
    r.load (Path.join (Path.normalize (r.options.baseUrl.getD ".")) text) = answer

theorem leadsTo_iff {r : Resolver} {captured place : String} {answer : Option String} :
    r.LeadsTo captured place answer ↔
      r.load (Path.join (Path.normalize (r.options.baseUrl.getD ".")) (fillStar captured place)) =
        answer := by
  simp only [LeadsTo, fills_iff, exists_eq_left']

/-- How the file of an alias is found for a specifier. -/
structure UsesOneAlias (r : Resolver) (specifier : String) : Prop where
  /-- At most one entry speaks for the specifier, and captures one text. -/
  one : ∀ entry captured entry' captured', Speaks r.options.paths specifier entry captured →
    Speaks r.options.paths specifier entry' captured' → entry = entry' ∧ captured = captured'
  /-- One speaks if a pattern is the specifier or fits it. -/
  speaks : (∃ entry captured, Speaks r.options.paths specifier entry captured) ↔
    specifier ∈ r.options.paths.keys ∨ ∃ entry ∈ r.options.paths.entries, ∃ front captured back,
      Fits entry.1 specifier front captured back
  /-- It is what one walk over the table keeps, which ends at a pattern that is the specifier. -/
  walk : matchAlias r.options.paths specifier =
    walkAliases specifier none r.options.paths.entries
  /-- A file is the one to which the first of its places leads that leads to any. -/
  found : ∀ file, r.loadAlias specifier = some file ↔
    ∃ entry captured, Speaks r.options.paths specifier entry captured ∧
      ∃ before place after, entry.2 = before ++ place :: after ∧
        (∀ other ∈ before, r.LeadsTo captured other none) ∧ r.LeadsTo captured place (some file)
  /-- There is none exactly if no entry speaks or none of the places leads to a file. -/
  missed : r.loadAlias specifier = none ↔
    ∀ entry captured, Speaks r.options.paths specifier entry captured →
      ∀ place ∈ entry.2, r.LeadsTo captured place none
  /-- No cut of a text fails. -/
  cuts : r.checkedLoadAlias specifier = some (r.loadAlias specifier)

/-- **A specifier has one alias.** Whatever the table, the options, the files and the specifier
are, the file of an alias is looked for at the places of the entry that speaks for the specifier, in
their order, and nowhere else. -/
theorem loadAlias_uses_one (r : Resolver) (specifier : String) : r.UsesOneAlias specifier := by
  constructor
  case one => exact fun entry captured entry' captured' h h' => h.unique h'
  case speaks => exact exists_speaks_iff
  case walk => exact matchAlias_eq_walkAliases _ _
  case cuts => exact checkedLoadAlias_eq r specifier
  case found =>
    intro file
    simp only [loadAlias, Option.bind_eq_bind, Option.bind_eq_some_iff, Prod.exists,
      matchAlias_eq_some_iff, List.findSome?_eq_some_iff, leadsTo_iff]
    constructor
    · rintro ⟨captured, places, ⟨pattern, hspeaks⟩, before, place, after, hplaces, hfile, hbefore⟩
      exact ⟨pattern, places, captured, hspeaks, before, place, after, hplaces, hbefore, hfile⟩
    · rintro ⟨pattern, places, captured, hspeaks, before, place, after, hplaces, hbefore, hfile⟩
      exact ⟨captured, places, ⟨pattern, hspeaks⟩, before, place, after, hplaces, hfile, hbefore⟩
  case missed =>
    simp only [loadAlias, Option.bind_eq_bind, Option.bind_eq_none_iff, Prod.forall,
      matchAlias_eq_some_iff, List.findSome?_eq_none_iff, leadsTo_iff]
    constructor
    · exact fun h pattern places captured hspeaks => h captured places ⟨pattern, hspeaks⟩
    · rintro h captured places ⟨pattern, hspeaks⟩
      exact h pattern places captured hspeaks

end Resolver

end ScriptHost
