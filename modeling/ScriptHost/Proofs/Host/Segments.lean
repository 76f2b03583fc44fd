import ScriptHost.Proofs.Host.OutputName
/-!
# Segments of paths

A path is split at its slashes into segments, and joined from them again. What
is left of its segments when it is normalized has no slash in it and is not
empty, so its last segment can be told from the directory in front of it.

- `Path.not_mem_of_mem_splitChars`: no separator is left in a part.
- `Path.mem_of_mem_resolveSegments`: which segments a normalized path has.
- `Path.dirname_joinChars`: the directory of a path that is joined from segments.
-/

namespace ScriptHost

namespace Path

/-! ## Normalized segments -/

/-- The parts of a text have no separator in them. -/
theorem not_mem_of_mem_splitChars {sep : Char} {cs part : List Char}
    (h : part ∈ splitChars sep cs) : sep ∉ part := by
  fun_induction splitChars sep cs generalizing part with
  | case1 =>
    rw [List.mem_singleton.1 h]
    exact List.not_mem_nil
  | case2 c cs _ ih =>
    rcases List.mem_cons.1 h with rfl | hrest
    · exact List.not_mem_nil
    · exact ih hrest
  | case3 c cs hne _ _ =>
    rw [List.mem_singleton.1 h, List.mem_singleton]
    rintro rfl
    exact hne (beq_self_eq_true _)
  | case4 c cs hne first rest hsplit ih =>
    rw [hsplit] at ih
    rcases List.mem_cons.1 h with rfl | hrest
    · rw [List.mem_cons, not_or]
      refine ⟨?_, ih List.mem_cons_self⟩
      rintro rfl
      exact hne (beq_self_eq_true _)
    · exact ih (List.mem_cons_of_mem _ hrest)

/-- The parts of a text have no characters of their own. -/
theorem subset_of_mem_splitChars {sep : Char} {cs part : List Char}
    (h : part ∈ splitChars sep cs) : part ⊆ cs := by
  fun_induction splitChars sep cs generalizing part with
  | case1 =>
    rw [List.mem_singleton.1 h]
    exact List.Subset.refl _
  | case2 c cs _ ih =>
    rcases List.mem_cons.1 h with rfl | hrest
    · exact List.nil_subset _
    · exact List.subset_cons_of_subset c (ih hrest)
  | case3 c cs _ _ _ =>
    rw [List.mem_singleton.1 h]
    exact List.cons_subset_cons c (List.nil_subset _)
  | case4 c cs _ first rest hsplit ih =>
    rw [hsplit] at ih
    rcases List.mem_cons.1 h with rfl | hrest
    · exact List.cons_subset_cons c (ih List.mem_cons_self)
    · exact List.subset_cons_of_subset c (ih (List.mem_cons_of_mem _ hrest))

/-- What is on the stack after one more segment is that segment, if it is not empty, or was there
before. -/
theorem mem_pushSegment {stack : List (List Char)} {segment s : List Char}
    (h : s ∈ pushSegment stack segment) : s ∈ stack ∨ s = segment ∧ s ≠ [] := by
  rw [pushSegment.eq_def] at h
  split at h
  · exact .inl h
  · next hkept =>
    have hne : segment ≠ [] := by
      rintro rfl
      exact hkept rfl
    have hown {rest : List (List Char)} (hmem : s ∈ segment :: rest) (hrest : rest ⊆ stack) :
        s ∈ stack ∨ s = segment ∧ s ≠ [] := by
      rcases List.mem_cons.1 hmem with rfl | hmem
      · exact .inr ⟨rfl, hne⟩
      · exact .inl (hrest hmem)
    split at h
    · split at h
      · split at h
        · exact hown h (List.Subset.refl _)
        · exact .inl (List.mem_cons_of_mem _ h)
      · exact hown h (List.nil_subset _)
    · exact hown h (List.Subset.refl _)

theorem mem_foldl_pushSegment {segments stack : List (List Char)} {segment : List Char}
    (h : segment ∈ segments.foldl pushSegment stack) :
    segment ∈ stack ∨ segment ∈ segments ∧ segment ≠ [] := by
  induction segments generalizing stack with
  | nil => exact .inl h
  | cons first rest ih =>
    rcases ih h with hstack | ⟨hrest, hne⟩
    · rcases mem_pushSegment hstack with hbefore | ⟨rfl, hne⟩
      · exact .inl hbefore
      · exact .inr ⟨List.mem_cons_self, hne⟩
    · exact .inr ⟨List.mem_cons_of_mem _ hrest, hne⟩

/-- The segments that are left over are among the given ones, and none is empty. -/
theorem mem_of_mem_resolveSegments {segments : List (List Char)} {segment : List Char}
    (h : segment ∈ resolveSegments segments) : segment ∈ segments ∧ segment ≠ [] :=
  (mem_foldl_pushSegment (List.mem_reverse.1 h)).resolve_left List.not_mem_nil

/-! ## Joined segments -/

/-- A text that is joined has the characters of its parts and separators. -/
theorem mem_joinChars {sep c : Char} {parts : List (List Char)} (h : c ∈ joinChars sep parts) :
    c = sep ∨ ∃ part ∈ parts, c ∈ part := by
  fun_induction joinChars sep parts with
  | case1 => cases h
  | case2 part => exact .inr ⟨part, List.mem_singleton_self part, h⟩
  | case3 part parts _ ih =>
    rcases List.mem_append.1 h with hpart | hrest
    · exact .inr ⟨part, List.mem_cons_self, hpart⟩
    · rcases List.mem_cons.1 hrest with rfl | hrest
      · exact .inl rfl
      · refine (ih hrest).imp_right fun ⟨other, hother, hc⟩ => ?_
        exact ⟨other, List.mem_cons_of_mem _ hother, hc⟩

theorem joinChars_concat {sep : Char} {init : List (List Char)} {last : List Char}
    (h : init ≠ []) : joinChars sep (init ++ [last]) = joinChars sep init ++ sep :: last := by
  induction init with
  | nil => exact absurd rfl h
  | cons part parts ih =>
    cases parts with
    | nil => rfl
    | cons next parts =>
      show part ++ sep :: joinChars sep ((next :: parts) ++ [last]) =
        (part ++ sep :: joinChars sep (next :: parts)) ++ sep :: last
      rw [ih (List.cons_ne_nil _ _), List.append_assoc, List.cons_append]

theorem joinChars_concat_ne_nil {sep : Char} {init : List (List Char)} {last : List Char}
    (h : last ≠ []) : joinChars sep (init ++ [last]) ≠ [] := by
  by_cases hinit : init = []
  · rwa [hinit]
  · rw [joinChars_concat hinit]
    exact List.append_ne_nil_of_right_ne_nil _ (List.cons_ne_nil _ _)

/-- A path without a slash is at the top. -/
theorem dirname_of_not_mem {path : String} (h : '/' ∉ path.toList) : dirname path = "" := by
  rw [dirname]
  cases hsplit : splitLast '/' path with
  | none => rfl
  | some parts =>
    refine absurd ?_ h
    rw [(splitLast_eq_some_iff.1 hsplit).1]
    exact List.mem_append_right _ List.mem_cons_self

/-- The directory of a path that is put together from segments. -/
theorem dirname_joinChars {init : List (List Char)} {last : List Char} (h : '/' ∉ last) :
    dirname (String.ofList (joinChars '/' (init ++ [last]))) =
      String.ofList (joinChars '/' init) := by
  by_cases hinit : init = []
  · subst hinit
    refine dirname_of_not_mem ?_
    rwa [String.toList_ofList]
  · have hsplit : splitLast '/' (String.ofList (joinChars '/' (init ++ [last]))) =
        some (String.ofList (joinChars '/' init), String.ofList last) := by
      rw [splitLast_eq_some_iff, joinChars_concat hinit]
      simp only [String.toList_ofList]
      exact ⟨trivial, h⟩
    rw [dirname, hsplit]
    rfl

end Path

end ScriptHost
