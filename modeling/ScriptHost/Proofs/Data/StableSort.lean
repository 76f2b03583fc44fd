/-!
# Stable sorting

Sorting by a key keeps the order of elements with one key. So it makes no
difference whether some of the elements are picked before sorting or after it.

- `exists_mergeSort_cons`: where the first element of a list goes.
- `filter_mergeSort`: picking commutes with sorting.
-/

namespace ScriptHost

variable {α : Type}

/-- A list is split in one way only such that some test fails in front of the split and not behind
it. -/
theorem eq_of_split {test : α → Bool} {front back front' back' : List α}
    (h : front ++ back = front' ++ back') (hfront : ∀ a ∈ front, test a = false)
    (hback : ∀ a ∈ back, test a = true) (hfront' : ∀ a ∈ front', test a = false)
    (hback' : ∀ a ∈ back', test a = true) : front = front' ∧ back = back' := by
  -- what is behind the split is what the test picks out of the whole list
  have hpick {l m : List α} (hl : ∀ a ∈ l, test a = false) (hm : ∀ a ∈ m, test a = true) :
      (l ++ m).filter test = m := by
    rw [List.filter_append, List.filter_eq_nil_iff.2 fun a ha => by simp [hl a ha],
      List.filter_eq_self.2 hm, List.nil_append]
  have heq : back = back' := by
    rw [← hpick hfront hback, h, hpick hfront' hback']
  exact ⟨List.append_cancel_right (heq ▸ h), heq⟩

section

variable {le : α → α → Bool} (trans : ∀ a b c, le a b = true → le b c = true → le a c = true)
  (total : ∀ a b, (le a b || le b a) = true)

include trans total

/-- The first element goes behind those that come before it, and in front of all others. -/
theorem exists_mergeSort_cons (a : α) (l : List α) :
    ∃ front back, (a :: l).mergeSort le = front ++ a :: back ∧ l.mergeSort le = front ++ back ∧
      (∀ b ∈ front, le a b = false) ∧ ∀ b ∈ back, le a b = true := by
  obtain ⟨front, back, hsorted, hrest, hfront⟩ := List.mergeSort_cons trans total a l
  have hpairwise := hsorted ▸ List.pairwise_mergeSort trans total (a :: l)
  exact ⟨front, back, hsorted, hrest, fun b hb => by simpa using hfront b hb,
    (List.pairwise_cons.1 (List.pairwise_append.1 hpairwise).2.1).1⟩

/-- **Picking commutes with sorting.** The elements that a test picks out of a sorted list are those
that it picks out of the list, sorted. -/
theorem filter_mergeSort (test : α → Bool) (l : List α) :
    (l.mergeSort le).filter test = (l.filter test).mergeSort le := by
  induction l with
  | nil => rw [List.mergeSort_nil, List.filter_nil, List.mergeSort_nil]
  | cons a l ih =>
    obtain ⟨front, back, hsorted, hrest, hfront, hback⟩ := exists_mergeSort_cons trans total a l
    rw [hsorted, List.filter_append]
    by_cases ha : test a = true
    · obtain ⟨front', back', hsorted', hrest', hfront', hback'⟩ :=
        exists_mergeSort_cons trans total a (l.filter test)
      have hsame : front.filter test ++ back.filter test = front' ++ back' := by
        rw [← List.filter_append, ← hrest, ih, hrest']
      obtain ⟨rfl, rfl⟩ := eq_of_split hsame (fun b hb => hfront b (List.mem_filter.1 hb).1)
        (fun b hb => hback b (List.mem_filter.1 hb).1) hfront' hback'
      rw [List.filter_cons_of_pos ha, List.filter_cons_of_pos ha, hsorted']
    · rw [List.filter_cons_of_neg ha, List.filter_cons_of_neg ha, ← List.filter_append, ← hrest, ih]

end

end ScriptHost
