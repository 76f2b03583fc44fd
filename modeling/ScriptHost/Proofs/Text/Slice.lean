import Mathlib.Data.String.Basic
/-!
# Slices of texts

A slice is cut out of a text between two positions, which are counted in
bytes. It is there only if both positions are between characters and the first
does not come after the second.

- `Slice.split?`: the characters before and after a position.
- `Slice.cut?`, `Slice.cut?_eq_some_iff`: the slice between two positions.
- `Slice.lastIndex?`: the position of the last occurrence of a character.
- `Slice.minus?`: a difference of positions, which is there if it is not negative.
-/

namespace ScriptHost

namespace Slice

open String (utf8Len)

/-! ## Positions -/

/-- The characters before a position and those after it, if it is between characters. -/
def split? : Nat → List Char → Option (List Char × List Char)
  | 0, cs => some ([], cs)
  | _ + 1, [] => none
  | n + 1, c :: cs =>
    if c.utf8Size ≤ n + 1 then
      (split? (n + 1 - c.utf8Size) cs).map fun (before, after) => (c :: before, after)
    else none

/-- A position is between characters if those before it take as many bytes. -/
theorem split?_eq_some_iff {n : Nat} {cs before after : List Char} :
    split? n cs = some (before, after) ↔ cs = before ++ after ∧ utf8Len before = n := by
  fun_induction split? n cs generalizing before with
  | case1 cs =>
    rw [Option.some.injEq, Prod.mk.injEq, String.utf8Len_eq_zero]
    constructor
    · rintro ⟨rfl, rfl⟩
      exact ⟨rfl, rfl⟩
    · rintro ⟨rfl, rfl⟩
      exact ⟨rfl, rfl⟩
  | case2 n =>
    refine iff_of_false (by simp) ?_
    rintro ⟨hnil, hlen⟩
    obtain ⟨rfl, -⟩ := List.append_eq_nil_iff.1 hnil.symm
    simp at hlen
  | case3 n c cs hfits ih =>
    rw [Option.map_eq_some_iff]
    constructor
    · rintro ⟨⟨front, back⟩, hrest, heq⟩
      obtain ⟨rfl, rfl⟩ := Prod.mk.inj heq
      obtain ⟨rfl, hlen⟩ := ih.1 hrest
      refine ⟨rfl, ?_⟩
      rw [String.utf8Len_cons, hlen]
      omega
    · rintro ⟨heq, hlen⟩
      cases before with
      | nil => simp at hlen
      | cons d front =>
        obtain ⟨rfl, hcs⟩ := List.cons.inj heq
        rw [String.utf8Len_cons] at hlen
        exact ⟨(front, after), ih.2 ⟨hcs, by omega⟩, rfl⟩
  | case4 n c cs hfits =>
    refine iff_of_false (by simp) ?_
    rintro ⟨heq, hlen⟩
    cases before with
    | nil => simp at hlen
    | cons d front =>
      obtain ⟨rfl, -⟩ := List.cons.inj heq
      rw [String.utf8Len_cons] at hlen
      omega

/-- The position before the last occurrence of a character. -/
def lastIndex? (c : Char) : List Char → Option Nat
  | [] => none
  | d :: ds =>
    match lastIndex? c ds with
    | some n => some (d.utf8Size + n)
    | none => if d = c then some 0 else none

theorem lastIndex?_eq_none_iff {c : Char} {cs : List Char} : lastIndex? c cs = none ↔ c ∉ cs := by
  induction cs with
  | nil => simp [lastIndex?]
  | cons d ds ih =>
    rw [lastIndex?, List.mem_cons, not_or, ← ih]
    cases lastIndex? c ds with
    | some n => simp
    | none =>
      by_cases h : d = c
      · simp [h]
      · simp [h, Ne.symm h]

/-- The characters before the last occurrence take as many bytes as its position says. -/
theorem lastIndex?_append {c : Char} {before after : List Char} (h : c ∉ after) :
    lastIndex? c (before ++ c :: after) = some (utf8Len before) := by
  induction before with
  | nil => simp [lastIndex?, lastIndex?_eq_none_iff.2 h]
  | cons d before ih => rw [List.cons_append, lastIndex?, ih, String.utf8Len_cons, Nat.add_comm]

/-- The difference of two positions, if it is not negative. -/
def minus? (n m : Nat) : Option Nat := if m ≤ n then some (n - m) else none

theorem minus?_add (n m : Nat) : minus? (n + m) m = some n := by
  rw [minus?, if_pos (Nat.le_add_left m n), Nat.add_sub_cancel]

/-! ## Slices -/

/-- The slice of a text between two positions. -/
def cut? (text : String) (first last : Nat) : Option String := do
  let (before, _) ← split? last text.toList
  let (_, part) ← split? first before
  return String.ofList part

/-- **What a slice is**: what stands between so many bytes in front of it and the others. -/
theorem cut?_eq_some_iff {text part : String} {first last : Nat} :
    cut? text first last = some part ↔ ∃ before after, text = before ++ part ++ after ∧
      before.utf8ByteSize = first ∧ (before ++ part).utf8ByteSize = last := by
  simp only [cut?, Option.bind_eq_bind, Option.bind_eq_some_iff, Option.pure_def, Prod.exists,
    Option.some.injEq, split?_eq_some_iff]
  constructor
  · rintro ⟨front, after, ⟨htext, hlast⟩, before, mid, ⟨rfl, hfirst⟩, rfl⟩
    refine ⟨String.ofList before, String.ofList after, ?_, ?_, ?_⟩
    · rw [← String.toList_inj, htext]
      simp
    · rw [String.utf8ByteSize_ofList, hfirst]
    · rw [← String.ofList_append, String.utf8ByteSize_ofList, hlast]
  · rintro ⟨before, after, rfl, hfirst, hlast⟩
    refine ⟨(before ++ part).toList, after.toList, ⟨by simp, ?_⟩, before.toList, part.toList,
      ⟨by simp, ?_⟩, by simp⟩
    · rw [String.utf8Len_toList, hlast]
    · rw [String.utf8Len_toList, hfirst]

/-- There is no slice that ends inside of a character. -/
example : cut? "äb" 0 2 = some "ä" ∧ cut? "äb" 0 1 = none := by decide

/-- The slice of the characters before some others. -/
theorem cut?_front {text : String} {before after : List Char} (h : text.toList = before ++ after) :
    cut? text 0 (utf8Len before) = some (String.ofList before) := by
  refine cut?_eq_some_iff.2 ⟨"", String.ofList after, ?_, by simp, ?_⟩
  · rw [← String.toList_inj, h]
    simp
  · rw [String.empty_append, String.utf8ByteSize_ofList]

/-- The slice of the characters between some others. -/
theorem cut?_middle {text : String} {before middle after : List Char}
    (h : text.toList = before ++ middle ++ after) :
    cut? text (utf8Len before) (utf8Len (before ++ middle)) = some (String.ofList middle) := by
  refine cut?_eq_some_iff.2 ⟨String.ofList before, String.ofList after, ?_, ?_, ?_⟩
  · rw [← String.toList_inj, h]
    simp
  · rw [String.utf8ByteSize_ofList]
  · rw [← String.ofList_append, String.utf8ByteSize_ofList]

/-- A front and an end that do not overlap have something between them, if it is only nothing. -/
theorem exists_middle {cs front back : List Char} (hfront : front <+: cs) (hback : back <:+ cs)
    (h : utf8Len front + utf8Len back ≤ utf8Len cs ∨ front.length + back.length ≤ cs.length) :
    ∃ middle, cs = front ++ middle ++ back := by
  obtain ⟨rest, rfl⟩ := hfront
  rcases List.suffix_or_suffix_of_suffix hback (List.suffix_append front rest) with
    ⟨middle, rfl⟩ | ⟨more, rfl⟩
  · exact ⟨middle, (List.append_assoc _ _ _).symm⟩
  · -- the end starts inside of the front, and fits only if it starts where the front ends
    have hnil : more = [] := by
      rcases h with h | h
      · rw [String.utf8Len_append, String.utf8Len_append] at h
        exact String.utf8Len_eq_zero.1 (by omega)
      · rw [List.length_append, List.length_append] at h
        exact List.eq_nil_of_length_eq_zero (by omega)
    exact ⟨[], by simp [hnil]⟩

end Slice

end ScriptHost
