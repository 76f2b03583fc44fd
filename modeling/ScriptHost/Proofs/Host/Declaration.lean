import Mathlib.Data.List.Basic
import ScriptHost.Proofs.Host.OutputName
/-!
# Declarations in any case

Which files are declarations is told by the letters of ASCII in their endings.
Paths are compared by the lower case of all letters, and this makes no
difference: no other letter has one of an ending for its lower-case form.

- `lowerChar_eq_toLower`: which letters have one of an ending for their lower-case form.
- `suffix_of_suffix_lowerChars`: what ends like a declaration in lower case.
- `Path.endsWithAny_of_lowerCase_eq`: spellings of a path end alike.
- `Path.isDeclaration_of_lowerCase_eq`: spellings of a declaration are declarations.
-/

namespace ScriptHost

/-! ## Letters of endings -/

/-- The characters of the endings of files that can be compiled. -/
def endingChars : List Char := ['.', 'd', 't', 's', 'm', 'c', 'x', 'j']

/-- No capital letter outside ASCII has a character of such an ending for its lower-case form. -/
theorem lowerCaseRuns_beyond_endings : ∀ r ∈ lowerCaseRuns, endingChars.Forall fun x =>
    (x.toNat : Int) < r.first + r.delta ∨
      r.first = r.last ∧ (x.toNat : Int) ≠ r.first + r.delta := by
  decide +kernel

/-- The characters of such endings are of ASCII, and they are their own lower case. -/
theorem endingChars_spec : ∀ x ∈ endingChars, 0 < x.toNat ∧ x.toNat < 0x80 ∧ lowerChar x = x :=
  List.forall_iff_forall_mem.1 (by decide)

/-- Only one number is that of such a character. -/
theorem eq_of_ofNat_mem_endingChars {n : Nat} (h : Char.ofNat n ∈ endingChars) :
    n = (Char.ofNat n).toNat := by
  by_cases hvalid : n.isValidChar
  · rw [Char.ofNat, dif_pos hvalid]
    rfl
  · rw [Char.ofNat, dif_neg hvalid] at h
    exact absurd h (by decide)

/-- A character of such an ending is the lower-case form of letters of ASCII only. -/
theorem lowerChar_eq_toLower {c : Char} (h : lowerChar c ∈ endingChars) :
    lowerChar c = c.toLower := by
  rw [lowerChar] at h ⊢
  by_cases hascii : c.toNat < 0x80
  · rw [if_pos hascii]
  · rw [if_neg hascii] at h ⊢
    split at h
    · next r hr =>
      have hrun := List.find?_some hr
      simp only [Bool.and_eq_true, decide_eq_true_eq] at hrun
      have hcode := eq_of_ofNat_mem_endingChars h
      obtain ⟨hpos, -⟩ := endingChars_spec _ h
      have hbeyond := lowerCaseRuns_beyond_endings r (List.mem_of_find?_eq_some hr)
      rcases List.forall_iff_forall_mem.1 hbeyond _ h with hbelow | ⟨hone, hother⟩
      · omega
      · omega
    · exact absurd (endingChars_spec c h).2.1 hascii

/-! ## Endings in lower case -/

/-- No character is lost in lower case. -/
theorem length_le_lowerChars (before cs : List Char) :
    cs.length ≤ (lowerChars before cs).length := by
  induction cs generalizing before with
  | nil => exact Nat.zero_le _
  | cons c cs ih =>
    rw [lowerChars, List.length_append, List.length_cons, Nat.add_comm]
    refine Nat.add_le_add ?_ (ih (c :: before))
    split
    · split <;> exact Nat.le_refl _
    · split
      · exact Nat.le_succ 1
      · exact Nat.le_refl _

/-- A part of such an ending that one character has for its lower-case form is the lower-case form
of a letter of ASCII. -/
theorem suffix_lowerChars_singleton {front before cs : List Char} {c : Char} (hne : front ≠ [])
    (hfront : ∀ x ∈ front, x ∈ endingChars)
    (h : front ++ lowerChars (c :: before) cs <:+ lowerChars before (c :: cs)) :
    front = [c.toLower] := by
  rw [lowerChars, List.suffix_append_self_iff] at h
  have hone {x : Char} (hx : front <:+ [x]) : front = [x] ∧ x ∈ endingChars := by
    have heq := (List.suffix_cons_iff.1 hx).resolve_right fun hnil => hne (List.suffix_nil.1 hnil)
    exact ⟨heq, hfront x (heq ▸ List.mem_cons_self)⟩
  split at h
  · -- A sigma has a small sigma of either kind for its lower-case form.
    split at h <;> exact absurd (hone h).2 (by decide)
  · split at h
    · have hdot : Char.ofNat 0x307 ∈ front := by
        rcases List.suffix_cons_iff.1 h with rfl | hdot
        · exact List.mem_cons_of_mem _ List.mem_cons_self
        · exact (hone hdot).1 ▸ List.mem_cons_self
      exact absurd (hfront _ hdot) (by decide)
    · obtain ⟨heq, hmem⟩ := hone h
      rw [heq, lowerChar_eq_toLower hmem]

/-- What ends a text in lower case like a declaration ends it if only letters of ASCII are
changed. -/
theorem suffix_of_suffix_lowerChars {e before cs : List Char} (he : ∀ x ∈ e, x ∈ endingChars)
    (h : e <:+ lowerChars before cs) : e <:+ cs.map Char.toLower := by
  induction cs generalizing before e with
  | nil => simpa [lowerChars] using h
  | cons c cs ih =>
    have hrest : lowerChars (c :: before) cs <:+ lowerChars before (c :: cs) := by
      rw [lowerChars]
      exact List.suffix_append _ _
    rcases List.suffix_or_suffix_of_suffix h hrest with hshort | ⟨front, rfl⟩
    · exact (ih he hshort).trans (List.suffix_cons _ _)
    · have htail : ∀ x ∈ lowerChars (c :: before) cs, x ∈ endingChars :=
        fun x hx => he x (List.mem_append_right _ hx)
      have hall : lowerChars (c :: before) cs = cs.map Char.toLower := by
        refine (ih htail List.suffix_rfl).eq_of_length_le ?_
        rw [List.length_map]
        exact length_le_lowerChars _ _
      by_cases hne : front = []
      · rw [hne, hall]
        exact List.suffix_cons _ _
      · have hfront : ∀ x ∈ front, x ∈ endingChars := fun x hx => he x (List.mem_append_left _ hx)
        rw [suffix_lowerChars_singleton hne hfront h, hall]
        exact List.suffix_rfl

/-- Such an ending is its own lower case. -/
theorem lowerChars_of_endingChars {e : List Char} (he : ∀ x ∈ e, x ∈ endingChars)
    (before : List Char) : lowerChars before e = e := by
  induction e generalizing before with
  | nil => rfl
  | cons c e ih =>
    obtain ⟨-, hascii, hlower⟩ := endingChars_spec c (he c List.mem_cons_self)
    have hsigma : c.toNat ≠ 0x3a3 := by omega
    have hdot : c.toNat ≠ 0x130 := by omega
    rw [lowerChars, ih fun x hx => he x (List.mem_cons_of_mem _ hx)]
    simp [hsigma, hdot, hlower]

/-- A text that ends like a declaration does so in lower case. -/
theorem suffix_lowerChars {e cs : List Char} (he : ∀ x ∈ e, x ∈ endingChars) (h : e <:+ cs)
    (before : List Char) : e <:+ lowerChars before cs := by
  induction cs generalizing before with
  | nil => simpa [lowerChars] using h
  | cons c cs ih =>
    rcases List.suffix_cons_iff.1 h with rfl | hrest
    · simp only [lowerChars_of_endingChars he, List.suffix_rfl]
    · rw [lowerChars]
      exact (ih hrest _).trans (List.suffix_append _ _)

namespace Path

/-- **How a path ends** does not depend on the case of letters, inside or outside of ASCII. -/
theorem endsWithAny_of_lowerCase_eq {endings : List String} {path other : String}
    (hchars : ∀ e ∈ endings, e.toList.Forall (· ∈ endingChars))
    (h : lowerCase path = lowerCase other)
    (hother : endsWithAny endings (lowerAscii other) = true) :
    endsWithAny endings (lowerAscii path) = true := by
  rw [endsWithAny_iff] at hother ⊢
  obtain ⟨e, he, hsuffix⟩ := hother
  have hchars : ∀ x ∈ e.toList, x ∈ endingChars := List.forall_iff_forall_mem.1 (hchars e he)
  have hlower : e.toList <:+ (lowerCase path).toList := by
    rw [h, ← lowerCase_lowerAscii, lowerCase, String.toList_ofList]
    exact suffix_lowerChars hchars hsuffix []
  rw [lowerCase, String.toList_ofList] at hlower
  refine ⟨e, he, ?_⟩
  rw [lowerAscii, String.toList_ofList]
  exact suffix_of_suffix_lowerChars hchars hlower

/-- **Which paths are declarations** does not depend on the case of letters, inside or outside of
ASCII. -/
theorem isDeclaration_of_lowerCase_eq {path other : String} (h : lowerCase path = lowerCase other)
    (hother : isDeclaration other = true) : isDeclaration path = true :=
  endsWithAny_of_lowerCase_eq (by decide) h hother

end Path

end ScriptHost
