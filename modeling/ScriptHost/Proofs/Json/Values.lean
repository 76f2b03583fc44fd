import ScriptHost.Proofs.Json.Texts
/-!
# Values that are read back

A value is written without blanks, so that what stands behind a number in it
ends the number. A whole number of 64 bits is read back as it is, which a number
with a fraction may not be, and an array or object is read back if it may be
entered where it stands.

- `Json.isWhole`: the numbers of a value are whole ones of 64 bits.
- `Json.Nested`: a value that is read where so many arrays and objects may be entered.
- `Reader.reads_items`: an array is read as the list of its items.
- `Reader.ReadsBack`: a value is read from what it is written with.
- `Reader.readsBack_valueWithin`: so is any value with such numbers that is not too deep.
- `Reader.reads_ofMap`, `Reader.reads_record`: so are maps and records.
-/

namespace ScriptHost

namespace Json

/-! ## Values with whole numbers -/

mutual
/-- Whether all numbers of a value are whole ones of 64 bits, with a sign or without. A zero behind
a sign is not read as a whole number. -/
def isWhole : Json → Bool
  | int n => decide (-0x8000000000000000 ≤ n) && decide (n ≤ 0xffffffffffffffff)
  | float _ => false
  | arr items => areWhole items
  | obj members => haveWhole members
  | _ => true
/-- Whether this is so for all values of a list. -/
def areWhole : List Json → Bool
  | [] => true
  | v :: vs => v.isWhole && areWhole vs
/-- Whether this is so for the values of all members. -/
def haveWhole : List (String × Json) → Bool
  | [] => true
  | (_, v) :: ms => v.isWhole && haveWhole ms
end

theorem areWhole_iff {items : List Json} :
    areWhole items = true ↔ ∀ v ∈ items, v.isWhole = true := by
  induction items with
  | nil => simp [areWhole]
  | cons v vs ih => rw [areWhole, Bool.and_eq_true, ih, List.forall_mem_cons]

theorem haveWhole_iff {members : List (String × Json)} :
    haveWhole members = true ↔ ∀ e ∈ members, e.2.isWhole = true := by
  induction members with
  | nil => simp [haveWhole]
  | cons e ms ih => rw [haveWhole, Bool.and_eq_true, ih, List.forall_mem_cons]

/-- A value whose arrays and objects stand in each other at most so deep, with the members of each
object in the order of their names. -/
inductive Nested : Nat → Json → Prop where
  | null {n : Nat} : Nested n null
  | bool {n : Nat} {b : Bool} : Nested n (bool b)
  | int {n : Nat} {i : Int} : Nested n (int i)
  | float {n : Nat} {x : Float} : Nested n (float x)
  | str {n : Nat} {s : String} : Nested n (str s)
  | arr {n : Nat} {items : List Json} : (∀ v ∈ items, Nested n v) → Nested (n + 1) (arr items)
  | obj {n : Nat} {members : List (String × Json)} :
      members.Pairwise (fun a b => a.1 < b.1) → (∀ e ∈ members, Nested n e.2) →
      Nested (n + 1) (obj members)

/-! ## Characters of values -/

/-- The characters of a value. -/
def chars (v : Json) : List Char := v.render.toList

theorem renderItems_eq (items : List Json) : renderItems items = items.map render := by
  induction items with
  | nil => rfl
  | cons v vs ih => rw [renderItems, List.map_cons, ih]

theorem renderMembers_eq (members : List (String × Json)) :
    renderMembers members = members.map fun e => renderText e.1 ++ ":" ++ e.2.render := by
  induction members with
  | nil => rfl
  | cons e ms ih => rw [renderMembers, List.map_cons, ih]

end Json

namespace Reader

/-- Items behind others are each written behind a comma. -/
def laterItems {α : Type} (value : α → List Char) (items : List α) : List Char :=
  items.flatMap fun a => ',' :: value a

/-- The items of an array, the first one without a comma. -/
def itemsChars {α : Type} (value : α → List Char) : List α → List Char
  | [] => []
  | a :: items => value a ++ laterItems value items

theorem intercalate_eq_itemsChars {α : Type} (value : α → List Char) (items : List α) :
    [','].intercalate (items.map value) = itemsChars value items := by
  cases items with
  | nil => rfl
  | cons a items =>
    induction items generalizing a with
    | nil => simp [itemsChars, laterItems]
    | cons b items ih =>
      have hmore := ih b
      rw [List.map_cons] at hmore
      rw [List.map_cons, List.map_cons, List.intercalate_cons_cons, hmore]
      simp [itemsChars, laterItems]

/-- Without blanks, the members of an object are written as the items of an array are. -/
theorem membersChars_nil_eq_itemsChars {α : Type} (value : α → List Char)
    (members : List (String × α)) :
    membersChars [] value members = itemsChars (memberChars value) members := by
  cases members <;> rfl

end Reader

namespace Json

theorem chars_arr (items : List Json) :
    (arr items).chars = '[' :: (Reader.itemsChars chars items ++ [']']) := by
  have hitems : (",".intercalate (renderItems items)).toList = Reader.itemsChars chars items := by
    rw [renderItems_eq, String.toList_intercalate, List.map_map]
    exact Reader.intercalate_eq_itemsChars chars items
  rw [chars, render, String.toList_append, String.toList_append, hitems]
  rfl

theorem chars_obj (members : List (String × Json)) :
    (obj members).chars = '\x7b' :: (Reader.membersChars [] chars members ++ ['\x7d']) := by
  have hmembers : (",".intercalate (renderMembers members)).toList =
      Reader.membersChars [] chars members := by
    have hmember (e : String × Json) : (renderText e.1 ++ ":" ++ e.2.render).toList =
        Reader.memberChars chars e := by
      simp [Reader.memberChars, chars]
    rw [renderMembers_eq, String.toList_intercalate, List.map_map,
      Reader.membersChars_nil_eq_itemsChars, ← Reader.intercalate_eq_itemsChars]
    exact congrArg _ (List.map_congr_left fun e _ => hmember e)
  rw [chars, render, String.toList_append, String.toList_append, hmembers]
  rfl

end Json

namespace Reader

variable {α β : Type} {depth : Nat} {rest : List Char}

/-! ## Numbers -/

/-- Digits that stand for a number that is not too great are all taken. -/
theorem absorb_eq {ds : List Char} {n : Nat} (h : Nat.ofDigitChars 10 ds n ≤ exactLimit) :
    absorb n ds = (Nat.ofDigitChars 10 ds n, []) := by
  have hle (ds : List Char) (n : Nat) : n ≤ Nat.ofDigitChars 10 ds n := by
    induction ds generalizing n with
    | nil => exact Nat.le_refl n
    | cons d ds ih =>
      rw [Nat.ofDigitChars_cons]
      exact Nat.le_trans (by omega) (ih _)
  induction ds generalizing n with
  | nil => rfl
  | cons d ds ih =>
    rw [Nat.ofDigitChars_cons, Nat.mul_comm 10 n] at h
    have hnext : ¬ n * 10 + digitValue d > exactLimit :=
      Nat.not_lt.2 (Nat.le_trans (hle ds _) h)
    rw [absorb, if_neg hnext, Nat.ofDigitChars_cons, Nat.mul_comm 10 n]
    exact ih h

/-- A number other than zero is written without a zero in front. -/
theorem head?_toDigits {n : Nat} (h : n ≠ 0) : (Nat.toDigits 10 n).head? ≠ some '0' := by
  -- the first digit is that of a tenth of the number, which is not zero if there is another one
  induction n using Nat.strongRecOn with
  | ind n ih =>
    by_cases hsmall : n < 10
    · rw [Nat.toDigits_of_lt_base hsmall]
      simpa [Nat.digitChar_eq_zero] using h
    · rw [Nat.toDigits_of_base_le (by decide) (by omega),
        List.head?_append_of_ne_nil _ Nat.toDigits_ne_nil]
      exact ih (n / 10) (by omega) (by omega)

/-- Digits are taken up to what ends the number. -/
theorem reads_digits {ds : List Char} (hds : ∀ d ∈ ds, d.isDigit = true) (hrest : EndsNumber rest) :
    digits.Reads depth (ds ++ rest) ds rest := by
  have htake : (ds ++ rest).takeWhile Char.isDigit = ds := by
    rw [List.takeWhile_append_of_pos hds]
    cases rest with
    | nil => rw [List.takeWhile_nil, List.append_nil]
    | cons c rest =>
      have hc : c.isDigit = false := (hrest c rfl).1
      rw [List.takeWhile_cons_of_neg (by simp [hc]), List.append_nil]
  refine reads_get fun place => ?_
  simp only [htake]
  exact reads_takeAll.bind (reads_pure ds)

/-- What ends a number is not taken for a fraction or a power of ten. -/
theorem EndsNumber.reads_whole {fraction power power' whole : Reader β} {b : β}
    (hrest : EndsNumber rest) (hwhole : whole.Reads depth rest b rest) :
    Reads (do
      match ← peek with
      | some '.' => fraction
      | some 'e' => power
      | some 'E' => power'
      | _ => whole) depth rest b rest := by
  refine reads_peek.bind ?_
  split
  · next h => exact absurd rfl (hrest _ h).2.1
  · next h => exact absurd rfl (hrest _ h).2.2.1
  · next h => exact absurd rfl (hrest _ h).2.2.2
  · exact hwhole

theorem isDigit_toDigits (n : Nat) : ∀ d ∈ Nat.toDigits 10 n, d.isDigit = true :=
  fun _ hd => Nat.isDigit_of_mem_toDigits (by decide) (by decide) hd

theorem exists_toDigits_eq_cons (n : Nat) : ∃ d ds, Nat.toDigits 10 n = d :: ds :=
  List.exists_cons_of_ne_nil Nat.toDigits_ne_nil

/-- What digits stand for is given with its sign, if it is not too great for one. -/
theorem reads_signed {n : Nat} {positive : Bool}
    (hsign : positive = false → 0 < n ∧ n ≤ 0x8000000000000000) :
    Reads (if positive = true then (pure (Json.int n) : Reader Json)
      else if (decide (0 < n) && decide (n ≤ 0x8000000000000000)) = true then
        pure (Json.int (-n))
      else pure (Json.float (-n.toUInt64.toFloat))) depth rest
        (.int (if positive then n else -n)) rest := by
  cases positive with
  | true => exact reads_pure _
  | false =>
    obtain ⟨hpos, hle⟩ := hsign rfl
    simp only [hpos, hle, decide_true, Bool.and_true, Bool.false_eq_true, ↓reduceIte]
    exact reads_pure _

/-- A zero in front is taken alone: no other digit may come behind it. -/
theorem reads_zero (hrest : EndsNumber rest) :
    (unsigned true).Reads depth ('0' :: rest) (.int 0) rest := by
  have hnodigit : (rest.head?.map Char.isDigit).getD false = false := by
    cases hc : rest.head? with
    | none => rfl
    | some c => exact (hrest c hc).1
  have hnone : digits.Reads depth ([] ++ rest) [] rest := reads_digits (List.forall_mem_nil _) hrest
  refine reads_peek.bind ?_
  simp only [List.head?_cons, Char.isDigit]
  refine reads_take.bind (reads_peek.bind ?_)
  simp only [hnodigit, Bool.false_eq_true, ↓reduceIte]
  exact hnone.bind (hrest.reads_whole (reads_pure _))

/-- A whole number is read from its digits, behind a sign if it is not too great for one. -/
theorem reads_unsigned {n : Nat} (hn : n ≤ exactLimit) (hrest : EndsNumber rest) (positive : Bool)
    (hsign : positive = false → 0 < n ∧ n ≤ 0x8000000000000000) :
    (unsigned positive).Reads depth (Nat.toDigits 10 n ++ rest)
      (.int (if positive then n else -n)) rest := by
  by_cases hzero : n = 0
  · subst hzero
    have hpositive : positive = true := by
      rw [← Bool.not_eq_false]
      exact fun h => Nat.lt_irrefl 0 (hsign h).1
    rw [hpositive]
    exact reads_zero hrest
  · obtain ⟨d, ds, hds⟩ := exists_toDigits_eq_cons n
    have hd : d.isDigit = true := isDigit_toDigits n d (by simp [hds])
    have hfirst : (d == '0') = false := by
      have hhead := head?_toDigits hzero
      rw [hds] at hhead
      simpa using hhead
    have habsorb : absorb 0 (Nat.toDigits 10 n) = (n, []) := by
      rw [absorb_eq (by rwa [Nat.ofDigitChars_ten_toDigits]), Nat.ofDigitChars_ten_toDigits]
    refine reads_peek.bind ?_
    simp only [hds, List.cons_append, List.head?_cons, hd, hfirst, Bool.false_eq_true, ↓reduceIte]
    rw [← List.cons_append, ← hds]
    refine (reads_digits (isDigit_toDigits n) hrest).bind ?_
    simp only [habsorb]
    exact hrest.reads_whole (reads_signed hsign)

theorem chars_ofNat (n : Nat) : (Json.int n).chars = Nat.toDigits 10 n := by
  show n.repr.toList = _
  rw [Nat.repr_eq_ofList_toDigits, String.toList_ofList]

theorem chars_negSucc (n : Nat) :
    (Json.int (.negSucc n)).chars = '-' :: Nat.toDigits 10 (n + 1) := by
  show ("-" ++ (n + 1).repr).toList = _
  rw [String.toList_append, Nat.repr_eq_ofList_toDigits]
  simp

/-- **A whole number of 64 bits is read as it was written.** -/
theorem reads_number {n : Int} (hwhole : (Json.int n).isWhole = true) (hrest : EndsNumber rest) :
    number.Reads depth ((Json.int n).chars ++ rest) (.int n) rest := by
  have hrange : -0x8000000000000000 ≤ n ∧ n ≤ 0xffffffffffffffff := by
    simpa [Json.isWhole] using hwhole
  cases n with
  | ofNat n =>
    have hn : n ≤ exactLimit := Int.ofNat_le.1 hrange.2
    have hsign : ((Nat.toDigits 10 n ++ rest).head? == some '-') = false := by
      obtain ⟨d, ds, hds⟩ := exists_toDigits_eq_cons n
      have hd : d.isDigit = true := isDigit_toDigits n d (by simp [hds])
      rw [hds, List.cons_append, List.head?_cons, beq_eq_false_iff_ne]
      rintro ⟨⟩
      cases hd
    rw [Int.ofNat_eq_natCast, chars_ofNat]
    refine reads_peek.bind ?_
    simp only [hsign, Bool.false_eq_true, ↓reduceIte]
    exact reads_unsigned hn hrest true nofun
  | negSucc n =>
    have hn : n + 1 ≤ 0x8000000000000000 := by omega
    have hunsigned : (unsigned false).Reads depth (Nat.toDigits 10 (n + 1) ++ rest)
        (.int (.negSucc n)) rest :=
      reads_unsigned (Nat.le_trans hn (by decide)) hrest false fun _ => ⟨Nat.succ_pos n, hn⟩
    rw [chars_negSucc]
    exact reads_peek.bind (reads_take.bind hunsigned)

/-! ## Values without parts -/

/-- A word is read as the value that it stands for. -/
theorem reads_word (cs : List Char) : (word cs).Reads depth (cs ++ rest) () rest := by
  induction cs with
  | nil => exact reads_pure ()
  | cons c cs ih =>
    refine reads_peek.bind ?_
    simp only [List.cons_append, List.head?_cons, beq_self_eq_true, ↓reduceIte]
    exact reads_take.bind ih

/-- A number is told by its first character. -/
theorem scalar_eq_number {c : Char} (h : (c == '-' || c.isDigit) = true) : scalar c = number := by
  unfold scalar
  split
  case h_5 => rw [if_pos h]
  all_goals cases h

/-- A whole number starts with a digit or a sign. -/
theorem exists_chars_int (n : Int) :
    ∃ c cs, (Json.int n).chars = c :: cs ∧ (c == '-' || c.isDigit) = true := by
  cases n with
  | ofNat n =>
    obtain ⟨d, ds, hds⟩ := exists_toDigits_eq_cons n
    have hd : d.isDigit = true := isDigit_toDigits n d (by simp [hds])
    refine ⟨d, ds, (chars_ofNat n).trans hds, ?_⟩
    rw [hd, Bool.or_true]
  | negSucc n => exact ⟨'-', _, chars_negSucc n, rfl⟩

/-! ## Arrays -/

/-- Characters start with one that is neither a blank nor the end of an array. -/
def StartsValue (cs : List Char) : Prop :=
  ∃ c behind, cs = c :: behind ∧ isBlank c = false ∧ c ≠ ']'

/-- A value is read from what it is written with, if nothing behind it would be taken for a part of
a number. -/
structure ReadsBack (r : Reader α) (value : α → List Char) (depth : Nat) (a : α) : Prop where
  starts : StartsValue (value a)
  reads : ∀ rest, EndsNumber rest → r.Reads depth (value a ++ rest) a rest

/-- An array does not go on at its end. -/
theorem reads_hasItem_end (first : Bool) :
    (hasItem first).Reads depth (']' :: rest) false (']' :: rest) :=
  (reads_next (by rintro c ⟨⟩; rfl)).bind (reads_pure false)

section Items

variable {cs : List Char} (hcs : StartsValue cs)
include hcs

/-- An array goes on with its first item. -/
theorem reads_hasItem_first : (hasItem true).Reads depth (cs ++ rest) true (cs ++ rest) := by
  obtain ⟨c, behind, rfl, hblank, hend⟩ := hcs
  refine (reads_next (by rintro _ ⟨⟩; exact hblank)).bind ?_
  split
  · next h => cases h
  · next h => exact absurd (Option.some.inj h) hend
  · exact reads_pure true

/-- An array goes on with another item behind a comma. -/
theorem reads_hasItem_later :
    (hasItem false).Reads depth (',' :: (cs ++ rest)) true (cs ++ rest) := by
  have hcomma : skipBlanks.Reads depth (',' :: (cs ++ rest)) (some ',') (',' :: (cs ++ rest)) :=
    reads_next (by rintro _ ⟨⟩; rfl)
  obtain ⟨c, behind, rfl, hblank, hend⟩ := hcs
  refine hcomma.bind (reads_take.bind ((reads_next (by rintro _ ⟨⟩; exact hblank)).bind ?_))
  split
  · next h => cases h
  · next h => exact absurd (Option.some.inj h) hend
  · exact reads_pure true

end Items

section Arrays

variable {r : Reader α} {value : α → List Char} {after : List Char}

/-- The end of an array ends a number, as a comma does. -/
theorem endsNumber_laterItems (items : List α) :
    EndsNumber (laterItems value items ++ ']' :: rest) := by
  cases items <;> exact endsNumber_cons (by decide)

/-- An item is read and put in front of those that were read before. -/
theorem ReadsBack.item {a : α} (ha : r.ReadsBack value depth a) {fuel : Nat} {first : Bool}
    {front : List Char} {found last : List α}
    (hhas : ∀ behind, (hasItem first).Reads depth (front ++ (value a ++ behind)) true
      (value a ++ behind)) (hrest : EndsNumber rest)
    (hmore : (itemsFrom (fun found => do return (← r) :: found) fuel false (a :: found)).Reads depth
      rest last after) :
    (itemsFrom (fun found => do return (← r) :: found) (fuel + 1) first found).Reads depth
      (front ++ (value a ++ rest)) last after :=
  (hhas rest).bind (((ha.reads rest hrest).bind (reads_pure (a :: found))).bind hmore)

/-- Items behind others are read one after the other up to the end of their array. -/
theorem reads_laterItems {items : List α} (hitems : ∀ a ∈ items, r.ReadsBack value depth a)
    {fuel : Nat} (hfuel : items.length < fuel) (found : List α) (rest : List Char) :
    (itemsFrom (fun found => do return (← r) :: found) fuel false found).Reads depth
      (laterItems value items ++ ']' :: rest) (items.reverse ++ found) (']' :: rest) := by
  induction items generalizing fuel found with
  | nil =>
    obtain ⟨fuel, rfl⟩ := Nat.exists_eq_succ_of_ne_zero (Nat.ne_of_gt hfuel)
    exact (reads_hasItem_end false).bind (reads_pure _)
  | cons a items ih =>
    obtain ⟨fuel, rfl⟩ := Nat.exists_eq_succ_of_ne_zero (Nat.ne_of_gt (Nat.zero_lt_of_lt hfuel))
    obtain ⟨ha, hitems⟩ := List.forall_mem_cons.1 hitems
    have hmore := ih hitems (Nat.lt_of_succ_lt_succ hfuel) (a :: found)
    have hhas (behind : List Char) : (hasItem false).Reads depth ([','] ++ (value a ++ behind)) true
        (value a ++ behind) := by
      show (hasItem false).Reads depth (',' :: (value a ++ behind)) true _
      exact reads_hasItem_later ha.starts
    have hitem := ha.item hhas (endsNumber_laterItems items) hmore
    simpa [laterItems] using hitem

/-- All items of an array are read one after the other up to its end. -/
theorem reads_itemsFrom {items : List α} (hitems : ∀ a ∈ items, r.ReadsBack value depth a)
    {fuel : Nat} (hfuel : items.length < fuel) (rest : List Char) :
    (itemsFrom (fun found => do return (← r) :: found) fuel true []).Reads depth
      (itemsChars value items ++ ']' :: rest) items.reverse (']' :: rest) := by
  obtain ⟨fuel, rfl⟩ := Nat.exists_eq_succ_of_ne_zero (Nat.ne_of_gt (Nat.zero_lt_of_lt hfuel))
  cases items with
  | nil => exact (reads_hasItem_end true).bind (reads_pure [])
  | cons a items =>
    obtain ⟨ha, hitems⟩ := List.forall_mem_cons.1 hitems
    have hmore := reads_laterItems hitems (Nat.lt_of_succ_lt_succ hfuel) [a] rest
    have hhas (behind : List Char) : (hasItem true).Reads depth ([] ++ (value a ++ behind)) true
        (value a ++ behind) := by
      show (hasItem true).Reads depth (value a ++ behind) true _
      exact reads_hasItem_first ha.starts
    have hitem := ha.item hhas (endsNumber_laterItems items) hmore
    simpa [itemsChars] using hitem

theorem length_le_itemsChars {items : List α} (hitems : ∀ a ∈ items, StartsValue (value a)) :
    items.length ≤ (itemsChars value items).length := by
  have hlater (items : List α) : items.length ≤ (laterItems value items).length := by
    induction items with
    | nil => exact Nat.le_refl _
    | cons a items ih =>
      rw [laterItems, List.flatMap_cons, List.length_append, List.length_cons, List.length_cons,
        Nat.add_comm]
      exact Nat.add_le_add (Nat.le_add_left 1 _) ih
  cases items with
  | nil => exact Nat.le_refl _
  | cons a items =>
    obtain ⟨c, behind, hchars, -⟩ := hitems a List.mem_cons_self
    have hmore := hlater items
    rw [itemsChars, hchars, List.length_append, List.length_cons, List.length_cons]
    omega

/-- **An array is read as the list of its items**, the last one first. -/
theorem reads_items {items : List α} (hitems : ∀ a ∈ items, r.ReadsBack value (depth + 1) a) :
    (Reader.items [] fun found => do return (← r) :: found).Reads (depth + 2)
      ('[' :: (itemsChars value items ++ ']' :: rest)) items.reverse rest := by
  have hfuel : items.length < ('[' :: (itemsChars value items ++ ']' :: rest)).length := by
    have hle := length_le_itemsChars fun a ha => (hitems a ha).starts
    simp only [List.length_cons, List.length_append]
    omega
  have hend : endArray.Reads (depth + 2) (']' :: rest) () rest :=
    (reads_next (by rintro c ⟨⟩; rfl)).bind reads_take
  refine reads_get fun place => ?_
  exact (((reads_itemsFrom hitems hfuel rest).enter '[').ended hend).placed

end Arrays

/-! ## Any value -/

theorem StartsValue.cons {c : Char} {cs : List Char} (hblank : isBlank c = false) (hend : c ≠ ']') :
    StartsValue (c :: cs) := ⟨c, cs, rfl, hblank, hend⟩

/-- Members whose names increase are put into an object in their order. -/
theorem foldl_insertEntry {members : List (String × α)}
    (h : members.Pairwise (fun a b => a.1 < b.1)) :
    members.foldl (fun found e => SortedMap.insertEntry e.1 e.2 found) [] = members := by
  have hfold (members : List (String × α)) (m : SortedMap α) :
      (members.foldl (fun (m : SortedMap α) e => m.insert e.1 e.2) m).entries =
        members.foldl (fun found e => SortedMap.insertEntry e.1 e.2 found) m.entries := by
    induction members generalizing m with
    | nil => rfl
    | cons e members ih => exact ih _
  exact (hfold members SortedMap.empty).symm.trans (SortedMap.entries_ofList h)

/-- A character that only values without parts start with. -/
def StartsScalar (c : Char) : Prop :=
  isBlank c = false ∧ c ≠ ']' ∧ c ≠ '[' ∧ c ≠ '\x7b'

instance (c : Char) : Decidable (StartsScalar c) :=
  inferInstanceAs (Decidable (_ ∧ _ ∧ _ ∧ _))

theorem startsScalar_of_number {c : Char} (h : (c == '-' || c.isDigit) = true) :
    StartsScalar c := by
  have hne (d : Char) (hd : (d == '-' || d.isDigit) = false) : c ≠ d := by
    rintro rfl
    cases h.symm.trans hd
  have hblank : isBlank c = false := by
    simp [isBlank, hne ' ' rfl, hne '\n' rfl, hne '\t' rfl, hne '\r' rfl]
  exact ⟨hblank, hne ']' rfl, hne '[' rfl, hne '\x7b' rfl⟩

section Kinds

variable {fuel : Nat}

/-- A value without parts is told by its first character. -/
theorem readsBack_scalar {v : Json} {c : Char} {cs : List Char} (hchars : v.chars = c :: cs)
    (hc : StartsScalar c)
    (h : ∀ rest, EndsNumber rest → (scalar c).Reads depth (c :: (cs ++ rest)) v rest) :
    (valueWithin (fuel + 1)).ReadsBack Json.chars depth v := by
  obtain ⟨hblank, hend, harr, hobj⟩ := hc
  refine ⟨hchars ▸ .cons hblank hend, fun rest hrest => ?_⟩
  rw [hchars]
  refine (reads_start hblank).bind ?_
  split
  · exact absurd rfl harr
  · exact absurd rfl hobj
  · exact h rest hrest

theorem readsBack_null : (valueWithin (fuel + 1)).ReadsBack Json.chars depth .null :=
  readsBack_scalar rfl (by decide) fun _ _ => reads_take.bind ((reads_word _).bind (reads_pure _))

theorem readsBack_bool (b : Bool) :
    (valueWithin (fuel + 1)).ReadsBack Json.chars depth (.bool b) := by
  cases b <;> exact readsBack_scalar rfl (by decide) fun _ _ =>
    reads_take.bind ((reads_word _).bind (reads_pure _))

theorem readsBack_int {n : Int} (hwhole : (Json.int n).isWhole = true) :
    (valueWithin (fuel + 1)).ReadsBack Json.chars depth (.int n) := by
  obtain ⟨c, cs, hchars, hnumber⟩ := exists_chars_int n
  refine readsBack_scalar hchars (startsScalar_of_number hnumber) fun rest hrest => ?_
  rw [scalar_eq_number hnumber, ← List.cons_append, ← hchars]
  exact reads_number hwhole hrest

theorem readsBack_str (s : String) :
    (valueWithin (fuel + 1)).ReadsBack Json.chars depth (.str s) := by
  -- a text ends with its quote, whatever comes behind
  refine readsBack_scalar (toList_renderText s) (by decide) fun rest _ => ?_
  rw [List.append_assoc]
  exact reads_take.bind ((reads_textTail s).bind (reads_pure _))

theorem readsBack_arr {items : List Json}
    (hitems : ∀ v ∈ items, (valueWithin fuel).ReadsBack Json.chars (depth + 1) v) :
    (valueWithin (fuel + 1)).ReadsBack Json.chars (depth + 2) (.arr items) := by
  refine ⟨Json.chars_arr items ▸ .cons rfl (by decide), fun rest _ => ?_⟩
  rw [Json.chars_arr, List.cons_append, List.append_assoc]
  refine (reads_start rfl).bind ((reads_items hitems).bind ?_)
  rw [List.reverse_reverse]
  exact reads_pure _

theorem readsBack_obj {members : List (String × Json)}
    (hsorted : members.Pairwise (fun a b => a.1 < b.1))
    (hmembers : ∀ e ∈ members, (valueWithin fuel).ReadsBack Json.chars (depth + 1) e.2) :
    (valueWithin (fuel + 1)).ReadsBack Json.chars (depth + 2) (.obj members) := by
  have hmember (e : String × Json) (he : e ∈ members) (found : List (String × Json))
      (rest : List Char) (hrest : EndsNumber rest) :
      (do colon; return SortedMap.insertEntry e.1 (← valueWithin fuel) found).Reads (depth + 1)
        (':' :: (e.2.chars ++ rest)) (SortedMap.insertEntry e.1 e.2 found) rest :=
    reads_colon.bind (((hmembers e he).reads rest hrest).bind (reads_pure _))
  have hall : TakesUp
      (fun found name => do colon; return SortedMap.insertEntry name (← valueWithin fuel) found)
      Json.chars (depth + 1) [] members
      (members.foldl (fun found e => SortedMap.insertEntry e.1 e.2 found) []) :=
    takesUp_foldl members hmember []
  rw [foldl_insertEntry hsorted] at hall
  refine ⟨Json.chars_obj members ▸ .cons rfl (by decide), fun rest _ => ?_⟩
  have hread := reads_members (fun found => (return Json.obj found : Reader Json))
    (List.forall_mem_nil _) (List.forall_mem_nil _) hall rest (reads_pure (Json.obj members))
  rw [Json.chars_obj, List.cons_append, List.append_assoc]
  exact (reads_start rfl).bind hread

end Kinds

/-- **A value is read as it was written**, if its numbers are whole ones of 64 bits. -/
theorem readsBack_valueWithin {n : Nat} {v : Json} (hv : v.Nested n) (hwhole : v.isWhole = true)
    {fuel : Nat} (hfuel : n < fuel) (hdepth : n < depth) :
    (valueWithin fuel).ReadsBack Json.chars depth v := by
  obtain ⟨fuel, rfl⟩ := Nat.exists_eq_succ_of_ne_zero (Nat.ne_of_gt (Nat.zero_lt_of_lt hfuel))
  -- each array or object takes one from the fuel and one from what may be entered
  induction hv generalizing fuel depth with
  | null => exact readsBack_null
  | bool => exact readsBack_bool _
  | int => exact readsBack_int hwhole
  | float => cases hwhole
  | str => exact readsBack_str _
  | arr hitems ih =>
    obtain ⟨depth, rfl⟩ : ∃ smaller, depth = smaller + 2 := ⟨depth - 2, by omega⟩
    obtain ⟨fuel, rfl⟩ : ∃ smaller, fuel = smaller + 1 := ⟨fuel - 1, by omega⟩
    refine readsBack_arr fun v hv => ?_
    exact ih v hv (Json.areWhole_iff.1 hwhole v hv) (by omega) fuel (by omega)
  | obj hsorted hmembers ih =>
    obtain ⟨depth, rfl⟩ : ∃ smaller, depth = smaller + 2 := ⟨depth - 2, by omega⟩
    obtain ⟨fuel, rfl⟩ : ∃ smaller, fuel = smaller + 1 := ⟨fuel - 1, by omega⟩
    refine readsBack_obj hsorted fun e he => ?_
    exact ih e he (Json.haveWhole_iff.1 hwhole e he) (by omega) fuel (by omega)

/-- What a text is read as that a value is written with. -/
theorem run_render {r : Reader α} {v : Json} {a : α}
    (h : r.Reads depthLimit (v.chars ++ []) a []) : r.run v.render = .ok a := by
  rw [List.append_nil] at h
  exact run_eq_ok h

/-! ## Values of one type -/

section OneType

theorem readsBack_text (s : String) : text.ReadsBack (fun s => (Json.str s).chars) depth s := by
  refine ⟨?_, fun rest _ => reads_text (List.forall_mem_nil _) s⟩
  show StartsValue (Json.renderText s).toList
  rw [toList_renderText]
  exact .cons rfl (by decide)

theorem reads_bool (b : Bool) : bool.Reads depth ((Json.bool b).chars ++ rest) b rest := by
  cases b with
  | false =>
    have hword : (scalar 'f').Reads depth ((Json.bool false).chars ++ rest) (.bool false) rest :=
      reads_take.bind ((reads_word _).bind (reads_pure _))
    exact (reads_start rfl).bind (hword.bind (reads_pure false))
  | true =>
    have hword : (scalar 't').Reads depth ((Json.bool true).chars ++ rest) (.bool true) rest :=
      reads_take.bind ((reads_word _).bind (reads_pure _))
    exact (reads_start rfl).bind (hword.bind (reads_pure true))

/-- A value is read where there might be nothing. -/
theorem reads_optional {r : Reader α} {a : α} {c : Char} {behind after : List Char}
    (hblank : isBlank c = false) (hnull : c ≠ 'n') (hr : r.Reads depth (c :: behind) a after) :
    (optional r).Reads depth (c :: behind) (some a) after := by
  refine (reads_next (by rintro _ ⟨⟩; exact hblank)).bind ?_
  rw [if_neg (by simpa using hnull)]
  exact hr.bind (reads_pure _)

/-- Nothing is read where there is none. -/
theorem reads_optional_null {r : Reader α} :
    (optional r).Reads depth (Json.null.chars ++ rest) none rest := by
  have hword : (scalar 'n').Reads depth (Json.null.chars ++ rest) .null rest :=
    reads_take.bind ((reads_word _).bind (reads_pure _))
  exact (reads_next (by rintro _ ⟨⟩; rfl)).bind (hword.bind (reads_pure none))

/-- A text is read where there might be nothing. -/
theorem reads_optional_text (s : String) :
    (optional text).Reads depth ((Json.str s).chars ++ rest) (some s) rest := by
  have hchars : (Json.str s).chars = '"' :: (written s.toList ++ ['"']) := toList_renderText s
  have htext : text.Reads depth ((Json.str s).chars ++ rest) s rest :=
    reads_text (List.forall_mem_nil _) s
  rw [hchars] at htext ⊢
  exact reads_optional rfl (by decide) htext

/-- A natural number is read as it was written, if it is below the limit of its reader. -/
theorem reads_nat {name : String} {limit n : Nat} (hn : n < limit)
    (hwhole : (Json.nat n).isWhole = true) (hrest : EndsNumber rest) :
    (nat name limit).Reads depth ((Json.nat n).chars ++ rest) n rest := by
  obtain ⟨c, cs, hchars, hnumber⟩ := exists_chars_int n
  have hread : number.Reads depth ((Json.nat n).chars ++ rest) (.int n) rest :=
    reads_number hwhole hrest
  have hlimit : (n : Int) < limit := Int.ofNat_lt.2 hn
  rw [Json.nat, hchars, List.cons_append] at hread ⊢
  refine (reads_start (startsScalar_of_number hnumber).1).bind ?_
  rw [if_pos hnumber]
  refine (hread.bind ?_).placed
  simp only [Int.natCast_nonneg, hlimit, decide_true, Bool.and_true, if_true, Int.toNat_natCast]
  exact reads_pure n

/-- The characters of an array are those of its items. -/
theorem chars_ofList (f : α → Json) (l : List α) :
    (Json.ofList f l).chars = '[' :: (itemsChars (fun a => (f a).chars) l ++ [']']) := by
  have hitems : itemsChars Json.chars (l.map f) = itemsChars (fun a => (f a).chars) l := by
    rw [← intercalate_eq_itemsChars, ← intercalate_eq_itemsChars, List.map_map]
    rfl
  rw [Json.ofList, Json.chars_arr, hitems]

/-- The characters of an object are those of its members. -/
theorem chars_ofMap (f : α → Json) (m : SortedMap α) :
    (Json.ofMap f m).chars =
      '\x7b' :: (membersChars [] (fun a => (f a).chars) m.entries ++ ['\x7d']) := by
  have hmembers : membersChars [] Json.chars (m.mapValues f).entries =
      membersChars [] (fun a => (f a).chars) m.entries := by
    rw [membersChars_nil_eq_itemsChars, membersChars_nil_eq_itemsChars,
      ← intercalate_eq_itemsChars, ← intercalate_eq_itemsChars, SortedMap.mapValues, List.map_map]
    rfl
  rw [Json.ofMap, Json.chars_obj, hmembers]

/-- An array of values of one type is read as it was written. -/
theorem readsBack_array {r : Reader α} {f : α → Json} {l : List α}
    (hr : ∀ a ∈ l, r.ReadsBack (fun a => (f a).chars) (depth + 1) a) :
    (array r).ReadsBack (fun l => (Json.ofList f l).chars) (depth + 2) l := by
  refine ⟨chars_ofList f l ▸ .cons rfl (by decide), fun rest _ => ?_⟩
  rw [chars_ofList, List.cons_append, List.append_assoc]
  refine (reads_start rfl).bind ((reads_items hr).bind ?_)
  rw [List.reverse_reverse]
  exact reads_pure _

/-- A map of values of one type is read as it was written. -/
theorem reads_ofMap {r : Reader α} {f : α → Json} {m : SortedMap α}
    (hr : ∀ e ∈ m.entries, r.ReadsBack (fun a => (f a).chars) (depth + 1) e.2) :
    (mapOf r).Reads (depth + 2) ((Json.ofMap f m).chars ++ rest) m rest := by
  have hvalue (e : String × α) (he : e ∈ m.entries) (rest : List Char) (hrest : EndsNumber rest) :
      r.Reads (depth + 1) ((f e.2).chars ++ rest) e.2 rest := (hr e he).reads rest hrest
  have hnone : ∀ c ∈ ([] : List Char), isBlank c = true := List.forall_mem_nil _
  rw [chars_ofMap, List.cons_append, List.append_assoc]
  exact reads_mapOf hnone hnone m hvalue

end OneType

/-! ## Records -/

section Records

variable {σ : Type} {value : α → List Char}

/-- A member is read that a draft does not have yet. -/
theorem Draft.reads_read {d : Draft σ} {name : String} {r : Reader β} {b : β}
    {put : β → σ → σ} {cs : List Char} (hnew : name ∉ d.seen)
    (hr : r.Reads depth (cs ++ rest) b rest) :
    (d.read name r put).Reads depth (':' :: (cs ++ rest)) ⟨put b d.value, name :: d.seen⟩ rest := by
  have hseen : d.seen.contains name = false := by simpa using hnew
  rw [Draft.read, hseen]
  exact reads_colon.bind (hr.bind (reads_pure _))

/-- Members with different names are taken up one after the other, if what is known of a record
after some of them depends on their names alone. -/
theorem takesUp_record {member : Draft σ → String → Reader (Draft σ)} (known : List String → σ)
    {members : List (String × α)} (h : ∀ e ∈ members, ∀ seen, e.1 ∉ seen → ∀ rest,
      EndsNumber rest → (member ⟨known seen, seen⟩ e.1).Reads depth (':' :: (value e.2 ++ rest))
        ⟨known (e.1 :: seen), e.1 :: seen⟩ rest)
    (hnodup : (members.map (·.1)).Nodup) {seen : List String} (hnew : ∀ e ∈ members, e.1 ∉ seen) :
    TakesUp member value depth ⟨known seen, seen⟩ members
      ⟨known ((members.map (·.1)).reverse ++ seen), (members.map (·.1)).reverse ++ seen⟩ := by
  induction members generalizing seen with
  | nil => exact .nil
  | cons e members ih =>
    obtain ⟨hfirst, hmore⟩ := List.forall_mem_cons.1 h
    obtain ⟨hfirstNew, hmoreNew⟩ := List.forall_mem_cons.1 hnew
    obtain ⟨hnot, hrest⟩ := List.nodup_cons.1 hnodup
    have hbehind : ∀ e' ∈ members, e'.1 ∉ e.1 :: seen := by
      intro e' he'
      rw [List.mem_cons, not_or]
      exact ⟨fun heq => hnot (List.mem_map.2 ⟨e', he', heq⟩), hmoreNew e' he'⟩
    have htakes := ih hmore hrest hbehind
    rw [List.map_cons, List.reverse_cons, List.append_assoc, List.singleton_append]
    exact .cons (hfirst seen hfirstNew) htakes

/-- A record is read from an object as what its members add up to. -/
theorem reads_record {member : Draft σ → String → Reader (Draft σ)} {fromItems : Reader σ}
    {finish : σ → Reader β} (name : String) {start : σ} {members : List (String × Json)}
    {last : Draft σ} {b : β}
    (htakes : TakesUp member Json.chars (depth + 1) ⟨start, []⟩ members last)
    (hfinish : ∀ rest, (finish last.value).Reads (depth + 1) rest b rest) :
    (record name start member fromItems finish).Reads (depth + 2)
      ((Json.obj members).chars ++ rest) b rest := by
  have hnone : ∀ c ∈ ([] : List Char), isBlank c = true := List.forall_mem_nil _
  have hread := reads_members (fun d : Draft σ => finish d.value) hnone hnone htakes rest
    (hfinish _)
  rw [Json.chars_obj, List.cons_append, List.append_assoc]
  exact (reads_start rfl).bind hread

end Records

end Reader

end ScriptHost
