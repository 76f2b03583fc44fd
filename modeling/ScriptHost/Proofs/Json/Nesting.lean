import Mathlib
import ScriptHost.Proofs.Json.Refines
import ScriptHost.Proofs.Json.Values
/-!
# How deep values are nested

A reader keeps count of how many more arrays and objects may be entered, and has
the same count when it has left one again. So a value is nested at most as deep
as there may be arrays and objects where it stands, and is not too deep for
where it is read again.

The triples say that a reader leaves the count as it is, if it reads anything,
and what is so of what it reads.

- `Reader.triple_iff`: what a triple says of a reader.
- `Reader.members_depth`, `Reader.record_depth`: what each member keeps is so of an object.
- `Reader.valueWithin_depth`: how deep a value is nested.
-/

namespace ScriptHost

open Std.Do

set_option mvcgen.warning false

attribute [grind ←] Json.Nested.null Json.Nested.bool Json.Nested.int Json.Nested.float
  Json.Nested.str

namespace Reader

variable {α β σ : Type} {d : Nat}

/-- A triple says what is so wherever a reader reads something. -/
theorem triple_iff {r : Reader α} {P : Cursor → Prop} {Q : α → Cursor → Prop} :
    ⦃fun c => ⌜P c⌝⦄ r ⦃⇓? a c => ⌜Q a c⌝⦄ ↔ ∀ c, P c → ∀ a c', r c = .ok a c' → Q a c' := by
  have hwp (c : Cursor) :
      ((wp⟦r⟧ (⇓? a c => ⌜Q a c⌝)) c).down ↔ ∀ a c', r c = .ok a c' → Q a c' := by
    simp only [wp, PredTrans.apply, EStateM.run]
    cases r c with
    | ok a c' => simp
    | error e c' => simp [ExceptConds.true]
  exact ⟨fun h c hc => (hwp c).1 (h c hc), fun h c hc => (hwp c).2 (h c hc)⟩

/-! ## Faults -/

@[spec] theorem failNext_spec (fault : JsonFault) :
    ⦃⌜True⌝⦄ (failNext fault : Reader α) ⦃⇓? _ _ => ⌜False⌝⦄ := by
  mvcgen [failNext]

@[spec] theorem failHere_spec (fault : JsonFault) :
    ⦃⌜True⌝⦄ (failHere fault : Reader α) ⦃⇓? _ _ => ⌜False⌝⦄ := by
  mvcgen [failHere]

@[spec] theorem refuse_spec (text : String) :
    ⦃⌜True⌝⦄ (refuse text : Reader α) ⦃⇓? _ _ => ⌜False⌝⦄ := by
  mvcgen [refuse]

@[spec] theorem refuseType_spec (expected : String) :
    ⦃⌜True⌝⦄ (refuseType expected : Reader α) ⦃⇓? _ _ => ⌜False⌝⦄ := by
  show ⦃fun _ => ⌜True⌝⦄ (refuseType expected : Reader α) ⦃⇓? _ _ => ⌜False⌝⦄
  rw [triple_iff]
  intro c _ a c' hr
  exact fails_refuseType expected c a c' hr

/-! ## Characters -/

@[spec] theorem peek_depth : ⦃fun c => ⌜c.depth = d⌝⦄ peek ⦃⇓? _ c => ⌜c.depth = d⌝⦄ := by
  mvcgen [peek]

@[spec] theorem take_depth : ⦃fun c => ⌜c.depth = d⌝⦄ take ⦃⇓? _ c => ⌜c.depth = d⌝⦄ := by
  mvcgen [take] with grind

@[spec] theorem takeAll_depth (count : Nat) :
    ⦃fun c => ⌜c.depth = d⌝⦄ takeAll count ⦃⇓? _ c => ⌜c.depth = d⌝⦄ := by
  mvcgen [takeAll]
  case inv1 => exact ⇓? _ c => ⌜c.depth = d⌝
  all_goals simp_all

@[spec] theorem skipBlanks_depth :
    ⦃fun c => ⌜c.depth = d⌝⦄ skipBlanks ⦃⇓? _ c => ⌜c.depth = d⌝⦄ := by
  mvcgen [skipBlanks] with grind

@[spec] theorem word_depth (cs : List Char) :
    ⦃fun c => ⌜c.depth = d⌝⦄ word cs ⦃⇓? _ c => ⌜c.depth = d⌝⦄ := by
  induction cs with
  | nil => mvcgen [word]
  | cons x cs ih => mvcgen [word, ih] with grind

/-! ## Numbers -/

@[spec] theorem digits_depth : ⦃fun c => ⌜c.depth = d⌝⦄ digits ⦃⇓? _ c => ⌜c.depth = d⌝⦄ := by
  mvcgen [digits] with grind

@[spec] theorem toFloat_depth (positive : Bool) (number : Nat) (power : Int) :
    ⦃fun c => ⌜c.depth = d⌝⦄ toFloat positive number power ⦃⇓? _ c => ⌜c.depth = d⌝⦄ := by
  mvcgen [toFloat] with grind

@[spec] theorem exponent_depth (positive : Bool) (number : Nat) (power : Int) :
    ⦃fun c => ⌜c.depth = d⌝⦄ exponent positive number power ⦃⇓? _ c => ⌜c.depth = d⌝⦄ := by
  mvcgen [exponent] with grind

@[spec] theorem fraction_depth (positive : Bool) (number : Nat) (power : Int) :
    ⦃fun c => ⌜c.depth = d⌝⦄ fraction positive number power ⦃⇓? _ c => ⌜c.depth = d⌝⦄ := by
  mvcgen [fraction] with grind

@[spec] theorem unsigned_depth (positive : Bool) (n : Nat) :
    ⦃fun c => ⌜c.depth = d⌝⦄ unsigned positive ⦃⇓? v c => ⌜c.depth = d ∧ v.Nested n⌝⦄ := by
  mvcgen [unsigned] with grind

@[spec] theorem number_depth (n : Nat) :
    ⦃fun c => ⌜c.depth = d⌝⦄ number ⦃⇓? v c => ⌜c.depth = d ∧ v.Nested n⌝⦄ := by
  mvcgen [number] with grind

/-! ## Texts -/

@[spec] theorem fourDigits_depth :
    ⦃fun c => ⌜c.depth = d⌝⦄ fourDigits ⦃⇓? _ c => ⌜c.depth = d⌝⦄ := by
  mvcgen [fourDigits] with grind

@[spec] theorem numbered_depth :
    ⦃fun c => ⌜c.depth = d⌝⦄ numbered ⦃⇓? _ c => ⌜c.depth = d⌝⦄ := by
  mvcgen [numbered]
  case inv1 => exact ⇓? _ c => ⌜c.depth = d⌝
  all_goals grind

@[spec] theorem escape_depth : ⦃fun c => ⌜c.depth = d⌝⦄ escape ⦃⇓? _ c => ⌜c.depth = d⌝⦄ := by
  mvcgen [escape] with grind

@[spec] theorem skipEscape_depth :
    ⦃fun c => ⌜c.depth = d⌝⦄ skipEscape ⦃⇓? _ c => ⌜c.depth = d⌝⦄ := by
  mvcgen [skipEscape] with grind

@[spec] theorem textPieces_depth {readEscape : Reader Char}
    (h : ∀ d, ⦃fun c => ⌜c.depth = d⌝⦄ readEscape ⦃⇓? _ c => ⌜c.depth = d⌝⦄) (fuel : Nat)
    (pieces : List (List Char)) :
    ⦃fun c => ⌜c.depth = d⌝⦄ textPieces readEscape fuel pieces ⦃⇓? _ c => ⌜c.depth = d⌝⦄ := by
  induction fuel generalizing pieces with
  | zero => mvcgen [textPieces]
  | succ fuel ih => mvcgen [textPieces, h, ih] with grind

@[spec] theorem textTail_depth :
    ⦃fun c => ⌜c.depth = d⌝⦄ textTail ⦃⇓? _ c => ⌜c.depth = d⌝⦄ := by
  mvcgen [textTail] with grind

@[spec] theorem skipText_depth :
    ⦃fun c => ⌜c.depth = d⌝⦄ skipText ⦃⇓? _ c => ⌜c.depth = d⌝⦄ := by
  mvcgen [skipText] with grind

/-! ## Parts of values -/

@[spec] theorem start_depth : ⦃fun c => ⌜c.depth = d⌝⦄ start ⦃⇓? _ c => ⌜c.depth = d⌝⦄ := by
  mvcgen [start] with grind

@[spec] theorem scalar_depth (x : Char) (n : Nat) :
    ⦃fun c => ⌜c.depth = d⌝⦄ scalar x ⦃⇓? v c => ⌜c.depth = d ∧ v.Nested n⌝⦄ := by
  mvcgen [scalar] with grind

@[spec] theorem hasItem_depth (first : Bool) :
    ⦃fun c => ⌜c.depth = d⌝⦄ hasItem first ⦃⇓? _ c => ⌜c.depth = d⌝⦄ := by
  mvcgen [hasItem] with grind

@[spec] theorem endArray_depth :
    ⦃fun c => ⌜c.depth = d⌝⦄ endArray ⦃⇓? _ c => ⌜c.depth = d⌝⦄ := by
  mvcgen [endArray] with grind

@[spec] theorem hasMember_depth (first : Bool) :
    ⦃fun c => ⌜c.depth = d⌝⦄ hasMember first ⦃⇓? _ c => ⌜c.depth = d⌝⦄ := by
  mvcgen [hasMember] with grind

@[spec] theorem endObject_depth :
    ⦃fun c => ⌜c.depth = d⌝⦄ endObject ⦃⇓? _ c => ⌜c.depth = d⌝⦄ := by
  mvcgen [endObject] with grind

@[spec] theorem colon_depth : ⦃fun c => ⌜c.depth = d⌝⦄ colon ⦃⇓? _ c => ⌜c.depth = d⌝⦄ := by
  mvcgen [colon] with grind

/-! ## Arrays and objects -/

section Parts

variable {r : Reader α} {finish : Reader Unit} {Q : α → Prop}

theorem placed_depth (h : ⦃fun c => ⌜c.depth = d⌝⦄ r ⦃⇓? a c => ⌜c.depth = d ∧ Q a⌝⦄) :
    ⦃fun c => ⌜c.depth = d⌝⦄ placed r ⦃⇓? a c => ⌜c.depth = d ∧ Q a⌝⦄ := by
  rw [triple_iff] at h ⊢
  intro c hc a c' hr
  rw [placed] at hr
  split at hr
  · cases hr
  · exact h c hc a c' hr

theorem ended_depth (h : ⦃fun c => ⌜c.depth = d⌝⦄ r ⦃⇓? a c => ⌜c.depth = d ∧ Q a⌝⦄)
    (hfinish : ⦃fun c => ⌜c.depth = d⌝⦄ finish ⦃⇓? _ c => ⌜c.depth = d⌝⦄) :
    ⦃fun c => ⌜c.depth = d⌝⦄ ended r finish ⦃⇓? a c => ⌜c.depth = d ∧ Q a⌝⦄ := by
  rw [triple_iff] at h hfinish ⊢
  intro c hc a c' hr
  rw [ended] at hr
  split at hr
  · next b between hb =>
    obtain ⟨hdepth, hQ⟩ := h c hc b between hb
    split at hr
    · next last hlast =>
      cases hr
      exact ⟨hfinish between hdepth () _ hlast, hQ⟩
    · cases hr
  · split at hr <;> cases hr

/-- An array or object is entered one level less deep, and left again. -/
theorem enter_depth
    (h : ∀ n, d = n + 2 → ⦃fun c => ⌜c.depth = n + 1⌝⦄ r ⦃⇓? a _ => ⌜Q a⌝⦄) :
    ⦃fun c => ⌜c.depth = d⌝⦄ enter r ⦃⇓? a c => ⌜c.depth = d ∧ Q a⌝⦄ := by
  rw [triple_iff]
  intro c hc a c' hr
  rw [enter] at hr
  split at hr
  · cases hr
  · next hdeep =>
    -- one level is taken away and at least one is left, or the reader would have given up
    obtain ⟨n, rfl⟩ : ∃ n, d = n + 2 := ⟨d - 2, by omega⟩
    have hinside := h n rfl
    have hbehind : ⦃fun c => ⌜c.depth = n + 1⌝⦄ (do take; r) ⦃⇓? a _ => ⌜Q a⌝⦄ := by
      mvcgen [hinside] with grind
    rw [triple_iff] at hbehind
    split at hr
    · next b last hb =>
      cases hr
      have hdepth : c.depth - 1 = n + 1 := by omega
      exact ⟨hc, hbehind _ hdepth _ _ hb⟩
    · cases hr

end Parts

section Loops

variable {I : σ → Prop}

/-- What each item keeps is kept by all of them. -/
theorem itemsFrom_depth {item : σ → Reader σ}
    (h : ∀ s, I s → ⦃fun c => ⌜c.depth = d⌝⦄ item s ⦃⇓? s c => ⌜c.depth = d ∧ I s⌝⦄)
    (fuel : Nat) (first : Bool) (s : σ) (hs : I s) :
    ⦃fun c => ⌜c.depth = d⌝⦄ itemsFrom item fuel first s ⦃⇓? s c => ⌜c.depth = d ∧ I s⌝⦄ := by
  induction fuel generalizing first s with
  | zero => mvcgen [itemsFrom]
  | succ fuel ih => mvcgen [itemsFrom, h, ih] with grind

/-- What each member keeps is kept by all of them. -/
theorem membersFrom_depth {member : σ → String → Reader σ}
    (h : ∀ s name, I s → ⦃fun c => ⌜c.depth = d⌝⦄ member s name ⦃⇓? s c => ⌜c.depth = d ∧ I s⌝⦄)
    (fuel : Nat) (first : Bool) (s : σ) (hs : I s) :
    ⦃fun c => ⌜c.depth = d⌝⦄ membersFrom member fuel first s ⦃⇓? s c => ⌜c.depth = d ∧ I s⌝⦄ := by
  induction fuel generalizing first s with
  | zero => mvcgen [membersFrom]
  | succ fuel ih => mvcgen [membersFrom, h, ih] with grind

end Loops

section Wholes

variable {I : Nat → σ → Prop} {Q : α → Prop}

/-- What each item keeps, as deep as it stands, is so of what an array adds up to. -/
theorem items_depth {item : σ → Reader σ} {s : σ} (hs : ∀ n, I n s)
    (h : ∀ n s, d = n + 2 → I n s →
      ⦃fun c => ⌜c.depth = n + 1⌝⦄ item s ⦃⇓? s c => ⌜c.depth = n + 1 ∧ I n s⌝⦄) :
    ⦃fun c => ⌜c.depth = d⌝⦄ items s item ⦃⇓? s c => ⌜c.depth = d ∧ ∃ n, d = n + 2 ∧ I n s⌝⦄ := by
  have hall (fuel : Nat) :
      ⦃fun c => ⌜c.depth = d⌝⦄ placed (ended (enter (itemsFrom item fuel true s)) endArray)
        ⦃⇓? s c => ⌜c.depth = d ∧ ∃ n, d = n + 2 ∧ I n s⌝⦄ := by
    refine placed_depth (ended_depth (enter_depth fun n hd => ?_) endArray_depth)
    have hloop := itemsFrom_depth (h n · hd) fuel true s (hs n)
    mvcgen [hloop] with grind
  mvcgen [items, hall]

/-- What each member keeps, as deep as it stands, is so of what an object adds up to. -/
theorem members_depth {member : σ → String → Reader σ} {finish : σ → Reader α} {s : σ}
    (hs : ∀ n, I n s)
    (h : ∀ n s name, d = n + 2 → I n s →
      ⦃fun c => ⌜c.depth = n + 1⌝⦄ member s name ⦃⇓? s c => ⌜c.depth = n + 1 ∧ I n s⌝⦄)
    (hfinish : ∀ n s, d = n + 2 → I n s →
      ⦃fun c => ⌜c.depth = n + 1⌝⦄ finish s ⦃⇓? a _ => ⌜Q a⌝⦄) :
    ⦃fun c => ⌜c.depth = d⌝⦄ members s member finish ⦃⇓? a c => ⌜c.depth = d ∧ Q a⌝⦄ := by
  have hall (fuel : Nat) : ⦃fun c => ⌜c.depth = d⌝⦄
      placed (ended (enter (membersFrom member fuel true s >>= finish)) endObject)
      ⦃⇓? a c => ⌜c.depth = d ∧ Q a⌝⦄ := by
    refine placed_depth (ended_depth (enter_depth fun n hd => ?_) endObject_depth)
    have hloop := membersFrom_depth (h n · · hd) fuel true s (hs n)
    have hend (s : σ) (hs : I n s) := hfinish n s hd hs
    mvcgen [hloop, hend] with grind
  mvcgen [members, hall]

/-- What each member keeps, or the items in their place, is so of what a record says. -/
theorem record_depth {start : σ} {member : Draft σ → String → Reader (Draft σ)}
    {fromItems : Reader σ} {finish : σ → Reader α} (name : String) (hstart : ∀ n, I n start)
    (hmember : ∀ n (draft : Draft σ) name, d = n + 2 → I n draft.value →
      ⦃fun c => ⌜c.depth = n + 1⌝⦄ member draft name
        ⦃⇓? draft c => ⌜c.depth = n + 1 ∧ I n draft.value⌝⦄)
    (hitems : ∀ n, d = n + 2 →
      ⦃fun c => ⌜c.depth = n + 1⌝⦄ fromItems ⦃⇓? s c => ⌜c.depth = n + 1 ∧ I n s⌝⦄)
    (hfinish : ∀ n s, d = n + 2 → I n s →
      ⦃fun c => ⌜c.depth = n + 1⌝⦄ finish s ⦃⇓? a _ => ⌜Q a⌝⦄) :
    ⦃fun c => ⌜c.depth = d⌝⦄ record name start member fromItems finish
      ⦃⇓? a c => ⌜c.depth = d ∧ Q a⌝⦄ := by
  have hmembers : ⦃fun c => ⌜c.depth = d⌝⦄
      members ⟨start, []⟩ member (fun draft => finish draft.value)
      ⦃⇓? a c => ⌜c.depth = d ∧ Q a⌝⦄ :=
    members_depth (I := fun n (draft : Draft σ) => I n draft.value) hstart hmember
      fun n draft hd hdraft => hfinish n draft.value hd hdraft
  have harray : ⦃fun c => ⌜c.depth = d⌝⦄ placed (ended (enter (fromItems >>= finish)) endArray)
      ⦃⇓? a c => ⌜c.depth = d ∧ Q a⌝⦄ := by
    refine placed_depth (ended_depth (enter_depth fun n hd => ?_) endArray_depth)
    have hread := hitems n hd
    have hend (s : σ) (hs : I n s) := hfinish n s hd hs
    mvcgen [hread, hend] with grind
  mvcgen [record, hmembers, harray] with grind

end Wholes

/-! ## Any value -/

/-- A value that is put among the members of an object is nested as deep as these may be. -/
theorem nested_insertEntry {found : List (String × Json)} {n : Nat} {v : Json}
    (hfound : found.Pairwise (fun a b => a.1 < b.1) ∧ ∀ e ∈ found, e.2.Nested n)
    (hv : v.Nested n) (name : String) :
    (SortedMap.insertEntry name v found).Pairwise (fun a b => a.1 < b.1) ∧
      ∀ e ∈ SortedMap.insertEntry name v found, e.2.Nested n := by
  refine ⟨SortedMap.pairwise_insertEntry name v hfound.1, fun e he => ?_⟩
  rcases SortedMap.mem_insertEntry he with rfl | he
  · exact hv
  · exact hfound.2 e he

/-- **A value is nested at most as deep as arrays and objects may be entered where it is read.** -/
@[spec] theorem valueWithin_depth (fuel n : Nat) :
    ⦃fun c => ⌜c.depth = n + 1⌝⦄ valueWithin fuel ⦃⇓? v c => ⌜c.depth = n + 1 ∧ v.Nested n⌝⦄ := by
  induction fuel generalizing n with
  | zero =>
    mvcgen [valueWithin]
    all_goals grind
  | succ fuel ih =>
    -- what stands in an array or object is read one level less deep, and so are the values there
    have hitems : ⦃fun c => ⌜c.depth = n + 1⌝⦄
        items [] (fun (found : List Json) => do return (← valueWithin fuel) :: found)
        ⦃⇓? found c => ⌜c.depth = n + 1 ∧ ∃ m, n + 1 = m + 2 ∧ ∀ v ∈ found, v.Nested m⌝⦄ := by
      refine items_depth (fun n => List.forall_mem_nil _) fun m found hm hfound => ?_
      have hvalue := ih m
      mvcgen [hvalue] with grind
    have hmembers : ⦃fun c => ⌜c.depth = n + 1⌝⦄
        (members [] (fun (found : List (String × Json)) name => do
          colon
          return SortedMap.insertEntry name (← valueWithin fuel) found)
        (fun found => return Json.obj found))
        ⦃⇓? v c => ⌜c.depth = n + 1 ∧ v.Nested n⌝⦄ := by
      refine members_depth (I := fun m found =>
        found.Pairwise (fun a b => a.1 < b.1) ∧ ∀ e ∈ found, e.2.Nested m)
        (fun m => ⟨.nil, nofun⟩) (fun m found name hm hfound => ?_) fun m found hm hfound => ?_
      · have hvalue := ih m
        mvcgen [hvalue] with grind [nested_insertEntry]
      · obtain rfl : n = m + 1 := by omega
        mvcgen
        exact .obj hfound.1 hfound.2
    mvcgen [valueWithin, hitems, hmembers]
    all_goals grind [Json.Nested.arr]

/-! ## Values of no interest -/

@[spec] theorem skipUnsigned_depth :
    ⦃fun c => ⌜c.depth = d⌝⦄ skipUnsigned ⦃⇓? _ c => ⌜c.depth = d⌝⦄ := by
  mvcgen [skipUnsigned] with grind

@[spec] theorem skipMember_depth {value : Reader Unit}
    (h : ∀ d, ⦃fun c => ⌜c.depth = d⌝⦄ value ⦃⇓? _ c => ⌜c.depth = d⌝⦄) :
    ⦃fun c => ⌜c.depth = d⌝⦄ skipMember value ⦃⇓? _ c => ⌜c.depth = d⌝⦄ := by
  mvcgen [skipMember, h] with grind

@[spec] theorem skipRest_depth {part : Reader Unit} {close : Char} {expected ended : JsonFault}
    (h : ∀ d, ⦃fun c => ⌜c.depth = d⌝⦄ part ⦃⇓? _ c => ⌜c.depth = d⌝⦄) (fuel : Nat) :
    ⦃fun c => ⌜c.depth = d⌝⦄ skipRest fuel part close expected ended
      ⦃⇓? _ c => ⌜c.depth = d⌝⦄ := by
  induction fuel with
  | zero =>
    mvcgen [skipRest]
    all_goals grind
  | succ fuel ih => mvcgen [skipRest, h, ih] with grind

@[spec] theorem skipWithin_depth (fuel : Nat) :
    ⦃fun c => ⌜c.depth = d⌝⦄ skipWithin fuel ⦃⇓? _ c => ⌜c.depth = d⌝⦄ := by
  induction fuel generalizing d with
  | zero =>
    mvcgen [skipWithin]
    all_goals grind
  | succ fuel ih =>
    have hscalar (x : Char) :
        ⦃fun c => ⌜c.depth = d⌝⦄ discard (scalar x) ⦃⇓? _ c => ⌜c.depth = d⌝⦄ := by
      have hmap : discard (scalar x) = (fun _ => ()) <$> scalar x := by
        rw [discard, map_const]
        rfl
      have hread : ⦃fun c => ⌜c.depth = d⌝⦄ scalar x ⦃⇓? v c => ⌜c.depth = d ∧ v.Nested 0⌝⦄ :=
        scalar_depth x 0
      rw [hmap]
      mvcgen [hread] with grind
    mvcgen [skipWithin, ih, hscalar] with grind

@[spec] theorem skip_depth : ⦃fun c => ⌜c.depth = d⌝⦄ skip ⦃⇓? _ c => ⌜c.depth = d⌝⦄ := by
  mvcgen [skip]

end Reader

end ScriptHost
