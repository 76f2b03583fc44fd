import Mathlib.Data.List.Basic
import Mathlib.Data.List.TakeWhile
import ScriptHost.Json.Read
/-!
# Data that is read as it was written

A reader takes characters from the front of what is left of a text. So what is
read of a text follows from what its parts are read as: a character that stands
for itself, one behind a backslash, a text value, a member, an object. Where in
the text a part stands matters to the places of faults alone.

- `Reader.Reads`: a reader reads a value from some characters and leaves others.
- `Reader.renderChar_of_not_plain`: characters that are written behind a backslash.
- `Reader.reads_text`: a text value is read as the text that it was written for.
- `Reader.TakesUp`, `Reader.reads_members`: an object is read as what its members add up to.
- `Reader.reads_mapOf`: an object is read as the map of its members.
-/

namespace ScriptHost

namespace Reader

/-! ## Reading from the front -/

/-- A reader that may enter so many arrays and objects reads a value from some characters and leaves
others, wherever the characters stand. -/
def Reads {α : Type} (r : Reader α) (depth : Nat) (before : List Char) (a : α)
    (after : List Char) : Prop :=
  ∀ place, ∃ place', r ⟨before, place, depth⟩ = .ok a ⟨after, place', depth⟩

section Steps

variable {α β : Type} {depth : Nat} {before middle after : List Char}

theorem reads_pure (a : α) : (pure a : Reader α).Reads depth before a before :=
  fun place => ⟨place, rfl⟩

theorem Reads.bind {x : Reader α} {f : α → Reader β} {a : α} {b : β}
    (hx : x.Reads depth before a middle) (hf : (f a).Reads depth middle b after) :
    (x >>= f).Reads depth before b after := by
  intro place
  obtain ⟨place', hx⟩ := hx place
  obtain ⟨last, hf⟩ := hf place'
  refine ⟨last, ?_⟩
  show EStateM.bind x f _ = _
  rw [EStateM.bind, hx]
  exact hf

/-- A reader that looks at where it stands. -/
theorem reads_get {f : Cursor → Reader β} {b : β}
    (hf : ∀ place, (f ⟨before, place, depth⟩).Reads depth before b after) :
    (get >>= f).Reads depth before b after :=
  fun place => hf place place

theorem reads_take {c : Char} : take.Reads depth (c :: before) () before :=
  fun place => ⟨past c place, rfl⟩

theorem reads_peek : peek.Reads depth before before.head? before := fun place => ⟨place, rfl⟩

theorem reads_takeAll {front : List Char} :
    (takeAll front.length).Reads depth (front ++ after) () after := by
  have htaken (steps : List Nat) (front : List Char) (h : steps.length = front.length) :
      (forIn steps PUnit.unit fun _ _ => do take; pure (ForInStep.yield PUnit.unit)).Reads depth
        (front ++ after) PUnit.unit after := by
    induction steps generalizing front with
    | nil =>
      obtain rfl : front = [] := List.length_eq_zero_iff.1 h.symm
      exact reads_pure _
    | cons step steps ih =>
      cases front with
      | nil => cases h
      | cons c front =>
        rw [List.forIn_cons]
        have hstep : (do take; pure (ForInStep.yield PUnit.unit)).Reads depth
            (c :: (front ++ after)) (ForInStep.yield PUnit.unit) (front ++ after) :=
          reads_take.bind (reads_pure _)
        exact hstep.bind (ih front (Nat.succ.inj h))
  exact (htaken _ front List.length_range).bind (reads_pure _)

/-- Blanks are skipped. -/
theorem reads_skipBlanks {blanks : List Char} (hblanks : ∀ c ∈ blanks, isBlank c = true)
    (hafter : ∀ c ∈ after.head?, isBlank c = false) :
    skipBlanks.Reads depth (blanks ++ after) after.head? after := by
  have htake : (blanks ++ after).takeWhile isBlank = blanks := by
    rw [List.takeWhile_append_of_pos hblanks]
    cases after with
    | nil => rw [List.takeWhile_nil, List.append_nil]
    | cons c after => rw [List.takeWhile_cons_of_neg (by simpa using hafter), List.append_nil]
  refine reads_get fun place => ?_
  show (takeAll (List.takeWhile isBlank (blanks ++ after)).length >>= fun _ => peek).Reads _ _ _ _
  rw [htake]
  exact reads_takeAll.bind reads_peek

/-- Without blanks, the next character is looked at. -/
theorem reads_next (hafter : ∀ c ∈ after.head?, isBlank c = false) :
    skipBlanks.Reads depth after after.head? after := by
  have hnext : skipBlanks.Reads depth ([] ++ after) after.head? after :=
    reads_skipBlanks (List.forall_mem_nil _) hafter
  exact hnext

end Steps

/-! ## Texts -/

section Texts

variable {depth : Nat} {rest : List Char}

/-- Four digits are read as the number that they stand for. -/
theorem reads_fourDigits {ds : List Char} {n : Nat} (hlength : ds.length = 4)
    (hsize : ¬ (String.ofList ds).utf8ByteSize < 4) (hvalue : hexValueOf ds = some n) :
    fourDigits.Reads depth (ds ++ rest) n rest := by
  have htake : (ds ++ rest).take 4 = ds := by rw [← hlength, List.take_left]
  refine reads_get fun place => ?_
  simp only [htake, hvalue, if_neg hsize]
  rw [← hlength]
  exact reads_takeAll.bind (reads_pure n)

/-- The digits of a control character are four, and they stand for its number. -/
theorem hexValueOf_escapeDigits : ∀ n < 32,
    (Json.escapeDigits (Char.ofNat n)).toList.length = 4 ∧
      ¬ (String.ofList (Json.escapeDigits (Char.ofNat n)).toList).utf8ByteSize < 4 ∧
      hexValueOf (Json.escapeDigits (Char.ofNat n)).toList = some n := by
  decide

/-- A character that does not stand for itself is written behind a backslash, and read from what is
written there. -/
theorem renderChar_of_not_plain {c : Char} (h : isPlain c = false) :
    ∃ written, (Json.renderChar c).toList = '\\' :: written ∧
      ∀ depth rest, escape.Reads depth (written ++ rest) c rest := by
  have hsimple (written : Char)
      (hreads : ∀ depth rest, escape.Reads depth (written :: rest) c rest) :
      ∃ rendered, [ '\\', written] = '\\' :: rendered ∧
        ∀ depth rest, escape.Reads depth (rendered ++ rest) c rest :=
    ⟨[written], rfl, hreads⟩
  unfold Json.renderChar
  split
  · exact hsimple '"' fun depth rest place => ⟨_, rfl⟩
  · exact hsimple '\\' fun depth rest place => ⟨_, rfl⟩
  · exact hsimple 'b' fun depth rest place => ⟨_, rfl⟩
  · exact hsimple 't' fun depth rest place => ⟨_, rfl⟩
  · exact hsimple 'n' fun depth rest place => ⟨_, rfl⟩
  · exact hsimple 'f' fun depth rest place => ⟨_, rfl⟩
  · exact hsimple 'r' fun depth rest place => ⟨_, rfl⟩
  · next hquote hback _ _ _ _ _ =>
    have hcases : ¬ c = '"' → ¬ c = '\\' → c.toNat < 32 := by simpa [isPlain] using h
    have hcontrol := hcases hquote hback
    obtain ⟨hlength, hsize, hvalue⟩ := hexValueOf_escapeDigits c.toNat hcontrol
    rw [Char.ofNat_toNat] at hlength hsize hvalue
    rw [if_pos hcontrol, String.toList_append]
    refine ⟨'u' :: (Json.escapeDigits c).toList, rfl, fun depth rest => ?_⟩
    have hnumbered : numbered.Reads depth ((Json.escapeDigits c).toList ++ rest) c rest := by
      refine (reads_fourDigits hlength hsize hvalue).bind ?_
      have h1 : ¬ 0xd800 ≤ c.toNat := by omega
      have h2 : ¬ 0xdc00 ≤ c.toNat := by omega
      simp only [h1, h2, decide_false, Bool.false_and, Bool.false_eq_true, if_false,
        Char.ofNat_toNat]
      exact reads_pure c
    exact reads_peek.bind (reads_take.bind hnumbered)

/-- A character that stands for itself is written as it is. -/
theorem renderChar_of_plain {c : Char} (h : isPlain c = true) :
    (Json.renderChar c).toList = [c] := by
  unfold Json.renderChar
  split
  case h_8 =>
    have hlarge : ¬ c.toNat < 0x20 := by
      simp only [isPlain, Bool.and_eq_true, decide_eq_true_eq] at h
      omega
    rw [if_neg hlarge]
    exact String.toList_singleton c
  all_goals cases h

/-- Characters as they are written inside of a text. -/
def written (cs : List Char) : List Char := cs.flatMap fun c => (Json.renderChar c).toList

theorem written_of_plain {cs : List Char} (h : ∀ c ∈ cs, isPlain c = true) : written cs = cs := by
  rw [written, List.flatMap_congr fun c hc => renderChar_of_plain (h c hc), List.flatMap_singleton']

/-- The characters of a text value. -/
theorem toList_renderText (s : String) :
    (Json.renderText s).toList = '"' :: (written s.toList ++ ['"']) := by
  simp [Json.renderText, written, List.flatMap_map]

/-- Each character is written by one at least. -/
theorem length_le_written (cs : List Char) : cs.length ≤ (written cs).length := by
  induction cs with
  | nil => exact Nat.le_refl _
  | cons c cs ih =>
    have hfirst : 1 ≤ (Json.renderChar c).toList.length := by
      cases hc : isPlain c with
      | true =>
        rw [renderChar_of_plain hc]
        exact Nat.le_refl _
      | false =>
        obtain ⟨behind, hbehind, -⟩ := renderChar_of_not_plain hc
        rw [hbehind]
        exact Nat.succ_le_succ (Nat.zero_le _)
    rw [written, List.flatMap_cons, List.length_append, List.length_cons, Nat.add_comm]
    exact Nat.add_le_add hfirst ih

/-- A text is read in pieces, each of characters that stand for themselves and one that does not. -/
theorem reads_textPieces {fuel : Nat} {cs : List Char} (pieces : List (List Char))
    (h : cs.length < fuel) :
    ∃ found, found.reverse.flatten = pieces.reverse.flatten ++ cs ∧
      (textPieces escape fuel pieces).Reads depth (written cs ++ '"' :: rest) found rest := by
  induction fuel generalizing cs pieces with
  | zero => exact absurd h (Nat.not_lt_zero _)
  | succ fuel ih =>
    -- The piece ends at the first character that does not stand for itself, or with the text.
    obtain ⟨plain, after, rfl, hplain, hafter⟩ : ∃ plain after, cs = plain ++ after ∧
        (∀ c ∈ plain, isPlain c = true) ∧ ∀ c ∈ after.head?, isPlain c = false := by
      refine ⟨cs.takeWhile isPlain, cs.dropWhile isPlain, List.takeWhile_append_dropWhile.symm,
        fun c hc => List.mem_takeWhile_imp hc, fun c hc => ?_⟩
      have hhead := List.head?_dropWhile_not isPlain cs
      rw [Option.mem_def.1 hc] at hhead
      simpa using hhead
    have hwritten : written (plain ++ after) = plain ++ written after := by
      rw [written, List.flatMap_append]
      exact congrArg (· ++ _) (written_of_plain hplain)
    have hpiece (c : Char) (behind : List Char) (hc : isPlain c = false) :
        (plain ++ c :: behind).takeWhile isPlain = plain := by
      rw [List.takeWhile_append_of_pos hplain, List.takeWhile_cons_of_neg (by simpa using hc),
        List.append_nil]
    rw [hwritten, List.append_assoc]
    cases after with
    | nil =>
      refine ⟨plain :: pieces, by simp, reads_get fun place => ?_⟩
      have hquote := hpiece '"' rest rfl
      simp only [written, List.flatMap_nil, List.nil_append, hquote]
      refine reads_takeAll.bind (reads_peek.bind ?_)
      exact reads_take.bind (reads_pure _)
    | cons c after =>
      have hc : isPlain c = false := hafter c rfl
      obtain ⟨behind, hbehind, hescape⟩ := renderChar_of_not_plain hc
      have hrest : written (c :: after) ++ '"' :: rest =
          '\\' :: (behind ++ (written after ++ '"' :: rest)) := by
        rw [written, List.flatMap_cons, hbehind, List.cons_append, List.cons_append,
          List.append_assoc]
        rfl
      have hshorter : after.length < fuel := by
        rw [List.length_append, List.length_cons] at h
        omega
      obtain ⟨found, hfound, hmore⟩ := ih ([c] :: plain :: pieces) hshorter
      refine ⟨found, by simpa using hfound, reads_get fun place => ?_⟩
      rw [hrest]
      have hback := hpiece '\\' (behind ++ (written after ++ '"' :: rest)) rfl
      simp only [hback]
      refine reads_takeAll.bind (reads_peek.bind ?_)
      exact reads_take.bind ((hescape depth _).bind hmore)

/-- A text is read behind its opening quotation mark. -/
theorem reads_textTail (s : String) :
    textTail.Reads depth (written s.toList ++ '"' :: rest) s rest := by
  have hfuel : s.toList.length < (written s.toList ++ '"' :: rest).length + 1 := by
    have hle := length_le_written s.toList
    rw [List.length_append]
    omega
  obtain ⟨found, hfound, hreads⟩ : ∃ found, found.reverse.flatten = _ ∧
      (textPieces escape _ []).Reads depth _ found rest := reads_textPieces [] hfuel
  refine reads_get fun place => hreads.bind ?_
  have hsame : String.ofList found.reverse.flatten = s := by
    rw [hfound, List.reverse_nil, List.flatten_nil, List.nil_append, String.ofList_toList]
  rw [hsame]
  exact reads_pure s

/-- **A text value is read as the text that it was written for.** -/
theorem reads_text {blanks : List Char} (hblanks : ∀ c ∈ blanks, isBlank c = true) (s : String) :
    text.Reads depth (blanks ++ ((Json.renderText s).toList ++ rest)) s rest := by
  have hstart : start.Reads depth (blanks ++ '"' :: (written s.toList ++ '"' :: rest)) '"'
      ('"' :: (written s.toList ++ '"' :: rest)) :=
    (reads_skipBlanks hblanks (by rintro c ⟨⟩; rfl)).bind (reads_pure _)
  have hchars : (Json.renderText s).toList ++ rest =
      '"' :: (written s.toList ++ '"' :: rest) := by
    rw [toList_renderText, List.cons_append, List.append_assoc]
    rfl
  rw [hchars]
  exact hstart.bind (reads_take.bind (reads_textTail s))

end Texts

/-! ## Objects -/

section Objects

variable {α β σ : Type} {depth : Nat} {before after rest : List Char}

/-- An object is entered at its brace, if it is not too deep. -/
theorem Reads.enter {r : Reader α} {a : α} (h : r.Reads (depth + 1) before a after) (c : Char) :
    (Reader.enter r).Reads (depth + 2) (c :: before) a after := by
  intro place
  have hbehind : (do take; r : Reader α).Reads (depth + 1) (c :: before) a after :=
    reads_take.bind h
  obtain ⟨place', hr⟩ := hbehind place
  refine ⟨place', ?_⟩
  have hdeep : ¬ depth + 2 ≤ 1 := by omega
  have hdepth : depth + 2 - 1 = depth + 1 := rfl
  rw [Reader.enter, if_neg hdeep]
  simp only [hdepth, hr]

theorem Reads.ended {r : Reader α} {finish : Reader Unit} {a : α} {middle : List Char}
    (hr : r.Reads depth before a middle) (hfinish : finish.Reads depth middle () after) :
    (Reader.ended r finish).Reads depth before a after := by
  intro place
  obtain ⟨place', hr⟩ := hr place
  obtain ⟨last, hfinish⟩ := hfinish place'
  refine ⟨last, ?_⟩
  simp only [Reader.ended, hr, hfinish]

theorem Reads.placed {r : Reader α} {a : α} (h : r.Reads depth before a after) :
    (Reader.placed r).Reads depth before a after := by
  intro place
  obtain ⟨place', hr⟩ := h place
  refine ⟨place', ?_⟩
  simp only [Reader.placed, hr]

/-- Nothing of what stands behind a number would be taken for a part of it. -/
def EndsNumber (rest : List Char) : Prop :=
  ∀ c ∈ rest.head?, c.isDigit = false ∧ c ≠ '.' ∧ c ≠ 'e' ∧ c ≠ 'E'

theorem endsNumber_cons {c : Char} (h : c.isDigit = false ∧ c ≠ '.' ∧ c ≠ 'e' ∧ c ≠ 'E') :
    EndsNumber (c :: rest) := by
  rintro _ ⟨⟩
  exact h

/-- Blanks and the end of an object end a number. -/
theorem endsNumber_ending {ending : List Char} (hending : ∀ c ∈ ending, isBlank c = true) :
    EndsNumber (ending ++ '\x7d' :: rest) := by
  cases ending with
  | nil => exact endsNumber_cons (by decide)
  | cons c ending =>
    have hblank : ((c = ' ' ∨ c = '\n') ∨ c = '\t') ∨ c = '\r' := by
      simpa [isBlank] using hending c List.mem_cons_self
    rcases hblank with ((rfl | rfl) | rfl) | rfl <;> exact endsNumber_cons (by decide)

/-- A member is written with its name, a colon and its value. -/
def memberChars (value : α → List Char) (e : String × α) : List Char :=
  (Json.renderText e.1).toList ++ ':' :: value e.2

/-- Members behind others are each written behind a comma and blanks. -/
def laterMembers (blanks : List Char) (value : α → List Char) (entries : List (String × α)) :
    List Char :=
  entries.flatMap fun e => ',' :: (blanks ++ memberChars value e)

theorem memberChars_append (value : α → List Char) (e : String × α) :
    memberChars value e ++ rest =
      '"' :: (written e.1.toList ++ '"' :: ':' :: (value e.2 ++ rest)) := by
  simp [memberChars, toList_renderText]

/-- Further members end a number, as the end of their object does. -/
theorem endsNumber_laterMembers {blanks ending : List Char} {value : α → List Char}
    {entries : List (String × α)} (hending : ∀ c ∈ ending, isBlank c = true) :
    EndsNumber (laterMembers blanks value entries ++ (ending ++ '\x7d' :: rest)) := by
  cases entries with
  | nil => exact endsNumber_ending hending
  | cons e entries => exact endsNumber_cons (by decide)

section Blanks

variable {blanks : List Char} (hblanks : ∀ c ∈ blanks, isBlank c = true)
include hblanks

/-- An object does not go on at its end. -/
theorem reads_hasMember_end (first : Bool) :
    (hasMember first).Reads depth (blanks ++ '\x7d' :: rest) false ('\x7d' :: rest) :=
  (reads_skipBlanks hblanks (by rintro c ⟨⟩; rfl)).bind (reads_pure _)

/-- An object goes on with the name of its first member. -/
theorem reads_hasMember_first :
    (hasMember true).Reads depth (blanks ++ '"' :: rest) true ('"' :: rest) :=
  (reads_skipBlanks hblanks (by rintro c ⟨⟩; rfl)).bind (reads_pure _)

/-- An object goes on with the name of another member behind a comma. -/
theorem reads_hasMember_later :
    (hasMember false).Reads depth (',' :: (blanks ++ '"' :: rest)) true ('"' :: rest) := by
  have hcomma : skipBlanks.Reads depth (',' :: (blanks ++ '"' :: rest)) (some ',')
      (',' :: (blanks ++ '"' :: rest)) :=
    reads_next (by rintro c ⟨⟩; rfl)
  have hquote : skipBlanks.Reads depth (blanks ++ '"' :: rest) (some '"') ('"' :: rest) :=
    reads_skipBlanks hblanks (by rintro c ⟨⟩; rfl)
  exact hcomma.bind (reads_take.bind (hquote.bind (reads_pure true)))

end Blanks

section Members

variable {member : σ → String → Reader σ} {value : α → List Char} {blanks ending : List Char}

/-- Members are taken up one after the other, each from its colon on. -/
inductive TakesUp (member : σ → String → Reader σ) (value : α → List Char) (depth : Nat) :
    σ → List (String × α) → σ → Prop where
  | nil {s : σ} : TakesUp member value depth s [] s
  | cons {s next last : σ} {e : String × α} {entries : List (String × α)} :
      (∀ rest, EndsNumber rest →
        (member s e.1).Reads depth (':' :: (value e.2 ++ rest)) next rest) →
      TakesUp member value depth next entries last →
      TakesUp member value depth s (e :: entries) last

/-- Members that are read in any state are all taken up. -/
theorem takesUp_foldl {step : σ → String × α → σ} (entries : List (String × α))
    (hmember : ∀ e ∈ entries, ∀ s rest, EndsNumber rest →
      (member s e.1).Reads depth (':' :: (value e.2 ++ rest)) (step s e) rest) (s : σ) :
    TakesUp member value depth s entries (entries.foldl step s) := by
  induction entries generalizing s with
  | nil => exact .nil
  | cons e entries ih =>
    obtain ⟨hfirst, hmore⟩ := List.forall_mem_cons.1 hmember
    exact .cons (hfirst s) (ih hmore (step s e))

/-- A member is read with its name and from its colon on. -/
theorem reads_member {fuel : Nat} {first : Bool} {s next last : σ} {e : String × α}
    {front : List Char}
    (hhas : ∀ behind, (hasMember first).Reads depth (front ++ '"' :: behind) true ('"' :: behind))
    (hmember : (member s e.1).Reads depth (':' :: (value e.2 ++ rest)) next rest)
    (hmore : (membersFrom member fuel false next).Reads depth rest last after) :
    (membersFrom member (fuel + 1) first s).Reads depth (front ++ (memberChars value e ++ rest))
      last after := by
  rw [memberChars_append]
  exact (hhas _).bind (reads_take.bind ((reads_textTail e.1).bind (hmember.bind hmore)))

/-- Members behind others are read one after the other up to the end of their object. -/
theorem reads_laterMembers (hblanks : ∀ c ∈ blanks, isBlank c = true)
    (hending : ∀ c ∈ ending, isBlank c = true) {fuel : Nat} {entries : List (String × α)}
    (hfuel : entries.length < fuel) {s last : σ}
    (htakes : TakesUp member value depth s entries last) (rest : List Char) :
    (membersFrom member fuel false s).Reads depth
      (laterMembers blanks value entries ++ (ending ++ '\x7d' :: rest)) last ('\x7d' :: rest) := by
  induction htakes generalizing fuel with
  | nil =>
    obtain ⟨fuel, rfl⟩ := Nat.exists_eq_succ_of_ne_zero (Nat.ne_of_gt hfuel)
    exact (reads_hasMember_end hending false).bind (reads_pure _)
  | cons hmember _ ih =>
    obtain ⟨fuel, rfl⟩ := Nat.exists_eq_succ_of_ne_zero (Nat.ne_of_gt (Nat.zero_lt_of_lt hfuel))
    have hmore := ih (Nat.lt_of_succ_lt_succ hfuel)
    rw [laterMembers, List.flatMap_cons, List.append_assoc, List.cons_append, List.append_assoc]
    have hhas (behind : List Char) : (hasMember false).Reads depth
        ((',' :: blanks) ++ '"' :: behind) true ('"' :: behind) := reads_hasMember_later hblanks
    exact reads_member hhas (hmember _ (endsNumber_laterMembers hending)) hmore

/-- The members of an object, the first one without a comma. -/
def membersChars (blanks : List Char) (value : α → List Char) : List (String × α) → List Char
  | [] => []
  | e :: entries => blanks ++ (memberChars value e ++ laterMembers blanks value entries)

theorem length_le_membersChars (blanks : List Char) (value : α → List Char)
    (entries : List (String × α)) :
    entries.length ≤ (membersChars blanks value entries).length := by
  have hone (e : String × α) : 1 ≤ (memberChars value e).length := by
    rw [memberChars, List.length_append, List.length_cons]
    omega
  have hlater (entries : List (String × α)) :
      entries.length ≤ (laterMembers blanks value entries).length := by
    induction entries with
    | nil => exact Nat.le_refl _
    | cons e entries ih =>
      rw [laterMembers, List.flatMap_cons, List.length_append, List.length_cons, List.length_cons,
        List.length_append, Nat.add_comm]
      exact Nat.add_le_add (Nat.le_add_left 1 _) ih
  cases entries with
  | nil => exact Nat.le_refl _
  | cons e entries =>
    have hfirst := hone e
    have hmore := hlater entries
    simp only [membersChars, List.length_append, List.length_cons]
    omega

/-- All members of an object are read one after the other up to its end. -/
theorem reads_membersFrom (hblanks : ∀ c ∈ blanks, isBlank c = true)
    (hending : ∀ c ∈ ending, isBlank c = true) {fuel : Nat} {entries : List (String × α)}
    (hfuel : entries.length < fuel) {s last : σ}
    (htakes : TakesUp member value depth s entries last) (rest : List Char) :
    (membersFrom member fuel true s).Reads depth
      (membersChars blanks value entries ++ (ending ++ '\x7d' :: rest)) last ('\x7d' :: rest) := by
  obtain ⟨fuel, rfl⟩ := Nat.exists_eq_succ_of_ne_zero (Nat.ne_of_gt (Nat.zero_lt_of_lt hfuel))
  cases htakes with
  | nil => exact (reads_hasMember_end hending true).bind (reads_pure s)
  | cons hmember hmore =>
    have hlater := reads_laterMembers hblanks hending (Nat.lt_of_succ_lt_succ hfuel) hmore rest
    rw [membersChars, List.append_assoc, List.append_assoc]
    exact reads_member (fun _ => reads_hasMember_first hblanks)
      (hmember _ (endsNumber_laterMembers hending)) hlater

end Members

theorem reads_colon : colon.Reads depth (':' :: rest) () rest :=
  (reads_next (by rintro c ⟨⟩; rfl)).bind reads_take

theorem reads_endObject : endObject.Reads depth ('\x7d' :: rest) () rest :=
  (reads_next (by rintro c ⟨⟩; rfl)).bind reads_take

/-- **An object is read as what its members add up to.** -/
theorem reads_members {member : σ → String → Reader σ} (finish : σ → Reader β)
    {value : α → List Char} {blanks ending : List Char} {entries : List (String × α)}
    {s last : σ} {b : β} (hblanks : ∀ c ∈ blanks, isBlank c = true)
    (hending : ∀ c ∈ ending, isBlank c = true)
    (htakes : TakesUp member value (depth + 1) s entries last) (rest : List Char)
    (hfinish : (finish last).Reads (depth + 1) ('\x7d' :: rest) b ('\x7d' :: rest)) :
    (members s member finish).Reads (depth + 2)
      ('\x7b' :: (membersChars blanks value entries ++ (ending ++ '\x7d' :: rest))) b rest := by
  refine reads_get fun place => ?_
  have hfuel : entries.length <
      ('\x7b' :: (membersChars blanks value entries ++ (ending ++ '\x7d' :: rest))).length := by
    have hle := length_le_membersChars blanks value entries
    simp only [List.length_cons, List.length_append]
    omega
  have hall := reads_membersFrom hblanks hending hfuel htakes rest
  exact (((hall.bind hfinish).enter '\x7b').ended reads_endObject).placed

/-- The first character of a value is looked at. -/
theorem reads_start {c : Char} (hblank : isBlank c = false) :
    start.Reads depth (c :: rest) c (c :: rest) :=
  (reads_next (by rintro _ ⟨⟩; exact hblank)).bind (reads_pure _)

/-- **An object is read as the map of its members**, if their values are read as they were
written. -/
theorem reads_mapOf {r : Reader α} {value : α → List Char} {blanks ending : List Char}
    (hblanks : ∀ c ∈ blanks, isBlank c = true) (hending : ∀ c ∈ ending, isBlank c = true)
    (m : SortedMap α) (hr : ∀ e ∈ m.entries, ∀ rest, EndsNumber rest →
      r.Reads (depth + 1) (value e.2 ++ rest) e.2 rest) :
    (mapOf r).Reads (depth + 2)
      ('\x7b' :: (membersChars blanks value m.entries ++ (ending ++ '\x7d' :: rest))) m rest := by
  have hmember (e : String × α) (he : e ∈ m.entries) (found : SortedMap α) (rest : List Char)
      (hrest : EndsNumber rest) :
      (do colon; return found.insert e.1 (← r)).Reads (depth + 1) (':' :: (value e.2 ++ rest))
        (found.insert e.1 e.2) rest :=
    reads_colon.bind ((hr e he rest hrest).bind (reads_pure _))
  have hmap : m.entries.foldl (fun (m : SortedMap α) e => m.insert e.1 e.2) SortedMap.empty = m :=
    m.ofList_entries
  have hall : TakesUp (fun (found : SortedMap α) name => do colon; return found.insert name (← r))
      value (depth + 1) SortedMap.empty m.entries
      (m.entries.foldl (fun m e => m.insert e.1 e.2) SortedMap.empty) :=
    takesUp_foldl m.entries hmember SortedMap.empty
  rw [hmap] at hall
  exact (reads_start (by decide)).bind (reads_members _ hblanks hending hall rest (reads_pure m))

/-- A value is read that nothing comes behind. -/
theorem Reads.whole {r : Reader α} {a : α} (h : r.Reads depth before a []) :
    (do
      let a ← r
      match ← skipBlanks with
      | none => return a
      | some _ => failNext .trailingCharacters).Reads depth before a [] :=
  h.bind ((reads_next (by simp)).bind (reads_pure a))

/-- A text that a reader takes apart as a whole is read. -/
theorem run_eq_ok {r : Reader α} {text : String} {a : α}
    (h : r.Reads depthLimit text.toList a []) : r.run text = .ok a := by
  obtain ⟨place, hrun⟩ := h.whole ⟨1, 0⟩
  rw [run]
  split
  · next b after hb =>
    cases hb.symm.trans hrun
    rfl
  · next e after he => cases he.symm.trans hrun

end Objects

end Reader

end ScriptHost
