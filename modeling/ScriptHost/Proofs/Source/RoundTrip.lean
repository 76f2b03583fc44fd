import Mathlib.Data.List.TakeWhile
import ScriptHost.Lint.Rules
import ScriptHost.Proofs.Lint.Message
import ScriptHost.Proofs.Source.Location
/-!
# Places and offsets that come back

Offsets up to the end of a text and the places in its lines stand for each
other: each line has a column for each of its bytes, and one more for its end.
So a linter may tell lines and columns, and nothing of its offsets is lost.

- `Location.IsIn`: a place is in a text.
- `Location.splitAt_of_line`: what stands in front of a line.
- `Location.ofOffset_toOffset_iff`: the places that come back from their offsets.
- `Addressable`: the offsets of a text are machine words.
- `Location.roundTrips`: offsets and places, and what rules find, come back.
-/

namespace ScriptHost

namespace Location

/-- A place is in a text: its line is there, and its column is that of a byte of this line or of
the end of the line. -/
structure IsIn (place : Location) (text : String) : Prop where
  line_pos : 1 ≤ place.line
  column_pos : 1 ≤ place.column
  column_le : ∃ line, (lines (bytes text))[place.line - 1]? = some line ∧
    place.column ≤ line.length + 1

/-! ## Lines in front of a place -/

/-- Bytes without a newline all stand behind the last newline of what is in front of them. -/
theorem lastColumn_append {front line : List UInt8} (hline : newline ∉ line) :
    lastColumn (front ++ line) = lastColumn front + line.length := by
  have hpass : ∀ b ∈ line.reverse, (b != newline) = true := by
    intro b hb
    rw [bne_iff_ne]
    rintro rfl
    exact hline (List.mem_reverse.1 hb)
  rw [lastColumn, List.reverse_append, List.takeWhile_append_of_pos hpass, List.length_append,
    List.length_reverse, Nat.add_comm]
  rfl

/-- A newline ends the first line. -/
theorem lines_newline_cons (bs : List UInt8) : lines (newline :: bs) = [] :: lines bs := by
  rw [lines, if_pos (beq_self_eq_true _)]

/-- Any other byte is in the first line. -/
theorem exists_lines_cons {b : UInt8} (hb : b ≠ newline) (bs : List UInt8) :
    ∃ first others, lines bs = first :: others ∧ lines (b :: bs) = (b :: first) :: others := by
  obtain ⟨first, others, hlines⟩ := List.exists_cons_of_ne_nil (lines_ne_nil bs)
  refine ⟨first, others, hlines, ?_⟩
  rw [lines, if_neg (by simpa using hb), hlines]

/-- Lines have no newline. -/
theorem newline_not_mem_of_mem_lines {bs line : List UInt8} (h : line ∈ lines bs) :
    newline ∉ line := by
  induction bs generalizing line with
  | nil =>
    rw [List.mem_singleton.1 h]
    exact List.not_mem_nil
  | cons b bs ih =>
    by_cases hb : b = newline
    · subst hb
      rw [lines_newline_cons] at h
      rcases List.mem_cons.1 h with rfl | h
      · exact List.not_mem_nil
      · exact ih h
    · obtain ⟨first, others, hlines, hcons⟩ := exists_lines_cons hb bs
      rw [hlines] at ih
      rw [hcons] at h
      rcases List.mem_cons.1 h with rfl | h
      · have hfirst : newline ∉ first := ih List.mem_cons_self
        exact List.not_mem_cons_of_ne_of_not_mem (Ne.symm hb) hfirst
      · exact ih (List.mem_cons_of_mem _ h)

/-- **What stands in front of a line**: as many newlines as there are lines before it, with the last
of them at the end. The lines before it take up just these bytes. -/
theorem splitAt_of_line {bs line : List UInt8} {n : Nat} (h : (lines bs)[n]? = some line) :
    ∃ front rest, bs = front ++ line ++ rest ∧ front.count newline = n ∧ lastColumn front = 0 ∧
      ((lines bs).take n).foldl (fun n l => n + l.length + 1) 0 = front.length := by
  induction bs generalizing n line with
  | nil =>
    cases n with
    | zero =>
      obtain rfl : [] = line := Option.some.inj h
      exact ⟨[], [], rfl, rfl, rfl, rfl⟩
    | succ n => cases h
  | cons b bs ih =>
    by_cases hb : b = newline
    · subst hb
      rw [lines_newline_cons] at h ⊢
      cases n with
      | zero =>
        obtain rfl : [] = line := Option.some.inj h
        exact ⟨[], newline :: bs, rfl, rfl, rfl, rfl⟩
      | succ n =>
        obtain ⟨front, rest, rfl, hcount, hlast, hlength⟩ := ih h
        refine ⟨newline :: front, rest, rfl, ?_, ?_, ?_⟩
        · rw [List.count_cons_self, hcount]
        · rw [lastColumn_newline_cons, hlast]
        · rw [List.take_succ_cons, List.foldl_cons, foldl_lines, hlength, List.length_cons,
            List.length_nil]
          omega
    · obtain ⟨first, others, hlines, hcons⟩ := exists_lines_cons hb bs
      rw [hlines] at ih
      rw [hcons] at h ⊢
      cases n with
      | zero =>
        -- the byte is in the line itself, which has nothing in front of it
        obtain rfl : b :: first = line := Option.some.inj h
        obtain ⟨front, rest, hsplit, -, -, hlength⟩ := ih (n := 0) rfl
        obtain rfl : front = [] := List.length_eq_zero_iff.1 hlength.symm
        exact ⟨[], rest, by rw [hsplit]; rfl, rfl, rfl, rfl⟩
      | succ n =>
        have hline : (first :: others)[n + 1]? = some line := h
        obtain ⟨front, rest, rfl, hcount, hlast, hlength⟩ := ih hline
        refine ⟨b :: front, rest, rfl, ?_, ?_, ?_⟩
        · rw [List.count_cons_of_ne hb, hcount]
        · rw [lastColumn_cons_of_ne hb, hlast, hcount, if_neg (Nat.succ_ne_zero n)]
        · rw [List.take_succ_cons, List.foldl_cons, foldl_lines] at hlength ⊢
          rw [List.length_cons, List.length_cons, ← hlength]
          omega

/-- What stands behind the last newline is the front of a line. -/
theorem exists_line_of_split (before rest : List UInt8) :
    ∃ line, (lines (before ++ rest))[before.count newline]? = some line ∧
      lastColumn before ≤ line.length := by
  induction before with
  | nil =>
    obtain ⟨first, others, hlines⟩ := List.exists_cons_of_ne_nil (lines_ne_nil rest)
    rw [List.nil_append, hlines]
    exact ⟨first, rfl, Nat.zero_le _⟩
  | cons b before ih =>
    obtain ⟨line, hline, hle⟩ := ih
    rw [List.cons_append]
    by_cases hb : b = newline
    · subst hb
      rw [lines_newline_cons, List.count_cons_self, lastColumn_newline_cons]
      exact ⟨line, hline, hle⟩
    · obtain ⟨first, others, hlines, hcons⟩ := exists_lines_cons hb (before ++ rest)
      rw [hlines] at hline
      rw [hcons, List.count_cons_of_ne hb, lastColumn_cons_of_ne hb]
      cases hcount : before.count newline with
      | zero =>
        rw [hcount] at hline
        obtain rfl : first = line := Option.some.inj hline
        exact ⟨b :: first, rfl, Nat.succ_le_succ hle⟩
      | succ n =>
        rw [hcount] at hline
        rw [if_neg (Nat.succ_ne_zero n)]
        exact ⟨line, hline, hle⟩

/-! ## Places that come back -/

/-- The place of an offset is in the text. -/
theorem isIn_ofOffset (text : String) (offset : Nat) : (ofOffset text offset).IsIn text := by
  obtain ⟨line, hline, hle⟩ :=
    exists_line_of_split ((bytes text).take offset) ((bytes text).drop offset)
  rw [List.take_append_drop] at hline
  exact ⟨Nat.le_add_left 1 _, Nat.le_add_left 1 _, line, hline, Nat.succ_le_succ hle⟩

/-- A place in a text comes back from its offset. -/
theorem IsIn.ofOffset_toOffset {place : Location} {text : String} (h : place.IsIn text) :
    ofOffset text (toOffset text place) = place := by
  obtain ⟨hline_pos, hcolumn_pos, line, hline, hcolumn⟩ := h
  obtain ⟨front, rest, hsplit, hcount, hlast, hlength⟩ := splitAt_of_line hline
  have hnone : newline ∉ line.take (place.column - 1) := fun hmem =>
    newline_not_mem_of_mem_lines (List.mem_of_getElem? hline) (List.mem_of_mem_take hmem)
  have hoffset : toOffset text place = front.length + (place.column - 1) := by
    show List.foldl _ 0 _ + place.column - 1 = _
    rw [hlength]
    omega
  -- the offset cuts the line at the column
  have htake : (bytes text).take (toOffset text place) = front ++ line.take (place.column - 1) := by
    rw [hoffset, hsplit, List.append_assoc, List.take_length_add_append,
      List.take_append_of_le_length (by omega)]
  have hcolumn : lastColumn (front ++ line.take (place.column - 1)) = place.column - 1 := by
    rw [lastColumn_append hnone, hlast, List.length_take]
    omega
  have hlines : (front ++ line.take (place.column - 1)).count newline = place.line - 1 := by
    rw [List.count_append, hcount, List.count_eq_zero.2 hnone, Nat.add_zero]
  rw [ofOffset, htake]
  show Location.mk (List.count newline _ + 1) (lastColumn _ + 1) = place
  rw [hlines, hcolumn, Nat.sub_add_cancel hline_pos, Nat.sub_add_cancel hcolumn_pos]

/-- **Places come back from their offsets** exactly if they are in the text. -/
theorem ofOffset_toOffset_iff {place : Location} {text : String} :
    ofOffset text (toOffset text place) = place ↔ place.IsIn text := by
  constructor
  · intro h
    rw [← h]
    exact isIn_ofOffset text _
  · exact IsIn.ofOffset_toOffset

end Location

/-! ## Texts in memory -/

/-- The offsets of a text are machine words, and so is one beyond its end. No text in memory is
longer. -/
def Addressable (text : String) : Prop := (Location.bytes text).length + 1 < Overflow.words

namespace Location

/-- Places of offsets fit. -/
theorem fits_ofOffset {text : String} (h : Addressable text) (offset : Nat) :
    (ofOffset text offset).Fits text := by
  have hoffset := toOffset_ofOffset text offset
  have hcolumn := (isIn_ofOffset text offset).column_pos
  rw [toOffset] at hoffset
  rw [Addressable] at h
  rw [Fits]
  omega

/-- Places in a text fit. -/
theorem IsIn.fits {place : Location} {text : String} (hplace : place.IsIn text)
    (h : Addressable text) : place.Fits text := by
  rw [← hplace.ofOffset_toOffset]
  exact fits_ofOffset h _

end Location

/-! ## Findings of rules -/

namespace Finding

open SourceFile (range)

/-- Findings fit. -/
theorem fits_toMessage (f : Finding) (rule : String) (level : RuleLevel) {source : String}
    (h : Addressable source) : (f.toMessage rule level source).Fits source where
  start := Location.fits_ofOffset h _
  stop place hplace := by
    obtain rfl := Option.some.inj hplace
    exact Location.fits_ofOffset h _

/-- A finding starts where its span does, or at the end of the text. -/
theorem toOffset_start (f : Finding) (rule : String) (level : RuleLevel) (source : String) :
    Location.toOffset source (f.toMessage rule level source).start =
      min (range f.span).1 (Location.bytes source).length :=
  Location.toOffset_ofOffset source (range f.span).1

/-- A finding ends where its span does, or at the end of the text. -/
theorem endOffset_toMessage (f : Finding) (rule : String) (level : RuleLevel) (source : String) :
    (f.toMessage rule level source).endOffset source =
      min ((range f.span).1 + (range f.span).2) (Location.bytes source).length :=
  Location.toOffset_ofOffset source ((range f.span).1 + (range f.span).2)

end Finding

namespace Location

/-- **Offsets and places come back from each other.** An offset up to the end of the text comes back
from its line and column, and one beyond as the end; a line and column come back from their offset
exactly if they are in the text. So the diagnostic of a finding starts and ends where its span
does, as far as the text goes. Texts in memory are short enough for all of this to be the same with
machine words, whatever these do with sums that are none. -/
theorem roundTrips (text : String) :
    (∀ offset, toOffset text (ofOffset text offset) = min offset (bytes text).length) ∧
    (∀ place : Location, ofOffset text (toOffset text place) = place ↔ place.IsIn text) ∧
    (∀ (f : Finding) (rule path : String) (level : RuleLevel),
      ((f.toMessage rule level text).diagnostic path text).start =
        some (min (SourceFile.range f.span).1 (bytes text).length) ∧
      ((f.toMessage rule level text).diagnostic path text).length =
        some (min ((SourceFile.range f.span).1 + (SourceFile.range f.span).2) (bytes text).length -
          min (SourceFile.range f.span).1 (bytes text).length)) ∧
    (Addressable text → ∀ o : Overflow,
      (∀ offset, (ofOffset text offset).offset? o text = some (min offset (bytes text).length)) ∧
      (∀ place : Location, place.IsIn text → place.offset? o text = some (toOffset text place)) ∧
      ∀ (f : Finding) (rule path : String) (level : RuleLevel),
        (f.toMessage rule level text).diagnostic? o path text =
          some ((f.toMessage rule level text).diagnostic path text)) := by
  refine ⟨toOffset_ofOffset text, fun place => ofOffset_toOffset_iff,
    fun f rule path level => ⟨?_, ?_⟩, fun h o => ⟨fun offset => ?_, fun place hplace => ?_, ?_⟩⟩
  · exact congrArg some (f.toOffset_start rule level text)
  · show some (LintMessage.endOffset _ text - toOffset text _) = _
    rw [f.endOffset_toMessage, f.toOffset_start]
  · rw [offset?_of_fits o (fits_ofOffset h offset), toOffset_ofOffset]
  · exact offset?_of_fits o (hplace.fits h)
  · exact fun f rule path level => LintMessage.diagnostic?_of_fits o path
      (f.fits_toMessage rule level h)

/-- Places behind a line with a carriage return, in an empty line, behind a character of two bytes
and in the empty line at the end. -/
example : (ofOffset "a\r\n\n\u00e9b\n" 2, ofOffset "a\r\n\n\u00e9b\n" 3,
    ofOffset "a\r\n\n\u00e9b\n" 6, ofOffset "a\r\n\n\u00e9b\n" 8) =
      (⟨1, 3⟩, ⟨2, 1⟩, ⟨3, 3⟩, ⟨4, 1⟩) := by
  decide +kernel

end Location

end ScriptHost
