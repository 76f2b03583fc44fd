import Mathlib.Data.List.TakeWhile
import ScriptHost.Source.Location
import ScriptHost.Source.SourceFile
/-!
# Places in bytes

An offset goes to a line and column and comes back as the same offset, unless
it is beyond the end of the text. A text that starts with a byte-order mark is
read without it, so what is read stands three bytes further on in the text.

- `Location.toOffset_ofOffset`: lines and columns keep offsets.
- `Location.slice`: the bytes of a text at an offset.
- `Span.bytes`: the bytes of a text that a span covers.
- `SourceFile.ReadFrom`: a text was read with or without the mark of another one.
- `SourceFile.ReadFrom.slice_eq`: what a span covers, in the text that was read from.
-/

namespace ScriptHost

/-! ## Bytes of texts -/

namespace Location

/-- The loop that lists bytes lists those from a place on behind what it has. -/
theorem toList_loop (bs : ByteArray) (i : Nat) (done : List UInt8) :
    ByteArray.toList.loop bs i done = done.reverse ++ bs.data.toList.drop i := by
  fun_induction ByteArray.toList.loop bs i done with
  | case1 i done h ih =>
    have hlt : i < bs.data.toList.length := by simpa using h
    have hget : bs.get! i = bs.data.toList[i] := by
      have hsize : i < bs.data.size := by simpa using h
      show bs.data[i]! = _
      rw [getElem!_pos bs.data i hsize, Array.getElem_toList]
    rw [ih, List.reverse_cons, List.append_assoc, List.drop_eq_getElem_cons hlt, hget,
      List.singleton_append]
  | case2 i done h => rw [List.drop_eq_nil_of_le (by simpa using h), List.append_nil]

theorem toList_eq (bs : ByteArray) : bs.toList = bs.data.toList := by
  rw [ByteArray.toList, toList_loop, List.reverse_nil, List.nil_append, List.drop_zero]

/-- The bytes of two texts are those of the one and then of the other. -/
theorem bytes_append (a b : String) : bytes (a ++ b) = bytes a ++ bytes b := by
  show (a ++ b).toByteArray.toList = a.toByteArray.toList ++ b.toByteArray.toList
  rw [String.toByteArray_append, toList_eq, toList_eq, toList_eq, ByteArray.data_append,
    Array.toList_append]

/-! ## Lines and columns -/

theorem foldl_lines (n : Nat) (ls : List (List UInt8)) :
    ls.foldl (fun n l => n + l.length + 1) n =
      n + ls.foldl (fun n l => n + l.length + 1) 0 := by
  induction ls generalizing n with
  | nil => rfl
  | cons l ls ih =>
    rw [List.foldl_cons, List.foldl_cons, ih, ih (0 + l.length + 1)]
    omega

/-- How many bytes stand behind the last newline. -/
def lastColumn (before : List UInt8) : Nat := (before.reverse.takeWhile (· != newline)).length

/-- A newline in front of some bytes changes nothing behind their last one. -/
theorem lastColumn_newline_cons (before : List UInt8) :
    lastColumn (newline :: before) = lastColumn before := by
  rw [lastColumn, lastColumn, List.reverse_cons, List.takeWhile_append]
  split
  · next hall =>
    rw [List.takeWhile_cons_of_neg (by simp), List.append_nil, hall]
  · rfl

/-- Any other byte in front of some bytes counts if there is no newline behind it. -/
theorem lastColumn_cons_of_ne {b : UInt8} (hb : b ≠ newline) (before : List UInt8) :
    lastColumn (b :: before) = lastColumn before + if before.count newline = 0 then 1 else 0 := by
  rw [lastColumn, lastColumn, List.reverse_cons, List.takeWhile_append]
  by_cases hnone : newline ∈ before
  · have hne : ¬ before.count newline = 0 := fun h => List.count_eq_zero.1 h hnone
    rw [if_neg hne, Nat.add_zero, if_neg]
    intro hlength
    have hall := (List.takeWhile_prefix (· != newline)).eq_of_length hlength
    have hmem : newline ∈ before.reverse.takeWhile (· != newline) := by
      rw [hall]
      exact List.mem_reverse.2 hnone
    simpa using List.all_eq_true.1 List.all_takeWhile newline hmem
  · have hpass : ∀ c ∈ before.reverse, (c != newline) = true := by
      intro c hc
      rw [bne_iff_ne]
      rintro rfl
      exact hnone (List.mem_reverse.1 hc)
    have hall : before.reverse.takeWhile (· != newline) = before.reverse :=
      List.takeWhile_eq_self_iff.2 hpass
    rw [if_pos (List.count_eq_zero.2 hnone), hall, if_pos rfl, List.length_append,
      List.takeWhile_cons_of_pos (by simpa using hb), List.takeWhile_nil, List.length_singleton]

/-- There is a line, if only an empty one. -/
theorem lines_ne_nil (bs : List UInt8) : lines bs ≠ [] := by
  cases bs with
  | nil => exact List.cons_ne_nil _ _
  | cons b bs =>
    rw [lines]
    split
    · exact List.cons_ne_nil _ _
    · split <;> exact List.cons_ne_nil _ _

/-- The lines in front of the end of some bytes, and what stands behind their last newline, make up
these bytes. -/
theorem foldl_take_lines (before rest : List UInt8) :
    ((lines (before ++ rest)).take (before.count newline)).foldl (fun n l => n + l.length + 1) 0 +
      lastColumn before = before.length := by
  induction before with
  | nil => rfl
  | cons b before ih =>
    rw [List.cons_append, lines]
    by_cases hb : b = newline
    · subst hb
      rw [if_pos (beq_self_eq_true _), List.count_cons_self, List.take_succ_cons, List.foldl_cons,
        foldl_lines, lastColumn_newline_cons, List.length_cons, ← ih]
      simp only [List.length_nil]
      omega
    · rw [if_neg (by simpa using hb), List.count_cons_of_ne hb, lastColumn_cons_of_ne hb]
      obtain ⟨l, ls, hlines⟩ := List.exists_cons_of_ne_nil (lines_ne_nil (before ++ rest))
      rw [hlines] at ih ⊢
      -- the byte is in the first line, and counts there or behind the last newline
      cases hcount : before.count newline with
      | zero =>
        rw [hcount, List.take_zero] at ih
        rw [List.take_zero, if_pos rfl, List.length_cons, ← Nat.add_assoc, ih]
      | succ n =>
        rw [hcount, List.take_succ_cons, List.foldl_cons, foldl_lines] at ih
        rw [List.take_succ_cons, List.foldl_cons, foldl_lines, if_neg (Nat.succ_ne_zero n),
          List.length_cons, List.length_cons, ← ih]
        omega

/-- **Lines and columns keep offsets**, but for those beyond the end of the text. -/
theorem toOffset_ofOffset (text : String) (offset : Nat) :
    toOffset text (ofOffset text offset) = min offset (bytes text).length := by
  have hlines := foldl_take_lines ((bytes text).take offset) ((bytes text).drop offset)
  rw [List.take_append_drop, List.length_take] at hlines
  rw [← hlines]
  rfl

/-! ## Slices -/

/-- So many bytes of a text from an offset on. -/
def slice (text : String) (start length : Nat) : List UInt8 :=
  ((bytes text).drop start).take length

end Location

open Location

/-- The bytes of a text that a span covers. -/
def Span.bytes (span : Span) (text : String) : List UInt8 :=
  ((Location.bytes text).take (span.hi - 1)).drop (span.lo - 1)

namespace SourceFile

/-- The offset and length of a span are those of the bytes that it covers. -/
theorem slice_range (text : String) (span : Span) :
    slice text (range span).1 (range span).2 = span.bytes text :=
  List.drop_take.symm

/-! ## Byte-order marks -/

/-- How many bytes the mark takes that a text starts with. -/
def markSize (source : String) : Nat :=
  if source.toList.head? = some (Char.ofNat 0xfeff) then 3 else 0

/-- A text has its mark first, and then the bytes that are read. -/
theorem bytes_withoutMark (source : String) :
    ∃ mark, bytes source = mark ++ bytes (withoutMark source) ∧ mark.length = markSize source := by
  rw [withoutMark, markSize]
  cases hsource : source.toList with
  | nil => exact ⟨[], rfl, rfl⟩
  | cons c rest =>
    by_cases hmark : c = Char.ofNat 0xfeff
    · subst hmark
      have hsplit : source = String.ofList [Char.ofNat 0xfeff] ++ String.ofList rest := by
        rw [← String.toList_inj, hsource]
        simp
      have hsize : (bytes (String.ofList [Char.ofNat 0xfeff])).length = 3 := by decide +kernel
      refine ⟨bytes (String.ofList [Char.ofNat 0xfeff]), ?_,
        by rw [hsize, List.head?_cons, if_pos rfl]⟩
      simp only [beq_self_eq_true, if_true]
      rw [← bytes_append, ← hsplit]
    · refine ⟨[], ?_, ?_⟩
      · simp [hmark]
      · simp [hmark]

/-- A text was read from a source that has so many bytes in front of it: as the source is, or
without the mark that the source starts with. -/
inductive ReadFrom (source : String) : String → Nat → Prop where
  | asIs : ReadFrom source source 0
  | unmarked : ReadFrom source (withoutMark source) (markSize source)

namespace ReadFrom

variable {source text : String} {n : Nat}

theorem exists_mark (h : ReadFrom source text n) :
    ∃ mark, bytes source = mark ++ bytes text ∧ mark.length = n := by
  cases h with
  | asIs => exact ⟨[], rfl, rfl⟩
  | unmarked => exact bytes_withoutMark source

/-- A source without a mark is read as it is. -/
theorem eq_zero (h : ReadFrom source text n) (hmark : markSize source = 0) : n = 0 := by
  cases h with
  | asIs => rfl
  | unmarked => exact hmark

/-- What stands at an offset of what was read stands behind the mark in the source. -/
theorem slice_eq (h : ReadFrom source text n) (start length : Nat) :
    slice source (n + start) length = slice text start length := by
  obtain ⟨mark, hbytes, rfl⟩ := h.exists_mark
  rw [slice, slice, hbytes, List.drop_append, List.drop_eq_nil_of_le (Nat.le_add_right _ _),
    List.nil_append, Nat.add_sub_cancel_left]

/-- It does so if both ends are cut to the size of the source. -/
theorem slice_min_eq (h : ReadFrom source text n) (start length : Nat) :
    slice source (n + min start (bytes source).length)
        (min (start + length) (bytes source).length - min start (bytes source).length) =
      slice text start length := by
  rw [h.slice_eq]
  obtain ⟨mark, hbytes, -⟩ := h.exists_mark
  have hsize : (bytes text).length ≤ (bytes source).length := by
    rw [hbytes, List.length_append]
    exact Nat.le_add_left _ _
  rw [slice, slice]
  by_cases hstart : start ≤ (bytes source).length
  · -- only the end may be cut, where the text has ended
    rw [Nat.min_eq_left hstart]
    by_cases hend : start + length ≤ (bytes source).length
    · rw [Nat.min_eq_left hend, Nat.add_sub_cancel_left]
    · rw [Nat.min_eq_right (by omega), List.take_of_length_le, List.take_of_length_le]
      · rw [List.length_drop]
        omega
      · rw [List.length_drop]
        omega
  · have hstart : (bytes source).length ≤ start := Nat.le_of_not_le hstart
    rw [Nat.min_eq_right hstart, List.drop_eq_nil_of_le hsize,
      List.drop_eq_nil_of_le (Nat.le_trans hsize hstart), List.take_nil, List.take_nil]

end ReadFrom

end SourceFile

end ScriptHost
