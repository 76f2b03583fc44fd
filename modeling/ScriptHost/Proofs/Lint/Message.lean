import Mathlib.Tactic.ByContra
import ScriptHost.Lint.Message
/-!
# Diagnostics of messages

A message tells lines and columns, and its diagnostic tells offsets. These are
sums of machine words: where a sum is none, the call stops, or the diagnostic
tells another place, as the library was built. In all other cases the
diagnostic is about the place of the message.

- `Location.Fits`: the sum for the offset of a place is a machine word.
- `LintMessage.diagnostic`: the diagnostic of a message, with offsets of any size.
- `LintMessage.Converts`: what a diagnostic tells of a message.
- `LintMessage.diagnostic?_eq_some_iff`: when a diagnostic tells the place of its message.
-/

namespace ScriptHost

namespace Location

/-- The sum for the offset of a place is a machine word. -/
def Fits (place : Location) (text : String) : Prop :=
  lineStart text place.line + place.column < Overflow.words

variable {o : Overflow} {text : String} {place : Location} {offset : Nat}

theorem offset?_of_fits (o : Overflow) (h : place.Fits text) :
    place.offset? o text = some (toOffset text place) := by
  have hadd : o.add (lineStart text place.line) place.column =
      some (lineStart text place.line + place.column) := if_pos h
  rw [offset?, hadd, Option.map_some, toOffset]

/-- An offset is at most the last but one of the machine words. -/
theorem lt_of_offset? (h : place.offset? o text = some offset) : offset + 1 < Overflow.words := by
  obtain ⟨sum, hsum, rfl⟩ := Option.map_eq_some_iff.1 h
  have hlt : sum < Overflow.words := by
    unfold Overflow.add at hsum
    split at hsum
    · next hfits => exact Option.some.inj hsum ▸ hfits
    · cases o with
      | stops => cases hsum
      | wraps => exact Option.some.inj hsum ▸ Nat.mod_lt _ (by decide)
  have hwords : 1 < Overflow.words := by decide
  omega

/-- The offset of a place that does not fit is beyond all machine words. -/
theorem le_toOffset_of_not_fits (h : ¬ place.Fits text) :
    Overflow.words ≤ toOffset text place + 1 := by
  rw [Fits] at h
  rw [toOffset]
  omega

/-- An offset is that of the place exactly if the place fits. -/
theorem offset?_eq_toOffset_iff :
    place.offset? o text = some (toOffset text place) ↔ place.Fits text := by
  refine ⟨fun h => ?_, offset?_of_fits o⟩
  by_contra hfits
  have hlt := lt_of_offset? h
  have hle := le_toOffset_of_not_fits hfits
  omega

/-- A place that does not fit stops a call, if it is built so. -/
theorem offset?_stops_iff : place.offset? .stops text = none ↔ ¬ place.Fits text := by
  rw [offset?, Option.map_eq_none_iff, Fits]
  unfold Overflow.add
  split <;> simp [*]

end Location

namespace LintMessage

open Location (toOffset)

variable {m : LintMessage} {o : Overflow} {path source : String} {d : Diagnostic}

/-! ## Exact diagnostics -/

/-- The offset at which a problem ends, of any size. -/
def endOffset (m : LintMessage) (source : String) : Nat :=
  match m.stop? with
  | some place => toOffset source place
  | none => toOffset source m.start + 1

/-- The diagnostic of a message about a file, with offsets of any size. -/
def diagnostic (m : LintMessage) (file source : String) : Diagnostic :=
  m.diagnosticAt file (toOffset source m.start) (m.endOffset source)

/-- The sums for the offsets of a message are machine words. -/
structure Fits (m : LintMessage) (source : String) : Prop where
  start : m.start.Fits source
  stop : ∀ place, m.stop? = some place → place.Fits source

/-- A diagnostic tells what a message about a file does, in offsets. -/
structure Converts (m : LintMessage) (path source : String) (d : Diagnostic) : Prop where
  file : d.file = some path
  /-- Of all severities, only the second one is that of errors. -/
  category : (m.severity = 2 → d.category = .error) ∧ (m.severity ≠ 2 → d.category = .warning)
  rule : ∀ id, m.ruleId = some id → d.code = .text id
  /-- What is of no rule has the name of the message, or that of the linter. -/
  unruled : m.ruleId = none → ∀ id, m.messageId = some id → d.code = .text id
  unnamed : m.ruleId = none → m.messageId = none → d.code = .text "eslint"
  start : d.start = some (toOffset source m.start)
  /-- The diagnostic ends where the message does, and it is empty if that is in front of its
  start. -/
  length : ∀ line column, m.endLine = some line → m.endColumn = some column →
    d.length = some (toOffset source ⟨line, column⟩ - toOffset source m.start)
  /-- Without a line or column of its end, it is one byte long. -/
  unended : m.endLine = none ∨ m.endColumn = none → d.length = some 1
  messageText : d.messageText = m.message

/-- The diagnostic with offsets of any size tells what its message does. -/
theorem converts_diagnostic (m : LintMessage) (path source : String) :
    m.Converts path source (m.diagnostic path source) where
  file := rfl
  category := by constructor <;> intro hseverity <;> simp [diagnostic, diagnosticAt, hseverity]
  rule id hid := by simp [diagnostic, diagnosticAt, hid]
  unruled hnone id hid := by simp [diagnostic, diagnosticAt, hnone, hid]
  unnamed hnone hnone' := by simp [diagnostic, diagnosticAt, hnone, hnone', fallbackCode]
  start := rfl
  length line column hline hcolumn := by
    simp [diagnostic, diagnosticAt, endOffset, stop?, hline, hcolumn]
  unended hnone := by
    have hstop : m.stop? = none := by
      rw [stop?]
      rcases hnone with hnone | hnone
      · rw [hnone]
      · rw [hnone]
        cases m.endLine <;> rfl
    simp [diagnostic, diagnosticAt, endOffset, hstop]
  messageText := rfl

/-- No other diagnostic tells what the message does. -/
theorem Converts.eq_diagnostic (h : m.Converts path source d) : d = m.diagnostic path source := by
  have hd := m.converts_diagnostic path source
  have hcategory : d.category = (m.diagnostic path source).category := by
    by_cases hseverity : m.severity = 2
    · rw [h.category.1 hseverity, hd.category.1 hseverity]
    · rw [h.category.2 hseverity, hd.category.2 hseverity]
  have hcode : d.code = (m.diagnostic path source).code := by
    cases hid : m.ruleId with
    | some id => rw [h.rule id hid, hd.rule id hid]
    | none =>
      cases hid' : m.messageId with
      | some id => rw [h.unruled hid id hid', hd.unruled hid id hid']
      | none => rw [h.unnamed hid hid', hd.unnamed hid hid']
  have hlength : d.length = (m.diagnostic path source).length := by
    cases hline : m.endLine with
    | none => rw [h.unended (.inl hline), hd.unended (.inl hline)]
    | some line =>
      cases hcolumn : m.endColumn with
      | none => rw [h.unended (.inr hcolumn), hd.unended (.inr hcolumn)]
      | some column => rw [h.length line column hline hcolumn, hd.length line column hline hcolumn]
  obtain ⟨file, category, code, start, length, messageText⟩ := d
  obtain rfl : file = some path := h.file
  obtain rfl : start = some (toOffset source m.start) := h.start
  obtain rfl : messageText = m.message := h.messageText
  subst hcategory hcode hlength
  rfl

/-! ## Diagnostics with machine words -/

/-- A diagnostic is made of two offsets that are machine words. -/
theorem diagnostic?_eq_some : m.diagnostic? o path source = some d ↔
    ∃ start stop, m.start.offset? o source = some start ∧
      m.stopOffset? o source start = some stop ∧ m.diagnosticAt path start stop = d := by
  rw [diagnostic?]
  simp only [Option.bind_eq_bind, Option.bind_eq_some_iff, Option.pure_def, Option.some_inj]
  exact ⟨fun ⟨start, hstart, stop, hstop, hd⟩ => ⟨start, stop, hstart, hstop, hd⟩,
    fun ⟨start, stop, hstart, hstop, hd⟩ => ⟨start, hstart, stop, hstop, hd⟩⟩

theorem stopOffset?_of_stop? {place : Location} (h : m.stop? = some place) (start : Nat) :
    m.stopOffset? o source start = place.offset? o source := by
  simp only [stopOffset?, h]

/-- A problem of a message that fits ends where it should. -/
theorem stopOffset?_of_fits (o : Overflow) (h : m.Fits source) :
    m.stopOffset? o source (toOffset source m.start) = some (m.endOffset source) := by
  cases hstop : m.stop? with
  | some place =>
    rw [stopOffset?_of_stop? hstop, Location.offset?_of_fits o (h.stop place hstop), endOffset,
      hstop]
  | none =>
    simp only [stopOffset?, endOffset, hstop]
    exact if_pos (Location.lt_of_offset? (Location.offset?_of_fits o h.start))

/-- A message that fits has its diagnostic. -/
theorem diagnostic?_of_fits (o : Overflow) (path : String) (h : m.Fits source) :
    m.diagnostic? o path source = some (m.diagnostic path source) :=
  diagnostic?_eq_some.2
    ⟨_, _, Location.offset?_of_fits o h.start, stopOffset?_of_fits o h, rfl⟩

/-- **A diagnostic tells the place of its message** exactly if the message fits. -/
theorem diagnostic?_eq_some_iff (hd : m.Converts path source d) :
    m.diagnostic? o path source = some d ↔ m.Fits source := by
  constructor
  · intro h
    obtain ⟨start, stop, hstart, hstop, rfl⟩ := diagnostic?_eq_some.1 h
    have hsame : start = toOffset source m.start := Option.some.inj hd.start
    subst hsame
    refine ⟨Location.offset?_eq_toOffset_iff.1 hstart, fun place hplace => ?_⟩
    by_contra hfits
    -- the diagnostic would have to end beyond all machine words
    have hlength : stop - toOffset source m.start =
        toOffset source place - toOffset source m.start := by
      have heq := congrArg Diagnostic.length hd.eq_diagnostic
      simpa [diagnostic, diagnosticAt, endOffset, hplace] using heq
    rw [stopOffset?_of_stop? hplace] at hstop
    have hlt := Location.lt_of_offset? hstop
    have hlt' := Location.lt_of_offset? hstart
    have hle := Location.le_toOffset_of_not_fits hfits
    omega
  · intro h
    rw [diagnostic?_of_fits o path h, hd.eq_diagnostic]

/-- **A message that does not fit stops a call**, if it is built so. -/
theorem diagnostic?_stops_iff : m.diagnostic? .stops path source = none ↔ ¬ m.Fits source := by
  constructor
  · intro h hfits
    rw [diagnostic?_of_fits .stops path hfits] at h
    cases h
  · intro hfits
    rw [← Option.not_isSome_iff_eq_none, Option.isSome_iff_exists]
    rintro ⟨d, hd⟩
    obtain ⟨start, stop, hstart, hstop, -⟩ := diagnostic?_eq_some.1 hd
    refine hfits ⟨?_, fun place hplace => ?_⟩
    · by_contra hplace
      rw [Location.offset?_stops_iff.2 hplace] at hstart
      cases hstart
    · by_contra hfits
      rw [stopOffset?_of_stop? hplace, Location.offset?_stops_iff.2 hfits] at hstop
      cases hstop

end LintMessage

end ScriptHost
