import ScriptHost.Diagnostic.Basic
import ScriptHost.Result.Failure
/-!
# Computations that report

What a caller hands in to a call can report and can stop. What has been
reported stays reported.

- `Action`: a computation that may report and may stop.
- `Action.report`, `Action.stop`: what it can do.
- `Action.Yields`, `Action.Stops`: how a computation ends after earlier reports.
- `Action.Gives`: ends with a value and reports nothing.
-/

namespace ScriptHost

/-- Computations that report diagnostics and may end in an exception. -/
structure Action (α : Type) where
  /-- The outcome after the reports that were made before, with these and the new ones. -/
  run : List Report → Except Exception (α × List Report)
  /-- No report is taken back. -/
  keeps : ∀ {before a after}, run before = .ok (a, after) → before <+: after

namespace Action

variable {α β : Type}

/-- Ends with a value. -/
protected def pure (a : α) : Action α where
  run reports := .ok (a, reports)
  keeps h := by
    cases h
    exact List.prefix_rfl

/-- One computation after another. -/
protected def bind (x : Action α) (f : α → Action β) : Action β where
  run reports :=
    match x.run reports with
    | .ok (a, reports) => (f a).run reports
    | .error e => .error e
  keeps {before b after} h := by
    cases hx : x.run before with
    | error e => simp [hx] at h
    | ok r =>
      obtain ⟨a, middle⟩ := r
      simp only [hx] at h
      exact (x.keeps hx).trans ((f a).keeps h)

instance : Monad Action where
  pure := Action.pure
  bind := Action.bind

/-- Reports diagnostics. -/
def reportAll (found : List Report) : Action Unit where
  run reports := .ok ((), reports ++ found)
  keeps h := by
    cases h
    exact List.prefix_append _ _

/-- Reports a diagnostic. -/
def report (r : Report) : Action Unit := reportAll [r]

/-- Ends in an exception. -/
def throw (e : Exception) : Action α where
  run _ := .error e
  keeps h := by cases h

/-- Stops with a text. -/
def stop (text : String) : Action α := throw (.stopped text)

/-- Fails for a cause. -/
def fail (d : Defect) : Action α := throw (.failure (.ofDefect d))

/-! ## How a computation ends -/

/-- After some reports the computation ends with a value and makes further ones. -/
def Yields (x : Action α) (before : List Report) (a : α) (found : List Report) : Prop :=
  x.run before = .ok (a, before ++ found)

/-- After some reports the computation ends in an exception. -/
def Stops (x : Action α) (before : List Report) (e : Exception) : Prop := x.run before = .error e

section Ends

variable {x : Action α} {f : α → Action β} {before found : List Report}

/-- Every computation ends in one of the two ways. -/
theorem yields_or_stops (x : Action α) (before : List Report) :
    (∃ a found, x.Yields before a found) ∨ ∃ e, x.Stops before e := by
  cases hx : x.run before with
  | error e => exact .inr ⟨e, hx⟩
  | ok r =>
    obtain ⟨a, after⟩ := r
    obtain ⟨found, rfl⟩ := x.keeps hx
    exact .inl ⟨a, found, hx⟩

/-- A computation ends in one way only. -/
theorem Yields.unique {a b : α} {other : List Report} (hx : x.Yields before a found)
    (hother : x.Yields before b other) : a = b ∧ found = other := by
  have h := hx.symm.trans hother
  simpa using h

theorem Yields.not_stops {a : α} {e : Exception} (hx : x.Yields before a found) :
    ¬ x.Stops before e := by
  intro h
  cases hx.symm.trans h

theorem yields_pure {a b : α} : (pure a : Action α).Yields before b found ↔ a = b ∧ found = [] := by
  show Except.ok (a, before) = Except.ok (b, before ++ found) ↔ _
  simp

theorem not_stops_pure {a : α} {e : Exception} : ¬ (pure a : Action α).Stops before e := by
  intro h
  cases h

theorem yields_reportAll {reports : List Report} {u : Unit} :
    (reportAll reports).Yields before u found ↔ found = reports := by
  show Except.ok ((), before ++ reports) = Except.ok ((), before ++ found) ↔ _
  simp [eq_comm]

theorem not_stops_reportAll {reports : List Report} {e : Exception} :
    ¬ (reportAll reports).Stops before e := by
  intro h
  cases h

theorem not_yields_throw {e : Exception} {a : α} : ¬ (throw e).Yields before a found := by
  intro h
  cases h

theorem stops_throw {e e' : Exception} : (throw e : Action α).Stops before e' ↔ e = e' := by
  show Except.error e = Except.error e' ↔ _
  simp

/-- Of two computations, the second one goes on with what the first one yields. -/
theorem yields_bind {b : β} : (x >>= f).Yields before b found ↔
    ∃ a first rest, x.Yields before a first ∧ (f a).Yields (before ++ first) b rest ∧
      found = first ++ rest := by
  show (match x.run before with
    | .ok (a, reports) => (f a).run reports
    | .error e => .error e) = _ ↔ _
  constructor
  · intro h
    rcases yields_or_stops x before with ⟨a, first, hx⟩ | ⟨e, hx⟩
    · rw [hx] at h
      obtain ⟨rest, hrest⟩ := (f a).keeps h
      rw [List.append_assoc, List.append_cancel_left_eq] at hrest
      subst hrest
      exact ⟨a, first, rest, hx, by rw [Yields, List.append_assoc]; exact h, rfl⟩
    · rw [hx] at h
      cases h
  · rintro ⟨a, first, rest, hx, hf, rfl⟩
    rw [hx, ← List.append_assoc]
    exact hf

/-- Two computations stop where the first one stops or the second one. -/
theorem stops_bind {e : Exception} : (x >>= f).Stops before e ↔
    x.Stops before e ∨ ∃ a first, x.Yields before a first ∧ (f a).Stops (before ++ first) e := by
  show (match x.run before with
    | .ok (a, reports) => (f a).run reports
    | .error e => .error e) = _ ↔ _
  rcases yields_or_stops x before with ⟨a, first, hx⟩ | ⟨e', hx⟩
  · rw [hx]
    constructor
    · exact fun h => .inr ⟨a, first, hx, h⟩
    · rintro (h | ⟨a', first', hx', h⟩)
      · exact absurd h hx.not_stops
      · obtain ⟨rfl, rfl⟩ := hx.unique hx'
        exact h
  · rw [hx]
    constructor
    · intro h
      obtain rfl : e' = e := Except.error.inj h
      exact .inl hx
    · rintro (h | ⟨a', first', hx', -⟩)
      · obtain rfl : e' = e := Except.error.inj (hx.symm.trans h)
        rfl
      · exact absurd hx hx'.not_stops

/-- Whether the computation ends with a value and reports that pass a check. -/
def passes (x : Action α) (check : α → List Report → Bool) : Bool :=
  match x.run [] with
  | .ok (a, reports) => check a reports
  | .error _ => false

theorem yields_of_passes {check : α → List Report → Bool} (h : x.passes check = true) :
    ∃ a found, x.Yields [] a found ∧ check a found = true := by
  rw [passes] at h
  rcases yields_or_stops x [] with ⟨a, found, hx⟩ | ⟨e, hx⟩
  · rw [hx] at h
    exact ⟨a, found, hx, h⟩
  · rw [hx] at h
    cases h

end Ends

/-! ## Ending without a report -/

/-- The computation ends with a value and reports nothing. -/
def Gives (x : Action α) (a : α) : Prop := x.run [] = .ok (a, [])

theorem gives_iff_yields {x : Action α} {a : α} : x.Gives a ↔ x.Yields [] a [] := Iff.rfl

theorem gives_pure {a b : α} : (pure a : Action α).Gives b ↔ a = b := by
  rw [gives_iff_yields, yields_pure, and_iff_left rfl]

theorem not_gives_throw {e : Exception} {a : α} : ¬ (throw e : Action α).Gives a :=
  not_yields_throw

/-- Of two computations that report nothing together, neither reports. -/
theorem gives_bind {x : Action α} {f : α → Action β} {b : β} :
    (x >>= f).Gives b ↔ ∃ a, x.Gives a ∧ (f a).Gives b := by
  simp only [gives_iff_yields, yields_bind]
  constructor
  · rintro ⟨a, first, rest, hx, hf, hnil⟩
    obtain ⟨rfl, rfl⟩ := List.append_eq_nil_iff.1 hnil.symm
    exact ⟨a, hx, hf⟩
  · rintro ⟨a, hx, hf⟩
    exact ⟨a, [], [], hx, hf, rfl⟩

end Action

end ScriptHost
