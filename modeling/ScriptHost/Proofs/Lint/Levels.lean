import ScriptHost.Lint.Level
import ScriptHost.Proofs.Json.Values
/-!
# The levels that values set

A value is documented to set the level of a rule by its name or by its number,
alone or as the first item of an array in which options may follow. A level is
looked for in the first item in the same way as in the whole, so an array may
stand there as well, and another one in that. Nothing else sets a level. A table
of rules is written with the numbers of its levels, and read back from them.

- `RuleLevel.Sets`: a value sets a level, inside of so many arrays.
- `RuleLevel.ofJson_eq_ok_iff`: a level is found if and only if it is set.
- `RuleLevel.Documented`: a value sets a level as it is documented.
- `RuleLevel.ReadsLevel`: what level a value is read as.
- `LintRules.parse_render`: a table is read back.
- `LintRules.readsLevels`: levels are read from values and from what tables are written as.
-/

namespace ScriptHost

namespace RuleLevel

variable {v : Json} {level : RuleLevel} {n : Nat}

/-! ## Names and numbers -/

/-- The name of a level. -/
def name : RuleLevel → String
  | off => "off" | warn => "warn" | error => "error"

theorem ofName_name (level : RuleLevel) : ofName level.name = .ok level := by
  cases level <;> rfl

/-- A level is found by its name alone. -/
theorem eq_name_of_ofName {s : String} (h : ofName s = .ok level) : s = level.name := by
  unfold ofName at h
  split at h <;> cases h <;> rfl

theorem ofNumber_severity (level : RuleLevel) : ofNumber (.nat level.severity) = .ok level := by
  cases level <;> rfl

/-- A level is found by its number alone, which is a whole one. -/
theorem eq_severity_of_ofNumber (h : ofNumber v = .ok level) : v = .nat level.severity := by
  unfold ofNumber at h
  split at h <;> cases h <;> rfl

/-! ## Values that set a level -/

/-- A value sets a level by its name or by its number, or in as many arrays as are given, each as
the first item of the next one. -/
inductive Sets : Nat → Json → RuleLevel → Prop where
  | name (level : RuleLevel) : Sets 0 (.str level.name) level
  | number (level : RuleLevel) : Sets 0 (.nat level.severity) level
  | options {n : Nat} {first : Json} {level : RuleLevel} (options : List Json) :
      Sets n first level → Sets (n + 1) (.arr (first :: options)) level

theorem Sets.ofJson_eq (h : Sets n v level) : ofJson v = .ok level := by
  induction h with
  | name level => rw [ofJson, ofName_name]
  | number level => rw [Json.nat, ofJson, ← Json.nat, ofNumber_severity]
  | options options _ ih => rw [ofJson, ih]

theorem exists_sets_of_ofJson (h : ofJson v = .ok level) : ∃ n, Sets n v level := by
  -- along the recursion: only an array that is not empty leads to another value
  fun_induction ofJson v with
  | case1 s => exact ⟨0, eq_name_of_ofName h ▸ .name level⟩
  | case2 i => exact ⟨0, eq_severity_of_ofNumber h ▸ .number level⟩
  | case3 x => cases eq_severity_of_ofNumber h
  | case4 first options ih =>
    obtain ⟨n, hn⟩ := ih h
    exact ⟨n + 1, hn.options options⟩
  | case5 other => cases h

/-- **A level is found in a value if and only if the value sets it.** -/
theorem ofJson_eq_ok_iff : ofJson v = .ok level ↔ ∃ n, Sets n v level :=
  ⟨exists_sets_of_ofJson, fun ⟨_, h⟩ => h.ofJson_eq⟩

/-- In how many arrays stands what a value has in the place of a level. -/
def levelDepth : Json → Nat
  | .arr (first :: _) => levelDepth first + 1
  | _ => 0

/-- A value sets a level in no other number of arrays. -/
theorem Sets.eq_levelDepth (h : Sets n v level) : n = levelDepth v := by
  induction h with
  | name level => rfl
  | number level => rfl
  | options options _ ih => rw [levelDepth, ← ih]

/-- A value sets a level as it is documented: alone, or as the first item of an array. -/
def Documented (v : Json) (level : RuleLevel) : Prop :=
  ∃ n ≤ 1, Sets n v level

theorem Documented.ofJson_eq (h : Documented v level) : ofJson v = .ok level := by
  obtain ⟨n, -, hn⟩ := h
  exact hn.ofJson_eq

/-- **A level that is found in another way is in two arrays or more.** -/
theorem ofJson_not_documented_iff :
    (ofJson v = .ok level ∧ ¬ Documented v level) ↔ ∃ n, Sets (n + 2) v level := by
  rw [ofJson_eq_ok_iff]
  constructor
  · rintro ⟨⟨n, hn⟩, hnot⟩
    have hmany : 1 < n := Nat.lt_of_not_le fun hle => hnot ⟨n, hle, hn⟩
    obtain ⟨n, rfl⟩ := Nat.exists_eq_add_of_le' hmany
    exact ⟨n, hn⟩
  · rintro ⟨n, hn⟩
    refine ⟨⟨n + 2, hn⟩, ?_⟩
    rintro ⟨m, hm, hfew⟩
    have heq : n + 2 = m := hn.eq_levelDepth.trans hfew.eq_levelDepth.symm
    omega

/-- Where no array stands in the place of a level, levels are found as it is documented. -/
theorem ofJson_eq_ok_iff_documented (hv : ∀ inner options, v ≠ .arr (.arr inner :: options)) :
    ofJson v = .ok level ↔ Documented v level := by
  refine ⟨fun h => ?_, Documented.ofJson_eq⟩
  by_contra hnot
  obtain ⟨n, hn⟩ := ofJson_not_documented_iff.1 ⟨h, hnot⟩
  cases hn with
  | options options hfirst =>
    cases hfirst with
    | options inner _ => exact hv _ options rfl

/-- What level a value is read as. -/
structure ReadsLevel (v : Json) : Prop where
  /-- What it is documented to set is read. -/
  documented : ∀ level, Documented v level → ofJson v = .ok level
  /-- What it sets in any number of arrays is read, and nothing else. -/
  found : ∀ level, ofJson v = .ok level ↔ ∃ n, Sets n v level
  /-- Nothing but what is documented is read if no array stands in the place of a level. -/
  plain : (∀ inner options, v ≠ .arr (.arr inner :: options)) →
    ∀ level, ofJson v = .ok level ↔ Documented v level
  /-- What else is read is what it sets in two arrays or more. -/
  nested : ∀ level, (ofJson v = .ok level ∧ ¬ Documented v level) ↔ ∃ n, Sets (n + 2) v level

theorem readsLevel (v : Json) : ReadsLevel v where
  documented := fun _ => Documented.ofJson_eq
  found := fun _ => ofJson_eq_ok_iff
  plain := fun hv _ => ofJson_eq_ok_iff_documented hv
  nested := fun _ => ofJson_not_documented_iff

/-! ## Levels that were written -/

/-- A level is read from its number. -/
theorem readsBack_reader {depth : Nat} (level : RuleLevel) :
    reader.ReadsBack (fun level => (Json.nat level.severity).chars) depth level := by
  have hwhole : (Json.int level.severity).isWhole = true := by cases level <;> decide
  have hvalue : Reader.value.ReadsBack Json.chars depth (.int level.severity) :=
    Reader.readsBack_int hwhole
  refine ⟨hvalue.starts, fun rest hrest => (hvalue.reads rest hrest).bind ?_⟩
  rw [ofJson, ← Json.nat, ofNumber_severity]
  exact Reader.reads_pure level

end RuleLevel

namespace LintRules

open RuleLevel

/-- **A table of rules is read as it was written**, whatever characters the names have. -/
theorem parse_render (rules : LintRules) : parse rules.toJson.render = .ok rules :=
  Reader.run_render (Reader.reads_ofMap fun e _ => readsBack_reader e.2)

/-- **Levels are read as it is documented**, but also out of arrays that stand in the place of a
level. However the levels of a table were set, it is read back from what it is written as. -/
theorem readsLevels (v : Json) (rules : LintRules) :
    ReadsLevel v ∧ parse rules.toJson.render = .ok rules :=
  ⟨readsLevel v, parse_render rules⟩

/-- An array that stands in the place of a level. -/
def nestedLevel : Json := .arr [.arr [.str "warn"]]

/-- It is read as a level, which it is not documented to set. -/
theorem nestedLevel_read : ofJson nestedLevel = .ok .warn ∧
    (parse (Json.obj [("a", nestedLevel)]).render).toOption.map (·.entries) =
      some [("a", .warn)] ∧
    ∀ level, ¬ Documented nestedLevel level := by
  refine ⟨rfl, by decide +kernel, ?_⟩
  rintro level ⟨n, hn, hsets⟩
  have htwo : n = 2 := hsets.eq_levelDepth
  omega

end LintRules

end ScriptHost
