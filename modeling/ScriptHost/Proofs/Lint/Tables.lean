import ScriptHost.Lint.Rules
import ScriptHost.Proofs.Data.StableSort
/-!
# Tables of rules

Every message about a text that can be read has the name of the rule that it is
about, and each rule of a table is asked by itself. The messages of all rules
are sorted by their places, and as sorting is stable, those of one rule are in
the order in which this rule alone would have given them. So a table is as good
as its rules one by one.

- `Program.verify_eq`: the messages about a text that can be read.
- `Program.filter_verify`: the messages of one rule among them.
- `Program.VerifiesApart`, `Program.verify_apart`: no rule has a say in the messages of another.
-/

namespace ScriptHost

namespace LintMessage

/-- A message stands before another, or both stand at one place. -/
theorem standsBy_iff {a b : LintMessage} : standsBy a b = true ↔
    a.start.line < b.start.line ∨
      a.start.line = b.start.line ∧ a.start.column ≤ b.start.column := by
  simp [standsBy]

theorem standsBy_trans (a b c : LintMessage) (hab : standsBy a b = true)
    (hbc : standsBy b c = true) : standsBy a c = true := by
  rw [standsBy_iff] at hab hbc ⊢
  omega

theorem standsBy_total (a b : LintMessage) : (standsBy a b || standsBy b a) = true := by
  rw [Bool.or_eq_true, standsBy_iff, standsBy_iff]
  omega

end LintMessage

theorem RuleLevel.beq_off_iff {level : RuleLevel} : (level == .off) = true ↔ level = .off := by
  cases level <;> decide

/-- The rules are found by their full names. -/
theorem LintRule.named?_eq_none_iff {name : String} : named? name = none ↔ name ∉ names := by
  simp [named?, names]

namespace Program

variable {p : Program} {file : SourceFile} {rules : LintRules} {path source name : String}
  {level : RuleLevel}

/-! ## The messages of one rule -/

/-- A message has the name of the rule that gives it, and the rule is not off. -/
theorem of_mem_ruleMessages {m : LintMessage} (h : m ∈ p.ruleMessages file source name level) :
    m.ruleId = some name ∧ level ≠ .off := by
  rw [ruleMessages] at h
  split at h
  · cases h
  · next hon =>
    refine ⟨?_, fun hoff => hon (RuleLevel.beq_off_iff.2 hoff)⟩
    split at h
    · obtain ⟨finding, -, rfl⟩ := List.mem_map.1 h
      rfl
    · rw [List.mem_singleton.1 h]
      rfl

/-- The messages of a rule that there is not say so, once. -/
theorem ruleMessages_of_unknown (hlevel : level ≠ .off) (hname : name ∉ LintRule.names) :
    p.ruleMessages file source name level = [.unknownRule name level] := by
  rw [ruleMessages, if_neg (mt RuleLevel.beq_off_iff.1 hlevel), LintRule.named?_eq_none_iff.2 hname]

/-- Among the messages of a rule are those of its name, and no others. -/
theorem filter_ruleMessages (other : String) :
    (p.ruleMessages file source other level).filter (·.ruleId == some name) =
      if other = name then p.ruleMessages file source other level else [] := by
  split
  · next heq =>
    refine List.filter_eq_self.2 fun m hm => ?_
    rw [(of_mem_ruleMessages hm).1, heq, beq_self_eq_true]
  · next hne =>
    refine List.filter_eq_nil_iff.2 fun m hm => ?_
    rw [(of_mem_ruleMessages hm).1, beq_iff_eq, Option.some.injEq]
    exact hne

/-! ## The messages of a table -/

/-- The messages that a table has for a rule: none if the rule is not in it. -/
def messagesOf (p : Program) (file : SourceFile) (source : String) (rules : LintRules)
    (name : String) : List LintMessage :=
  ((rules.get? name).map (p.ruleMessages file source name)).getD []

/-- Of what the rules of a table say, each rule says what is said in its name. -/
theorem filter_flatMap_ruleMessages {entries : List (String × RuleLevel)}
    (hnodup : (entries.map (·.1)).Nodup) :
    (entries.flatMap fun e => p.ruleMessages file source e.1 e.2).filter (·.ruleId == some name) =
      ((entries.lookup name).map (p.ruleMessages file source name)).getD [] := by
  rw [List.filter_flatMap]
  simp only [filter_ruleMessages]
  induction entries with
  | nil => rfl
  | cons e rest ih =>
    obtain ⟨other, level⟩ := e
    obtain ⟨hother, hrest⟩ := List.nodup_cons.1 hnodup
    rw [List.flatMap_cons, ih hrest, SortedMap.lookup_cons_eq_ite]
    by_cases hname : other = name
    · -- no other entry has this name
      have hnone : rest.lookup name = none := by
        rw [List.lookup_eq_none_iff]
        intro e he
        rw [bne_iff_ne]
        rintro rfl
        exact hother (List.mem_map.2 ⟨e, he, hname.symm⟩)
      rw [if_pos hname, if_pos hname.symm, hnone, hname]
      exact List.append_nil _
    · rw [if_neg hname, if_neg (Ne.symm hname), List.nil_append]

section

variable (hread : (p.fileWithText path source).syntaxErrors = [])

include hread

/-- The messages about a text that can be read are those of the rules, in the order of their
places. -/
theorem verify_eq (rules : LintRules) : p.verify rules path source =
    (rules.entries.flatMap fun e =>
      p.ruleMessages (p.fileWithText path source) source e.1 e.2).mergeSort
        LintMessage.standsBy := by
  simp only [verify, hread]

/-- **The messages of one rule** are what the rule says, in the order of the places. -/
theorem filter_verify (rules : LintRules) (name : String) :
    (p.verify rules path source).filter (·.ruleId == some name) =
      (p.messagesOf (p.fileWithText path source) source rules name).mergeSort
        LintMessage.standsBy := by
  rw [verify_eq hread, filter_mergeSort LintMessage.standsBy_trans LintMessage.standsBy_total,
    filter_flatMap_ruleMessages rules.nodup_keys]
  rfl

/-- A table of one rule has the messages of this rule. -/
theorem verify_single (name : String) (level : RuleLevel) :
    p.verify (.ofList [(name, level)]) path source =
      (p.ruleMessages (p.fileWithText path source) source name level).mergeSort
        LintMessage.standsBy := by
  rw [verify_eq hread, show (SortedMap.ofList [(name, level)]).entries = [(name, level)] from rfl,
    List.flatMap_singleton]

end

/-- The messages of a table about a text are those of its rules one by one. -/
structure VerifiesApart (p : Program) (rules : LintRules) (path source : String) : Prop where
  /-- They are in the order of their places. -/
  ordered : (p.verify rules path source).Pairwise fun a b =>
    a.start.line < b.start.line ∨ a.start.line = b.start.line ∧ a.start.column ≤ b.start.column
  /-- Those of a rule that is not off are the messages of a table with this rule alone. -/
  alone : ∀ {name level}, rules.get? name = some level → level ≠ .off →
    (p.verify rules path source).filter (·.ruleId == some name) =
      p.verify (.ofList [(name, level)]) path source
  /-- There are no others. -/
  only : ∀ m ∈ p.verify rules path source, ∃ name level,
    rules.get? name = some level ∧ level ≠ .off ∧ m.ruleId = some name
  /-- They are the same in every table that has the rule with the same level, or has it not. -/
  shared : ∀ {name} {rules' : LintRules}, rules'.get? name = rules.get? name →
    (p.verify rules' path source).filter (·.ruleId == some name) =
      (p.verify rules path source).filter (·.ruleId == some name)
  /-- A rule that there is not has one message, which says so. -/
  unknown : ∀ {name level}, rules.get? name = some level → level ≠ .off → name ∉ LintRule.names →
    (p.verify rules path source).filter (·.ruleId == some name) = [.unknownRule name level]

/-- **A table is as good as its rules one by one.** In any program and for any text that can be
read, no rule of a table has a say in the messages of another. -/
theorem verify_apart (p : Program) (rules : LintRules) {path source : String}
    (hread : (p.fileWithText path source).syntaxErrors = []) :
    p.VerifiesApart rules path source := by
  have hof {name : String} {level : RuleLevel} (hlevel : rules.get? name = some level) :
      p.messagesOf (p.fileWithText path source) source rules name =
        p.ruleMessages (p.fileWithText path source) source name level := by
    rw [messagesOf, hlevel]
    rfl
  constructor
  case ordered =>
    rw [verify_eq hread]
    exact (List.pairwise_mergeSort LintMessage.standsBy_trans LintMessage.standsBy_total _).imp
      LintMessage.standsBy_iff.1
  case alone =>
    intro name level hlevel _
    rw [filter_verify hread, hof hlevel, verify_single hread]
  case only =>
    intro m hm
    rw [verify_eq hread, List.mem_mergeSort, List.mem_flatMap] at hm
    obtain ⟨⟨name, level⟩, hentry, hm⟩ := hm
    obtain ⟨hname, hon⟩ := of_mem_ruleMessages hm
    exact ⟨name, level, SortedMap.get?_eq_some_iff.2 hentry, hon, hname⟩
  case shared =>
    intro name rules' hsame
    rw [filter_verify hread, filter_verify hread, messagesOf, messagesOf, hsame]
  case unknown =>
    intro name level hlevel hon hname
    rw [filter_verify hread, hof hlevel, ruleMessages_of_unknown hon hname, List.mergeSort_singleton]

/-- A text in which every rule finds something. -/
def busyText : String := "let x: any = y!;\nfetch('');"

/-- A program of this text. -/
def busyProgram : Program :=
  load (VirtualFiles.ofMaps (.ofList [("a.ts", busyText)]) ∅ {}).host {} ["a.ts"]

/-- A table in which one rule is off and one is no rule. -/
def busyRules : LintRules :=
  .ofList [("@eslint/no-alert", .error), ("@typescript-eslint/no-explicit-any", .warn),
    ("@typescript-eslint/no-floating-promises", .error),
    ("@typescript-eslint/no-non-null-assertion", .off)]

/-- What is no rule has one message, and the rule that is off has none. -/
theorem busyProgram_apart :
    (busyProgram.fileWithText "a.ts" busyText).syntaxErrors = [] ∧
      busyProgram.VerifiesApart busyRules "a.ts" busyText ∧
      (busyProgram.verify busyRules "a.ts" busyText).map (fun m => (m.ruleId, m.start)) =
        [(some "@eslint/no-alert", ⟨1, 1⟩), (some "@typescript-eslint/no-explicit-any", ⟨1, 8⟩),
          (some "@typescript-eslint/no-floating-promises", ⟨2, 1⟩)] := by
  have hread : (busyProgram.fileWithText "a.ts" busyText).syntaxErrors = [] := by decide +kernel
  refine ⟨hread, verify_apart busyProgram busyRules hread, ?_⟩
  rw [verify_eq hread, List.mergeSort_of_pairwise (by decide +kernel)]
  decide +kernel

end Program

end ScriptHost
