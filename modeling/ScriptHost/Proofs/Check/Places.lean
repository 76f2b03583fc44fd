import ScriptHost.Program.Diagnostics
import ScriptHost.Proofs.Check.Names
/-!
# Where the errors of a check stand

An error about a program is about a node of one of its files: a specifier that
leads nowhere or to a script, a member that is not exported, or a name that is
declared nowhere. Its place is the span of this node.

- `Program.Flagged`: a check is about a span of a file.
- `Program.flagged_of_mem_fileErrors`: all errors of a checked file are about such spans.
-/

namespace ScriptHost

namespace Program

/-- Under a number, an error is about the span of a node of a file. -/
inductive Flagged (p : Program) (file : SourceFile) : Nat → Span → Prop where
  /-- A specifier that refers to nothing. -/
  | specifier {node : Node} : node ∈ file.specifierNodes →
      p.resolved file.name (node.strValue?.getD "") = none → Flagged p file 2307 node.span
  /-- A specifier of a script, from which members are taken. -/
  | script {item node : Node} {members : List ImportedMember} :
      item ∈ file.items → item.importedMembers = some (node, members) →
      Flagged p file 2306 node.span
  /-- A member that an item takes from another file. -/
  | member {item node : Node} {members : List ImportedMember} {member : ImportedMember} :
      item ∈ file.items → item.importedMembers = some (node, members) → member ∈ members →
      Flagged p file (if member.name = "default" then 1192 else 2305) member.span
  /-- An identifier that reads what nothing declares. -/
  | name {occ : Occurrence} : p.IsUndeclared file occ → occ.role ≠ .target →
      Flagged p file cannotFindName occ.node.span

/-- A report is about a span of a file under a number. -/
structure ReportsAt (report : Report) (file : SourceFile) (code : Nat) (span : Span) : Prop where
  file : report.file = some file.name
  code : report.code = .number code
  start : report.start = some (SourceFile.range span).1
  length : report.length = some (SourceFile.range span).2

variable {p : Program} {file : SourceFile} {report : Report}

/-- An error at a place is about the span of this place. -/
theorem reportsAt_errorAt (file : SourceFile) (code : Nat) (span : Span) (message : Message) :
    ReportsAt (.errorAt (some file.name) code (some (SourceFile.range span)) message) file code
      span :=
  ⟨rfl, rfl, rfl, rfl⟩

theorem flagged_of_mem_checkSpecifiers (h : report ∈ p.checkSpecifiers file) :
    ∃ code span, p.Flagged file code span ∧ ReportsAt report file code span := by
  obtain ⟨node, hnode, heq⟩ := List.mem_filterMap.1 h
  simp only at heq
  split at heq
  · next hnone =>
    cases heq
    exact ⟨_, _, .specifier hnode (Option.isNone_iff_eq_none.1 hnone), reportsAt_errorAt _ _ _ _⟩
  · cases heq

theorem reportsAt_of_checkMember {specifier : String} {exports : Exports} {member : ImportedMember}
    (h : checkMember file specifier exports member = some report) :
    ReportsAt report file (if member.name = "default" then 1192 else 2305) member.span := by
  rw [checkMember] at h
  split at h
  · next hdefault =>
    rw [if_pos (beq_iff_eq.1 hdefault)]
    split at h
    · cases h
    · cases h
      exact reportsAt_errorAt _ _ _ _
  · next hdefault =>
    rw [if_neg (by simpa using hdefault)]
    split at h
    · cases h
    · cases h
      exact reportsAt_errorAt _ _ _ _

theorem flagged_of_mem_checkMembers {item : Node} (hitem : item ∈ file.items)
    (h : report ∈ p.checkMembers file item) :
    ∃ code span, p.Flagged file code span ∧ ReportsAt report file code span := by
  rw [checkMembers] at h
  split at h
  · cases h
  · next node members htaken =>
    dsimp only at h
    split at h
    · split at h
      · rw [List.mem_singleton.1 h]
        exact ⟨_, _, .script hitem htaken, reportsAt_errorAt _ _ _ _⟩
      · split at h
        · cases h
        · obtain ⟨member, hmember, hcheck⟩ := List.mem_filterMap.1 h
          exact ⟨_, _, .member hitem htaken hmember, reportsAt_of_checkMember hcheck⟩
    · cases h

/-- **Where the errors of a file stand**: at the nodes that they are about. -/
theorem flagged_of_mem_fileErrors (h : report ∈ p.fileErrors file) :
    ∃ code span, p.Flagged file code span ∧ ReportsAt report file code span := by
  rw [fileErrors] at h
  split at h
  · cases h
  · rw [(List.mergeSort_perm _ _).mem_iff, List.mem_append, checkImports, List.mem_append] at h
    rcases h with (hspecifier | hmember) | hname
    · exact flagged_of_mem_checkSpecifiers hspecifier
    · obtain ⟨item, hitem, hmem⟩ := List.mem_flatMap.1 hmember
      exact flagged_of_mem_checkMembers hitem hmem
    · obtain ⟨occ, hocc, hrole, rfl⟩ := mem_checkNames_iff.1 hname
      exact ⟨_, _, .name hocc hrole, reportsAt_errorAt _ _ _ _⟩

end Program

end ScriptHost
