import ScriptHost.Diagnostic.Reading
import ScriptHost.Proofs.Data.Entries
import ScriptHost.Proofs.Json.Values
/-!
# Diagnostics that are read back

A diagnostic is written as one object. Its file is written also if there is none,
as nothing, and its start and its length are left out if they are not known. Its
code is written without a word on its kind: a number as a number, a text in
quotation marks, whatever is in it. From a text with this object the diagnostic
is read as it was, in whatever order the members stand.

- `Diagnostic.members`: what a diagnostic is written as.
- `Diagnostic.only`: what is known of a diagnostic when some of its members were read.
- `Diagnostic.reads_member`: what one member adds to it.
- `Diagnostic.ReadsBack`, `Diagnostic.toJson_readsBack`: diagnostics are read back.
-/

namespace ScriptHost

open Reader

variable {depth : Nat} {rest : List Char}

/-! ## Values of members -/

theorem Category.ofName?_name (c : Category) : ofName? c.name = some c := by
  cases c <;> rfl

/-- A category is read from its name. -/
theorem Category.reads_reader (c : Category) :
    reader.Reads depth ((Json.str c.name).chars ++ rest) c rest := by
  have hchars : (Json.str c.name).chars ++ rest =
      '"' :: (written c.name.toList ++ '"' :: rest) := by
    show (Json.renderText c.name).toList ++ rest = _
    rw [toList_renderText, List.cons_append, List.append_assoc]
    rfl
  have hnamed : (named c.name).Reads depth rest c rest := by
    rw [named, c.ofName?_name]
    exact reads_pure c
  rw [hchars]
  exact (reads_start rfl).bind (reads_take.bind ((reads_textTail c.name).bind hnamed.placed))

/-- A code is a text, or a number of 32 bits. -/
def DiagnosticCode.Fits : DiagnosticCode → Prop
  | number n => n < 0x100000000
  | text _ => True

/-- **A code is read as what it was**: a number from a number, and a text from a text, though it may
have digits alone. -/
theorem DiagnosticCode.reads_reader {code : DiagnosticCode} (hcode : code.Fits)
    (hrest : EndsNumber rest) : reader.Reads depth (code.toJson.chars ++ rest) code rest := by
  cases code with
  | number n =>
    have hn : n < 0x100000000 := hcode
    have hwhole : (Json.int n).isWhole = true := by
      simp only [Json.isWhole, Bool.and_eq_true, decide_eq_true_eq]
      omega
    have hsmall : (n : Int) < 0x100000000 := by omega
    refine ((readsBack_int hwhole).reads rest hrest).bind ?_
    simp only [Int.natCast_nonneg, hsmall, decide_true, Bool.and_true, if_true, Int.toNat_natCast]
    exact reads_pure _
  | text name => exact ((readsBack_str name).reads rest hrest).bind (reads_pure _)

namespace Diagnostic

/-- A number of 64 bits is read where a place may be known. -/
theorem reads_place {n : Nat} (hn : n < 0x10000000000000000) (hrest : EndsNumber rest) :
    (optional size).Reads depth ((Json.nat n).chars ++ rest) (some n) rest := by
  have hwhole : (Json.nat n).isWhole = true := by
    simp only [Json.nat, Json.isWhole, Bool.and_eq_true, decide_eq_true_eq]
    omega
  have hread : size.Reads depth ((Json.nat n).chars ++ rest) n rest := reads_nat hn hwhole hrest
  obtain ⟨c, cs, hchars, hnumber⟩ := exists_chars_int n
  have hnull : c ≠ 'n' := by
    rintro rfl
    cases hnumber
  rw [Json.nat, hchars, List.cons_append] at hread ⊢
  exact reads_optional (startsScalar_of_number hnumber).1 hnull hread

/-- A file is read where it is written, and so is that there is none. -/
theorem reads_file (file : Option String) :
    (optional text).Reads depth ((Json.ofText? file).chars ++ rest) file rest := by
  cases file with
  | none => exact reads_optional_null
  | some name => exact reads_optional_text name

/-! ## Members -/

/-- The members for what is known of the place. -/
def placeMembers (d : Diagnostic) : List (String × Json) :=
  (d.start.map fun n => ("start", Json.nat n)).toList
    ++ (d.length.map fun n => ("length", Json.nat n)).toList

/-- The members that a diagnostic is written with, in the order of its parts. -/
def members (d : Diagnostic) : List (String × Json) :=
  [("file", .ofText? d.file), ("category", .str d.category.name), ("code", d.code.toJson)]
    ++ (d.placeMembers ++ [("messageText", .str d.messageText)])

theorem mem_members {d : Diagnostic} {e : String × Json} (he : e ∈ d.members) :
    e = ("file", .ofText? d.file) ∨ e = ("category", .str d.category.name) ∨
      e = ("code", d.code.toJson) ∨ (∃ n, d.start = some n ∧ e = ("start", .nat n)) ∨
      (∃ n, d.length = some n ∧ e = ("length", .nat n)) ∨
      e = ("messageText", .str d.messageText) := by
  cases hstart : d.start <;> cases hlength : d.length <;>
    simpa [members, placeMembers, hstart, hlength] using he

/-- The names of the members. -/
theorem names_members (d : Diagnostic) : d.members.map (·.1) =
    ["file", "category", "code"] ++ (if d.start.isSome then ["start"] else [])
      ++ (if d.length.isSome then ["length"] else []) ++ ["messageText"] := by
  cases hstart : d.start <;> cases hlength : d.length <;>
    simp [members, placeMembers, hstart, hlength]

/-- No two members have the same name. -/
theorem nodup_names (d : Diagnostic) : (d.members.map (·.1)).Nodup := by
  rw [names_members]
  cases d.start.isSome <;> cases d.length.isSome <;> decide

/-- A diagnostic is written as the object of its members. -/
theorem exists_toJson_eq (d : Diagnostic) :
    ∃ order, order.Perm d.members ∧ d.toJson = .obj order := by
  -- what is known of the place is written behind the text of the message
  let first := [("file", Json.ofText? d.file), ("category", .str d.category.name),
    ("code", d.code.toJson)]
  let message := [("messageText", Json.str d.messageText)]
  have hwritten : d.toJson = .ofMembers (first ++ (message ++ d.placeMembers)) := by
    rw [toJson, List.append_assoc]
    rfl
  have hperm : (first ++ (message ++ d.placeMembers)).Perm d.members :=
    List.perm_append_comm.append_left first
  have hnodup := (hperm.map (·.1)).nodup_iff.2 d.nodup_names
  exact ⟨_, (SortedMap.entries_ofList_perm hnodup).trans hperm, hwritten⟩

/-- What is known of a diagnostic when only some of its members were read. -/
def only (d : Diagnostic) (seen : List String) : Parts where
  file := if "file" ∈ seen then d.file else none
  category := if "category" ∈ seen then some d.category else none
  code := if "code" ∈ seen then some d.code else none
  start := if "start" ∈ seen then d.start else none
  length := if "length" ∈ seen then d.length else none
  messageText := if "messageText" ∈ seen then some d.messageText else none

/-- The numbers of a diagnostic are of 32 bits in its code and of 64 bits in its place. -/
structure Fits (d : Diagnostic) : Prop where
  code : d.code.Fits
  start : ∀ n, d.start = some n → n < 0x10000000000000000
  length : ∀ n, d.length = some n → n < 0x10000000000000000

section Readers

variable (d : Draft Parts)

theorem readMember_file : readMember d "file" =
    d.read "file" (optional text) fun v p => { p with file := v } := rfl

theorem readMember_category : readMember d "category" =
    d.read "category" Category.reader fun v p => { p with category := some v } := rfl

theorem readMember_code : readMember d "code" =
    d.read "code" DiagnosticCode.reader fun v p => { p with code := some v } := rfl

theorem readMember_start : readMember d "start" =
    d.read "start" (optional size) fun v p => { p with start := v } := rfl

theorem readMember_length : readMember d "length" =
    d.read "length" (optional size) fun v p => { p with length := v } := rfl

theorem readMember_messageText : readMember d "messageText" =
    d.read "messageText" text fun v p => { p with messageText := some v } := rfl

end Readers

/-- **Each member is read as it was written**, whichever were read before. -/
theorem Fits.reads_member {d : Diagnostic} (hd : d.Fits) {e : String × Json} (he : e ∈ d.members)
    {seen : List String} (hnew : e.1 ∉ seen) (hrest : EndsNumber rest) :
    (readMember ⟨d.only seen, seen⟩ e.1).Reads depth (':' :: (e.2.chars ++ rest))
      ⟨d.only (e.1 :: seen), e.1 :: seen⟩ rest := by
  have hadd {α : Type} {name : String} {r : Reader α} {put : α → Parts → Parts} {a : α} {v : Json}
      (hmember : readMember ⟨d.only seen, seen⟩ name = Draft.read ⟨d.only seen, seen⟩ name r put)
      (hnew : name ∉ seen) (hread : r.Reads depth (v.chars ++ rest) a rest)
      (hput : put a (d.only seen) = d.only (name :: seen)) :
      (readMember ⟨d.only seen, seen⟩ name).Reads depth (':' :: (v.chars ++ rest))
        ⟨d.only (name :: seen), name :: seen⟩ rest := by
    rw [hmember, ← hput]
    exact Draft.reads_read hnew hread
  obtain rfl | rfl | rfl | ⟨n, hn, rfl⟩ | ⟨n, hn, rfl⟩ | rfl := mem_members he
  · exact hadd (readMember_file _) hnew (reads_file d.file) (by simp [only])
  · exact hadd (readMember_category _) hnew d.category.reads_reader (by simp [only])
  · exact hadd (readMember_code _) hnew (DiagnosticCode.reads_reader hd.code hrest) (by simp [only])
  · exact hadd (readMember_start _) hnew (reads_place (hd.start n hn) hrest) (by simp [only, hn])
  · exact hadd (readMember_length _) hnew (reads_place (hd.length n hn) hrest) (by simp [only, hn])
  · exact hadd (readMember_messageText _) hnew (reads_text (List.forall_mem_nil _) d.messageText)
      (by simp [only])

/-- With all members read, the diagnostic is known. -/
theorem only_eq {d : Diagnostic} {seen : List String}
    (h : ∀ name, name ∈ seen ↔ name ∈ d.members.map (·.1)) :
    d.only seen =
      ⟨d.file, some d.category, some d.code, d.start, d.length, some d.messageText⟩ := by
  simp only [only, h, names_members]
  cases d.start <;> cases d.length <;> simp

/-- A diagnostic is read from its object, in whatever order its members stand. -/
theorem Fits.reads_reader {d : Diagnostic} (hd : d.Fits) {order : List (String × Json)}
    (horder : order.Perm d.members) :
    reader.Reads (depth + 2) ((Json.obj order).chars ++ rest) d rest := by
  have hnodup : (order.map (·.1)).Nodup := (horder.map _).nodup_iff.2 d.nodup_names
  have htakes : TakesUp readMember Json.chars (depth + 1) ⟨d.only [], []⟩ order
      ⟨d.only ((order.map (·.1)).reverse ++ []), (order.map (·.1)).reverse ++ []⟩ :=
    takesUp_record d.only (fun e he seen hnew rest hrest =>
      hd.reads_member (horder.mem_iff.1 he) hnew hrest) hnodup fun _ _ => List.not_mem_nil
  have hall : ∀ name, name ∈ (order.map (·.1)).reverse ++ [] ↔ name ∈ d.members.map (·.1) := by
    intro name
    rw [List.append_nil, List.mem_reverse, (horder.map _).mem_iff]
  refine reads_record "Diagnostic" htakes fun rest => ?_
  rw [only_eq hall]
  exact reads_pure d

/-! ## Diagnostics that were written -/

/-- A diagnostic is read back from what it is written as. -/
structure ReadsBack (d : Diagnostic) : Prop where
  /-- The file is written as nothing if there is none. -/
  file : ("file", Json.null) ∈ d.members ↔ d.file = none
  /-- A start is written if it is known. -/
  start : "start" ∈ d.members.map (·.1) ↔ d.start.isSome = true
  /-- So is a length. -/
  length : "length" ∈ d.members.map (·.1) ↔ d.length.isSome = true
  /-- The diagnostic is read back. -/
  again : parse d.toJson.render = .ok d
  /-- It is read back from an object with its members in any order. -/
  anyOrder : ∀ order, order.Perm d.members → parse (Json.obj order).render = .ok d

/-- **A diagnostic is read back as it was**, whatever is known of its place and whatever stands in
its texts. -/
theorem toJson_readsBack {d : Diagnostic} (hd : d.Fits) : d.ReadsBack := by
  have hany (order : List (String × Json)) (horder : order.Perm d.members) :
      parse (Json.obj order).render = .ok d := run_render (hd.reads_reader horder)
  constructor
  case file => cases hfile : d.file <;> simp [members, placeMembers, hfile, Json.ofText?]
  case start => rw [names_members]; cases d.start <;> cases d.length <;> simp
  case length => rw [names_members]; cases d.start <;> cases d.length <;> simp
  case again =>
    obtain ⟨order, horder, heq⟩ := d.exists_toJson_eq
    rw [heq]
    exact hany order horder
  case anyOrder => exact hany

/-- A diagnostic without a file and a start, with digits for a code and a message of several
lines. -/
def numberedRule : Diagnostic :=
  ⟨none, .suggestion, .text "2307", none, some 0xffffffffffffffff, "\"a\\b\"\n\x00é\x7f"⟩

/-- It is read back with a text for its code. -/
theorem numberedRule_readsBack : numberedRule.Fits ∧ numberedRule.ReadsBack :=
  have hfits : numberedRule.Fits :=
    ⟨trivial, nofun, fun _ h => Option.some.inj h ▸ (by decide)⟩
  ⟨hfits, toJson_readsBack hfits⟩

end Diagnostic

end ScriptHost
