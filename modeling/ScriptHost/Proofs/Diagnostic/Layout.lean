import ScriptHost.Diagnostic.Message
import ScriptHost.Proofs.Host.Normal
/-!
# What the text of a chain shows

An explanation in a chain is found on a way from the first one down, by the
number of the next explanation at each step. In the order of their ways, where a
way comes before those that go on from it, the explanations stand in the text of
the chain, each on a line of its own. The blanks in front of a line tell how long
the way is, and from the lengths of all ways the chain can be told.

- `MessageChain.at?`: the explanation on a way.
- `MessageChain.places`: all explanations with the ways to them.
- `MessageChain.layout_eq`: they are laid out in the order of their ways.
- `MessageChain.layout_inj`: chains that are laid out alike are the same.
- `Message.lines_text`: the lines of the text of a chain.
- `MessageChain.Shown`, `MessageChain.shown`: what the text of a chain shows of it.
-/

namespace ScriptHost

namespace MessageChain

/-! ## Explanations and the ways to them -/

/-- What an explanation says. -/
def text : MessageChain → String
  | mk text _ => text

/-- What explains an explanation. -/
def next : MessageChain → List MessageChain
  | mk _ next => next

/-- The explanation that a way leads to. -/
def at? : List Nat → MessageChain → Option MessageChain
  | [], c => some c
  | i :: way, c => c.next[i]?.bind (at? way)

mutual
/-- The texts of the explanations with the ways to them, in the order of the ways. -/
def places : MessageChain → List (List Nat × String)
  | mk text next => ([], text) :: placesFrom 0 next
/-- `places` for a list of chains of which the first one has a number. -/
def placesFrom (i : Nat) : List MessageChain → List (List Nat × String)
  | [] => []
  | c :: cs => (places c).map (fun e => (i :: e.1, e.2)) ++ placesFrom (i + 1) cs
end

/-- What holds of a chain if it holds of those that explain it holds of every chain. -/
theorem induction_next {motive : MessageChain → Prop}
    (mk : ∀ text next, (∀ c ∈ next, motive c) → motive (mk text next)) : ∀ c, motive c
  | .mk text next => mk text next fun c hmem =>
      have : sizeOf c < sizeOf next := List.sizeOf_lt_of_mem hmem
      induction_next mk c
termination_by c => sizeOf c

/-- Where the places of each chain are its ways, the places of a list start with a number in it. -/
theorem mem_placesFrom_iff {cs : List MessageChain} (h : ∀ c ∈ cs, ∀ way text,
      (way, text) ∈ places c ↔ (c.at? way).map MessageChain.text = some text)
    {i : Nat} {way : List Nat} {text : String} :
    (way, text) ∈ placesFrom i cs ↔ ∃ j rest, way = (i + j) :: rest ∧
      (cs[j]?.bind (at? rest)).map MessageChain.text = some text := by
  induction cs generalizing i with
  | nil => simp [placesFrom]
  | cons c cs ih =>
    obtain ⟨hc, hcs⟩ := List.forall_mem_cons.1 h
    rw [placesFrom, List.mem_append, ih hcs]
    constructor
    · rintro (hfirst | ⟨j, rest, rfl, hfound⟩)
      · obtain ⟨⟨rest, text⟩, hmem, heq⟩ := List.mem_map.1 hfirst
        cases heq
        exact ⟨0, rest, rfl, (hc rest text).1 hmem⟩
      · exact ⟨j + 1, rest, by rw [Nat.add_assoc, Nat.add_comm 1], hfound⟩
    · rintro ⟨j, rest, rfl, hfound⟩
      cases j with
      | zero => exact .inl (List.mem_map.2 ⟨(rest, text), (hc rest text).2 hfound, rfl⟩)
      | succ j => exact .inr ⟨j, rest, by rw [Nat.add_assoc, Nat.add_comm 1], hfound⟩

/-- The places of a chain are all ways that lead to an explanation. -/
theorem mem_places_iff {c : MessageChain} {way : List Nat} {text : String} :
    (way, text) ∈ c.places ↔ (c.at? way).map MessageChain.text = some text := by
  induction c using induction_next generalizing way text with
  | mk own next ih =>
    rw [places, List.mem_cons, mem_placesFrom_iff fun c hc way text => ih c hc]
    cases way with
    | nil => simp [at?, MessageChain.text, eq_comm]
    | cons i rest => simp [at?, MessageChain.next, and_assoc]

/-- The ways among explanations of one explanation start with its number or a greater one. -/
theorem le_of_mem_placesFrom {cs : List MessageChain} {i : Nat} {way : List Nat} {text : String}
    (h : (way, text) ∈ placesFrom i cs) : ∃ j rest, way = j :: rest ∧ i ≤ j := by
  obtain ⟨j, rest, hway, -⟩ := (mem_placesFrom_iff fun _ _ _ _ => mem_places_iff).1 h
  exact ⟨i + j, rest, hway, Nat.le_add_right i j⟩

/-- The places of a chain are in the order of their ways. -/
theorem pairwise_places (c : MessageChain) : c.places.Pairwise fun a b => a.1 < b.1 := by
  have hfrom {cs : List MessageChain} (h : ∀ c ∈ cs, c.places.Pairwise fun a b => a.1 < b.1)
      (i : Nat) : (placesFrom i cs).Pairwise fun a b => a.1 < b.1 := by
    induction cs generalizing i with
    | nil => exact .nil
    | cons c cs ih =>
      obtain ⟨hc, hcs⟩ := List.forall_mem_cons.1 h
      rw [placesFrom, List.pairwise_append]
      refine ⟨List.pairwise_map.2 (hc.imp fun hlt => ?_), ih hcs (i + 1), fun a ha b hb => ?_⟩
      · exact List.cons_lt_cons_iff.2 (.inr ⟨rfl, hlt⟩)
      · obtain ⟨first, -, rfl⟩ := List.mem_map.1 ha
        obtain ⟨j, rest, hway, hle⟩ := le_of_mem_placesFrom hb
        rw [hway]
        exact List.cons_lt_cons_iff.2 (.inl hle)
  induction c using induction_next with
  | mk own next ih =>
    rw [places, List.pairwise_cons]
    refine ⟨fun b hb => ?_, hfrom ih 0⟩
    obtain ⟨j, rest, hway, -⟩ := le_of_mem_placesFrom hb
    rw [hway]
    exact List.nil_lt_cons j rest

/-! ## The layout -/

/-- **Explanations are laid out in the order of their ways**, as deep as their ways are long. -/
theorem layout_eq (depth : Nat) (c : MessageChain) :
    c.layout depth = c.places.map fun e => (depth + e.1.length, e.2) := by
  have hall {cs : List MessageChain} {depth : Nat} (h : ∀ c ∈ cs, c.layout (depth + 1) =
      c.places.map fun e => (depth + 1 + e.1.length, e.2)) (i : Nat) :
      layoutAll (depth + 1) cs =
        (placesFrom i cs).map fun e => (depth + e.1.length, e.2) := by
    induction cs generalizing i with
    | nil => rfl
    | cons c cs ih =>
      obtain ⟨hc, hcs⟩ := List.forall_mem_cons.1 h
      rw [layoutAll, placesFrom, List.map_append, hc, ih hcs (i + 1), List.map_map]
      congr 1
      refine List.map_congr_left fun e _ => ?_
      simp only [Function.comp, List.length_cons, Prod.mk.injEq, and_true]
      omega
  induction c using induction_next generalizing depth with
  | mk own next ih =>
    rw [layout, places, List.map_cons, hall (fun c hc => ih c hc (depth + 1)) 0]
    rfl

/-- Nothing that comes next lies deeper. -/
def Above (depth : Nat) (rest : List (Nat × String)) : Prop := ∀ e ∈ rest.head?, e.1 ≤ depth

theorem layout_eq_cons (depth : Nat) (c : MessageChain) :
    c.layout depth = (depth, c.text) :: layoutAll (depth + 1) c.next := by
  cases c
  rfl

theorem above_layoutAll {depth : Nat} {rest : List (Nat × String)} (h : Above depth rest)
    (cs : List MessageChain) : Above (depth + 1) (layoutAll (depth + 1) cs ++ rest) := by
  cases cs with
  | nil => exact fun e he => Nat.le_succ_of_le (h e he)
  | cons c cs =>
    rw [layoutAll, layout_eq_cons]
    rintro e ⟨⟩
    exact Nat.le_refl _

/-- What lies deeper than all that comes next is told apart from it. -/
theorem not_above_layoutAll_cons {depth : Nat} {c : MessageChain} {cs : List MessageChain}
    {rest : List (Nat × String)} : ¬ Above depth (layoutAll (depth + 1) (c :: cs) ++ rest) := by
  rw [layoutAll, layout_eq_cons]
  exact fun h => Nat.not_succ_le_self depth (h _ rfl)

/-- A chain is told by its layout, and so is where the layout ends if nothing deeper comes next. -/
theorem eq_of_layout_append_eq {c c' : MessageChain} {depth : Nat}
    {rest rest' : List (Nat × String)} (h : Above depth rest) (h' : Above depth rest')
    (heq : c.layout depth ++ rest = c'.layout depth ++ rest') : c = c' ∧ rest = rest' := by
  induction c using induction_next generalizing c' depth rest rest' with
  | mk own next ih =>
    have hall {cs cs' : List MessageChain} (hcs : ∀ c ∈ cs, c ∈ next)
        (heq : layoutAll (depth + 1) cs ++ rest = layoutAll (depth + 1) cs' ++ rest') :
        cs = cs' ∧ rest = rest' := by
      induction cs generalizing cs' with
      | nil =>
        cases cs' with
        | nil => exact ⟨rfl, heq⟩
        | cons c' cs' =>
          rw [show rest = _ from heq] at h
          exact absurd h not_above_layoutAll_cons
      | cons c cs ihcs =>
        cases cs' with
        | nil =>
          rw [show rest' = _ from heq.symm] at h'
          exact absurd h' not_above_layoutAll_cons
        | cons c' cs' =>
          obtain ⟨hc, hcs⟩ := List.forall_mem_cons.1 hcs
          rw [layoutAll, layoutAll, List.append_assoc, List.append_assoc] at heq
          obtain ⟨rfl, hmore⟩ := ih c hc (above_layoutAll h cs) (above_layoutAll h' cs') heq
          obtain ⟨rfl, hrest⟩ := ihcs hcs hmore
          exact ⟨rfl, hrest⟩
    obtain ⟨own', next'⟩ := c'
    rw [layout, layout, List.cons_append, List.cons_append] at heq
    obtain ⟨hfirst, hnext⟩ := List.cons.inj heq
    cases hfirst
    obtain ⟨rfl, hrest⟩ := hall (fun _ hc => hc) hnext
    exact ⟨rfl, hrest⟩

/-- **Chains that are laid out alike are the same.** -/
theorem layout_inj {c c' : MessageChain} {depth : Nat} (h : c.layout depth = c'.layout depth) :
    c = c' := by
  have hnone : Above depth [] := nofun
  exact (eq_of_layout_append_eq hnone hnone (by rw [h])).1

/-- A text that is told from the blanks in front of it and from the lines around it. -/
def IsPlainText (text : String) : Prop := '\n' ∉ text.toList ∧ text.toList.head? ≠ some ' '

instance (text : String) : Decidable (IsPlainText text) := inferInstanceAs (Decidable (_ ∧ _))

/-- All explanations of a chain say such texts. -/
def IsPlain (root : MessageChain) : Prop :=
  ∀ way c, root.at? way = some c → IsPlainText c.text

theorem isPlain_iff {root : MessageChain} (depth : Nat) :
    root.IsPlain ↔ ∀ e ∈ root.layout depth, IsPlainText e.2 := by
  rw [layout_eq, List.forall_mem_map]
  constructor
  · rintro h ⟨way, text⟩ hmem
    obtain ⟨c, hc, rfl⟩ := Option.map_eq_some_iff.1 (mem_places_iff.1 hmem)
    exact h way c hc
  · intro h way c hc
    exact h (way, c.text) (mem_places_iff.2 (by rw [hc]; rfl))

instance (root : MessageChain) : Decidable root.IsPlain := decidable_of_iff _ (isPlain_iff 0).symm

end MessageChain

/-! ## Lines -/

namespace Message

/-- The lines of a text. -/
def lines (text : String) : List String := (Path.splitChars '\n' text.toList).map String.ofList

theorem toList_intercalate_eq_joinChars (texts : List String) :
    ("\n".intercalate texts).toList = Path.joinChars '\n' (texts.map String.toList) := by
  have hchars (parts : List (List Char)) :
      ['\n'].intercalate parts = Path.joinChars '\n' parts := by
    fun_induction Path.joinChars '\n' parts with
    | case1 => rfl
    | case2 part => exact List.intercalate_singleton
    | case3 part parts hne ih =>
      obtain ⟨next, rest, rfl⟩ := List.exists_cons_of_ne_nil hne
      rw [List.intercalate_cons_cons, ih, List.append_assoc, List.singleton_append]
  rw [String.toList_intercalate]
  exact hchars _

/-- Lines are found again in the text that they are joined to. -/
theorem lines_intercalate {texts : List String} (hne : texts ≠ [])
    (h : ∀ text ∈ texts, '\n' ∉ text.toList) : lines ("\n".intercalate texts) = texts := by
  rw [lines, toList_intercalate_eq_joinChars, Path.splitChars_joinChars, List.map_map]
  · refine (List.map_congr_left fun text _ => ?_).trans (List.map_id texts)
    exact String.ofList_toList
  · simpa using hne
  · rintro part hpart
    obtain ⟨text, htext, rfl⟩ := List.mem_map.1 hpart
    exact h text htext

/-- The depth of a line and what stands behind its blanks. -/
def readLine (line : String) : Nat × String :=
  ((line.toList.takeWhile (· == ' ')).length / 2,
    String.ofList (line.toList.dropWhile (· == ' ')))

theorem toList_line (depth : Nat) (text : String) :
    (line depth text).toList = List.replicate (2 * depth) ' ' ++ text.toList := by
  rw [line, String.toList_append, String.toList_ofList]

/-- A line is read as the text that it was made for, and as deep. -/
theorem readLine_line {text : String} (h : text.toList.head? ≠ some ' ') (depth : Nat) :
    readLine (line depth text) = (depth, text) := by
  have hblanks : ∀ c ∈ List.replicate (2 * depth) ' ', (c == ' ') = true := by
    intro c hc
    rw [List.eq_of_mem_replicate hc]
    rfl
  have hplain : text.toList.takeWhile (· == ' ') = [] ∧
      text.toList.dropWhile (· == ' ') = text.toList := by
    cases hchars : text.toList with
    | nil => exact ⟨rfl, rfl⟩
    | cons c cs =>
      have hc : ¬ (c == ' ') = true := by simpa [hchars] using h
      exact ⟨List.takeWhile_cons_of_neg hc, List.dropWhile_cons_of_neg hc⟩
  rw [readLine, toList_line, List.takeWhile_append_of_pos hblanks,
    List.dropWhile_append_of_pos hblanks, hplain.1, hplain.2, List.append_nil,
    List.length_replicate, String.ofList_toList, Nat.mul_div_cancel_left depth Nat.two_pos]

section Plain

variable {root : MessageChain} (h : root.IsPlain)
include h

/-- **The text of a chain has a line for each explanation.** -/
theorem lines_text : lines (chain root).text =
    (root.layout 0).map fun e => line e.1 e.2 := by
  refine lines_intercalate (by simp [MessageChain.layout_eq_cons]) fun written hwritten => ?_
  obtain ⟨e, he, rfl⟩ := List.mem_map.1 hwritten
  have hplain : '\n' ∉ e.2.toList := ((MessageChain.isPlain_iff 0).1 h e he).1
  rw [toList_line, List.mem_append, not_or]
  exact ⟨fun hmem => absurd (List.eq_of_mem_replicate hmem) (by decide), hplain⟩

/-- The layout of a chain is read from the lines of its text. -/
theorem layout_eq_readLines :
    root.layout 0 = (lines (chain root).text).map readLine := by
  rw [lines_text h, List.map_map]
  refine ((List.map_congr_left fun e he => ?_).trans (List.map_id _)).symm
  exact readLine_line ((MessageChain.isPlain_iff 0).1 h e he).2 e.1

end Plain

end Message

/-! ## What is shown -/

namespace MessageChain

/-- What the text of a chain shows of the chain. -/
structure Shown (root : MessageChain) : Prop where
  /-- It has a line for each explanation, in the order of the ways to them, where a way comes
  before those that go on from it. The line has two blanks for each step of the way. -/
  lines : ∃ places : List (List Nat × String), (places.Pairwise fun a b => a.1 < b.1) ∧
    (∀ way text, (way, text) ∈ places ↔ (root.at? way).map MessageChain.text = some text) ∧
    Message.lines (Message.chain root).text = places.map fun e => Message.line e.1.length e.2
  /-- No other chain has this text. -/
  only : ∀ other : MessageChain, other.IsPlain →
    (Message.chain other).text = (Message.chain root).text → other = root

/-- **The text of a chain shows all of it**: the order and the depth of the explanations, what they
say, and so the chain itself, if no explanation has several lines or blanks in front. -/
theorem shown {root : MessageChain} (h : root.IsPlain) : root.Shown where
  lines := by
    refine ⟨root.places, root.pairwise_places, fun way text => mem_places_iff, ?_⟩
    rw [Message.lines_text h, layout_eq, List.map_map]
    refine List.map_congr_left fun e _ => ?_
    rw [Function.comp_apply, Nat.zero_add]
  only other hother htext := by
    have hlayout : other.layout 0 = root.layout 0 := by
      rw [Message.layout_eq_readLines hother, htext, Message.layout_eq_readLines h]
    exact layout_inj hlayout

/-- A chain with explanations on three levels, some of which say nothing. -/
def unevenChain : MessageChain :=
  .mk "Type" [.mk "" [.mk "a  b" [], .mk "" []], .mk "é" [], .mk "" [.mk "" []]]

/-- The text of this chain shows all of it. -/
theorem unevenChain_shown : unevenChain.IsPlain ∧ unevenChain.Shown :=
  have hplain : unevenChain.IsPlain := by decide +kernel
  ⟨hplain, shown hplain⟩

end MessageChain

end ScriptHost
