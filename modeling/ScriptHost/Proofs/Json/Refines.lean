import ScriptHost.Proofs.Json.Texts
/-!
# Readers that accept less

A reader of values of one type accepts some of the texts that the reader of any
value accepts, and it stops where that one stops. So a text that is read as a
record can be read again without knowing its members.

- `Reader.Refines`: where a reader reads something, another one reads something that goes with it.
- `Reader.Refines.members`, `Reader.Refines.items`: objects and arrays, from their parts.
- `Reader.refines_text`, `Reader.refines_mapOf`: values of one type are values.
-/

namespace ScriptHost

namespace Reader

/-- Where a reader reads something, another one reads something that goes with it, and stops at the
same place. -/
def Refines {α β : Type} (r : Reader α) (s : Reader β) (R : α → β → Prop) : Prop :=
  ∀ c a c', r c = .ok a c' → ∃ b, s c = .ok b c' ∧ R a b

/-- A reader that reads nothing. -/
def Fails {α : Type} (r : Reader α) : Prop := ∀ c a c', r c ≠ .ok a c'

variable {α β γ δ σ τ : Type} {R : α → β → Prop} {S : γ → δ → Prop}

section Steps

theorem Fails.refines {r : Reader α} {s : Reader β} (h : r.Fails) : r.Refines s R :=
  fun c a c' hr => absurd hr (h c a c')

theorem refines_pure {a : α} {b : β} (h : R a b) : (pure a : Reader α).Refines (pure b) R := by
  rintro c _ _ ⟨⟩
  exact ⟨b, rfl, h⟩

theorem bind_eq_ok_iff {x : Reader α} {f : α → Reader γ} {c c' : Cursor} {d : γ} :
    (x >>= f) c = .ok d c' ↔ ∃ a between, x c = .ok a between ∧ f a between = .ok d c' := by
  show EStateM.bind x f c = _ ↔ _
  rw [EStateM.bind]
  cases hx : x c with
  | ok a between => simp
  | error e between => simp

theorem Refines.bind {x : Reader α} {y : Reader β} {f : α → Reader γ} {g : β → Reader δ}
    (hx : x.Refines y R) (hf : ∀ a b, R a b → (f a).Refines (g b) S) :
    (x >>= f).Refines (y >>= g) S := by
  intro c d c' hr
  obtain ⟨a, between, ha, hd⟩ := bind_eq_ok_iff.1 hr
  obtain ⟨b, hb, hab⟩ := hx c a between ha
  obtain ⟨last, hlast, hS⟩ := hf a b hab between d c' hd
  exact ⟨last, bind_eq_ok_iff.2 ⟨b, between, hb, hlast⟩, hS⟩

/-- Two readers may start with the same one. -/
theorem Refines.after {x : Reader α} {f : α → Reader γ} {g : α → Reader δ}
    (hf : ∀ a, (f a).Refines (g a) S) : (x >>= f).Refines (x >>= g) S := by
  intro c d c' hr
  obtain ⟨a, between, ha, hd⟩ := bind_eq_ok_iff.1 hr
  obtain ⟨last, hlast, hS⟩ := hf a between d c' hd
  exact ⟨last, bind_eq_ok_iff.2 ⟨a, between, ha, hlast⟩, hS⟩

theorem Refines.placed {r : Reader α} {s : Reader β} (h : r.Refines s R) :
    (Reader.placed r).Refines (Reader.placed s) R := by
  intro c a c' hr
  rw [Reader.placed] at hr
  split at hr
  · cases hr
  · obtain ⟨b, hb, hab⟩ := h c a c' hr
    refine ⟨b, ?_, hab⟩
    rw [Reader.placed, hb]

theorem Refines.ended {r : Reader α} {s : Reader β} {finish : Reader Unit} (h : r.Refines s R) :
    (Reader.ended r finish).Refines (Reader.ended s finish) R := by
  intro c a c' hr
  rw [Reader.ended] at hr
  split at hr
  · next a' between ha =>
    obtain ⟨b, hb, hab⟩ := h c a' between ha
    split at hr
    · next u last hlast =>
      cases hr
      refine ⟨b, ?_, hab⟩
      rw [Reader.ended, hb]
      simp only [hlast]
    · cases hr
  · split at hr <;> cases hr

theorem Refines.enter {r : Reader α} {s : Reader β} (h : r.Refines s R) :
    (Reader.enter r).Refines (Reader.enter s) R := by
  intro c a c' hr
  rw [Reader.enter] at hr ⊢
  split at hr
  · cases hr
  · next hdeep =>
    split at hr
    · next a' last ha =>
      cases hr
      obtain ⟨b, hb, hab⟩ := Refines.after (fun _ => h) _ a last ha
      refine ⟨b, ?_, hab⟩
      simp only [if_neg hdeep, hb]
    · cases hr

end Steps

/-! ## Arrays and objects -/

section Parts

variable {R : σ → τ → Prop}

theorem Refines.itemsFrom {item : σ → Reader σ} {item' : τ → Reader τ}
    (h : ∀ s t, R s t → (item s).Refines (item' t) R) (fuel : Nat) (first : Bool) {s : σ} {t : τ}
    (hst : R s t) : (Reader.itemsFrom item fuel first s).Refines
      (Reader.itemsFrom item' fuel first t) R := by
  -- both ask at the same places whether there is another item, so that only the items differ
  induction fuel generalizing first s t with
  | zero => exact refines_pure hst
  | succ fuel ih =>
    refine Refines.after fun more => ?_
    cases more with
    | false => exact refines_pure hst
    | true => exact (h s t hst).bind fun s t hst => ih false hst

theorem Refines.membersFrom {member : σ → String → Reader σ} {member' : τ → String → Reader τ}
    (h : ∀ s t name, R s t → (member s name).Refines (member' t name) R) (fuel : Nat)
    (first : Bool) {s : σ} {t : τ} (hst : R s t) :
    (Reader.membersFrom member fuel first s).Refines
      (Reader.membersFrom member' fuel first t) R := by
  induction fuel generalizing first s t with
  | zero => exact refines_pure hst
  | succ fuel ih =>
    refine Refines.after fun more => ?_
    cases more with
    | false => exact refines_pure hst
    | true =>
      refine Refines.after fun _ => Refines.after fun name => ?_
      exact (h s t name hst).bind fun s t hst => ih false hst

theorem Refines.items {item : σ → Reader σ} {item' : τ → Reader τ} {s : σ} {t : τ} (hst : R s t)
    (h : ∀ s t, R s t → (item s).Refines (item' t) R) :
    (Reader.items s item).Refines (Reader.items t item') R :=
  Refines.after fun c => (Refines.itemsFrom h c.rest.length true hst).enter.ended.placed

theorem Refines.members {member : σ → String → Reader σ} {member' : τ → String → Reader τ}
    {finish : σ → Reader γ} {finish' : τ → Reader δ} {s : σ} {t : τ} (hst : R s t)
    (h : ∀ s t name, R s t → (member s name).Refines (member' t name) R)
    (hfinish : ∀ s t, R s t → (finish s).Refines (finish' t) S) :
    (Reader.members s member finish).Refines (Reader.members t member' finish') S :=
  Refines.after fun c =>
    ((Refines.membersFrom h c.rest.length true hst).bind hfinish).enter.ended.placed

end Parts

/-- A text is accepted as a whole if it is read from its front and nothing but blanks is left. -/
theorem run_eq_ok_iff {r : Reader α} {text : String} {a : α} : r.run text = .ok a ↔
    ∃ between last, r ⟨text.toList, ⟨1, 0⟩, depthLimit⟩ = .ok a between ∧
      skipBlanks between = .ok none last := by
  rw [Reader.run]
  constructor
  · intro h
    split at h
    · next b last hb =>
      cases h
      obtain ⟨a', between, ha, hrest⟩ := bind_eq_ok_iff.1 hb
      obtain ⟨next, after, hskip, hend⟩ := bind_eq_ok_iff.1 hrest
      cases next with
      | none =>
        cases hend
        exact ⟨between, _, ha, hskip⟩
      | some c => cases hend
    · cases h
  · rintro ⟨between, last, ha, hskip⟩
    split
    · next b last' hb =>
      cases hb.symm.trans
        (bind_eq_ok_iff.2 ⟨a, between, ha, bind_eq_ok_iff.2 ⟨none, last, hskip, rfl⟩⟩)
      rfl
    · next e last' he =>
      cases he.symm.trans
        (bind_eq_ok_iff.2 ⟨a, between, ha, bind_eq_ok_iff.2 ⟨none, last, hskip, rfl⟩⟩)

/-- A text that one reader accepts as a whole is accepted by the other one. -/
theorem Refines.run {r : Reader α} {s : Reader β} (h : r.Refines s R) {text : String} {a : α}
    (hr : r.run text = .ok a) : ∃ b, s.run text = .ok b ∧ R a b := by
  obtain ⟨between, last, ha, hskip⟩ := run_eq_ok_iff.1 hr
  obtain ⟨b, hb, hab⟩ := h _ a between ha
  exact ⟨b, run_eq_ok_iff.2 ⟨between, last, hb, hskip⟩, hab⟩

/-! ## Values of one type -/

theorem fails_refuse (text : String) : (refuse text : Reader α).Fails := nofun

/-- Whatever is found where something else was expected, it is refused. -/
theorem fails_refuseType (expected : String) : (refuseType expected : Reader α).Fails := by
  intro c a c' hr
  rw [refuseType, placed] at hr
  split at hr
  · cases hr
  · obtain ⟨x, between, -, hrest⟩ := bind_eq_ok_iff.1 hr
    split at hrest
    · cases hrest
    · cases hrest
    · obtain ⟨v, last, -, hlast⟩ := bind_eq_ok_iff.1 hrest
      cases hlast

/-- What a reader reads is a value, whatever is made of it. -/
abbrev ReadsValues (r : Reader α) (fuel : Nat) : Prop :=
  r.Refines (valueWithin fuel) fun _ _ => True

section Values

variable {r : Reader α} {fuel : Nat}

theorem readsValues_text : text.ReadsValues (fuel + 1) := by
  refine Refines.after fun c => ?_
  by_cases hc : c = '"'
  · subst hc
    have htail : Refines textTail (do return Json.str (← textTail)) fun _ _ => True := by
      intro between s c' hr
      exact ⟨.str s, bind_eq_ok_iff.2 ⟨s, c', hr, rfl⟩, trivial⟩
    exact Refines.after fun _ => htail
  · rw [if_neg (by simpa using hc)]
    exact (fails_refuseType _).refines

theorem readsValues_bool : bool.ReadsValues (fuel + 1) := by
  have hword {c : Char} : Refines (do return (← scalar c).bool? == some true) (scalar c)
      fun _ _ => True := by
    intro between b c' hr
    obtain ⟨v, last, hv, hlast⟩ := bind_eq_ok_iff.1 hr
    cases hlast
    exact ⟨v, hv, trivial⟩
  refine Refines.after fun c => ?_
  by_cases htrue : c = 't'
  · subst htrue
    exact hword
  by_cases hfalse : c = 'f'
  · subst hfalse
    exact hword
  · rw [if_neg (by simpa using not_or.2 ⟨htrue, hfalse⟩)]
    exact (fails_refuseType _).refines

/-- Blanks that were skipped are not there any more. -/
theorem skipBlanks_skipBlanks {c between : Cursor} {x : Option Char}
    (h : skipBlanks c = .ok x between) : skipBlanks between = .ok x between := by
  obtain ⟨rest, place, depth⟩ := c
  have hblanks : ∀ x ∈ rest.takeWhile isBlank, isBlank x = true :=
    fun x hx => List.mem_takeWhile_imp hx
  have hafter : ∀ x ∈ (rest.dropWhile isBlank).head?, isBlank x = false := by
    intro x hx
    have hhead := List.head?_dropWhile_not isBlank rest
    rw [Option.mem_def.1 hx] at hhead
    simpa using hhead
  obtain ⟨place', hskip⟩ := reads_skipBlanks hblanks hafter place
  rw [List.takeWhile_append_dropWhile] at hskip
  cases h.symm.trans hskip
  have htake : (rest.dropWhile isBlank).takeWhile isBlank = [] := by
    cases hrest : rest.dropWhile isBlank with
    | nil => rfl
    | cons x behind =>
      rw [List.takeWhile_cons_of_neg]
      simpa using hafter x (by rw [hrest]; rfl)
  show (takeAll ((rest.dropWhile isBlank).takeWhile isBlank).length >>= fun _ => peek) _ = _
  rw [htake]
  rfl

/-- A value is read behind the blanks in front of it. -/
theorem valueWithin_of_skipBlanks {c between : Cursor} {x : Option Char}
    (h : skipBlanks c = .ok x between) :
    valueWithin (fuel + 1) c = valueWithin (fuel + 1) between := by
  have hstart : start c = start between := by
    show EStateM.bind skipBlanks _ c = EStateM.bind skipBlanks _ between
    rw [EStateM.bind, EStateM.bind, h, skipBlanks_skipBlanks h]
  show EStateM.bind start _ c = EStateM.bind start _ between
  rw [EStateM.bind, EStateM.bind, hstart]

theorem readsValues_optional (h : r.ReadsValues (fuel + 1)) :
    (optional r).ReadsValues (fuel + 1) := by
  intro c found c' hr
  obtain ⟨x, between, hx, hrest⟩ := bind_eq_ok_iff.1 hr
  -- the blanks are gone when it is seen whether a value is there, and a value skips them itself
  rw [valueWithin_of_skipBlanks hx]
  by_cases hnull : x = some 'n'
  · subst hnull
    obtain ⟨v, last, hv, hlast⟩ := bind_eq_ok_iff.1 hrest
    cases hlast
    have hstart : start between = .ok 'n' between :=
      bind_eq_ok_iff.2 ⟨some 'n', between, skipBlanks_skipBlanks hx, rfl⟩
    exact ⟨v, bind_eq_ok_iff.2 ⟨'n', between, hstart, hv⟩, trivial⟩
  · rw [if_neg (by simpa using hnull)] at hrest
    obtain ⟨a, last, ha, hlast⟩ := bind_eq_ok_iff.1 hrest
    cases hlast
    exact h between a c' ha

theorem readsValues_array (h : r.ReadsValues fuel) : (array r).ReadsValues (fuel + 1) := by
  refine Refines.after fun c => ?_
  by_cases hc : c = '['
  · subst hc
    have hitems : (items [] fun (found : List α) => do return (← r) :: found).Refines
        (items [] fun (found : List Json) => do return (← valueWithin fuel) :: found)
        fun _ _ => True :=
      Refines.items trivial fun _ _ _ => h.bind fun _ _ _ => refines_pure trivial
    exact hitems.bind fun _ _ _ => refines_pure trivial
  · rw [if_neg (by simpa using hc)]
    exact (fails_refuseType _).refines

theorem readsValues_mapOf (h : r.ReadsValues fuel) : (mapOf r).ReadsValues (fuel + 1) := by
  refine Refines.after fun c => ?_
  by_cases hc : c = '\x7b'
  · subst hc
    refine Refines.members (R := fun _ _ => True) trivial (fun _ _ name _ => ?_)
      fun _ _ _ => refines_pure trivial
    exact Refines.after fun _ => h.bind fun _ _ _ => refines_pure trivial
  · rw [if_neg (by simpa using hc)]
    exact (fails_refuseType _).refines

end Values

/-! ## Records -/

/-- Drafts of which the same members were read go with each other as what they say does. -/
structure Draft.Goes (R : α → β → Prop) (d : Draft α) (e : Draft β) : Prop where
  value : R d.value e.value
  seen : d.seen = e.seen

section Records

theorem Draft.Goes.refines_read {d : Draft α} {e : Draft β} (h : d.Goes R e) (name : String)
    {r : Reader γ} {s : Reader δ} {put : γ → α → α} {put' : δ → β → β} (hr : r.Refines s S)
    (hput : ∀ c c' a b, S c c' → R a b → R (put c a) (put' c' b)) :
    (d.read name r put).Refines (e.read name s put') (Draft.Goes R) := by
  rw [Draft.read, Draft.read, h.seen]
  split
  · exact (fails_refuse _).refines
  · refine Refines.after fun _ => hr.bind fun c c' hc => refines_pure ?_
    exact ⟨hput c c' _ _ hc h.value, rfl⟩

theorem Draft.Goes.refines_skip {d : Draft α} {e : Draft β} (h : d.Goes R e) :
    d.skip.Refines e.skip (Draft.Goes R) :=
  Refines.after fun _ => Refines.after fun _ => refines_pure h

/-- A record is read as another one if its members, or the items in their place, are. -/
theorem Refines.record {start : α} {start' : β} {member : Draft α → String → Reader (Draft α)}
    {member' : Draft β → String → Reader (Draft β)} {fromItems : Reader α} {fromItems' : Reader β}
    {finish : α → Reader γ} {finish' : β → Reader δ} (name : String) (hstart : R start start')
    (hmember : ∀ d e name, Draft.Goes R d e →
      (member d name).Refines (member' e name) (Draft.Goes R))
    (hitems : fromItems.Refines fromItems' R)
    (hfinish : ∀ a b, R a b → (finish a).Refines (finish' b) S) :
    (Reader.record name start member fromItems finish).Refines
      (Reader.record name start' member' fromItems' finish') S := by
  refine Refines.after fun c => ?_
  split
  · exact Refines.members ⟨hstart, rfl⟩ hmember fun d e h => hfinish _ _ h.value
  · exact (hitems.bind hfinish).enter.ended.placed
  · exact (fails_refuseType _).refines

end Records

end Reader

end ScriptHost
