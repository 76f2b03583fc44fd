import ScriptHost.Options.Basic
import ScriptHost.Proofs.Json.Nesting
/-!
# The options that a project file gives

A project file may give options that the compiler does not act on. They are kept
with their values, which may be of any kind, and a later value of an option
takes the place of an earlier one.

- `CompilerOptions.known`: the options that the compiler acts on.
- `CompilerOptions.written`: the options of the text of a project file, whatever they are.
- `CompilerOptions.unknown`: the options that are kept as they are.
- `CompilerOptions.written_of_ofProject`: they are the ones that the text gives.
-/

namespace ScriptHost

namespace CompilerOptions

/-! ## What a text gives -/

/-- The names of the options that the compiler acts on. -/
def known : List String := ["target", "module", "baseUrl", "paths"] ++ switches.map (·.name)

/-- The options that the compiler does not act on, where a later value wins. -/
def unknown (options : List (String × Json)) : SortedMap Json :=
  .ofList (options.filter (·.1 ∉ known))

/-- Reads a member of any name and with any value. -/
def anyOption (options : List (String × Json)) (name : String) :
    Reader (List (String × Json)) := do
  Reader.colon
  return options ++ [(name, ← Reader.value)]

/-- Reads an object with members of any names and with any values. -/
def anyOptions : Reader (List (String × Json)) := do
  if (← Reader.start) == '\x7b' then
    Reader.members [] anyOption fun options => return options
  else Reader.refuseType "struct CompilerOptions"

/-- Reads the options of a project file, whatever they are. -/
def anyProject : Reader (List (String × Json)) :=
  Reader.record "TsConfig" []
    (fun d name =>
      if name == "compilerOptions" then d.read name anyOptions fun options _ => options else d.skip)
    (do if ← Reader.hasItem true then anyOptions else return [])
    pure

/-- The options of the text of a project file with their values, in the order of the text. -/
def written (text : String) : Except JsonError (List (String × Json)) := anyProject.run text

/-! ## Options that are kept -/

theorem unknown_append (options : List (String × Json)) (name : String) (v : Json) :
    unknown (options ++ [(name, v)]) =
      if name ∈ known then unknown options else (unknown options).insert name v := by
  by_cases h : name ∈ known
  · simp [unknown, h]
  · simp [unknown, h, SortedMap.ofList]

/-- The options that are kept are those that were given. -/
def Keeps (d : Reader.Draft CompilerOptions) (options : List (String × Json)) : Prop :=
  d.value.extra = unknown options

/-- An option that the compiler acts on changes nothing of those that are kept. -/
theorem Keeps.refines_read {d : Reader.Draft CompilerOptions} {options : List (String × Json)}
    (hd : Keeps d options) {α : Type} {name : String} {r : Reader α}
    {put : α → CompilerOptions → CompilerOptions} (hname : name ∈ known)
    (hr : r.ReadsValues Reader.depthLimit) (hput : ∀ a o, (put a o).extra = o.extra) :
    (d.read name r put).Refines (anyOption options name) Keeps := by
  rw [Reader.Draft.read]
  split
  · exact Reader.Fails.refines (Reader.fails_refuse _)
  · refine Reader.Refines.after fun _ => hr.bind fun a v _ => Reader.refines_pure ?_
    rw [Keeps, unknown_append, if_pos hname, hput]
    exact hd

theorem switch_set_extra : ∀ switch ∈ switches, ∀ b o, (switch.set b o).extra = o.extra := by
  simp [switches]

/-- A name of a closed vocabulary is read from a text. -/
theorem readsValues_named {α : Type} (ofName : String → Except String α) {fuel : Nat} :
    (named ofName).ReadsValues (fuel + 1) := by
  intro c a c' hr
  obtain ⟨s, between, hs, hrest⟩ := Reader.bind_eq_ok_iff.1 hr
  cases hname : ofName s with
  | ok found =>
    rw [hname] at hrest
    cases hrest
    exact Reader.readsValues_text c s _ hs
  | error text =>
    rw [hname] at hrest
    cases hrest

section Readers

variable (d : Reader.Draft CompilerOptions)

theorem readOption_target : readOption d "target" =
    d.read "target" (named Target.ofName) fun t o => { o with target := t } := rfl

theorem readOption_module : readOption d "module" =
    d.read "module" (named ModuleKind.ofName) fun m o => { o with module := m } := rfl

theorem readOption_baseUrl : readOption d "baseUrl" =
    d.read "baseUrl" (Reader.optional Reader.text) fun b o => { o with baseUrl := b } := rfl

theorem readOption_paths : readOption d "paths" =
    d.read "paths" (Reader.mapOf (Reader.array Reader.text)) fun p o => { o with paths := p } := rfl

/-- An option that the compiler does not act on is read as any value. -/
theorem readOption_of_unknown {name : String} (h : name ∉ known) : readOption d name = (do
      Reader.colon
      let v ← Reader.value
      return { d with value := { d.value with extra := d.value.extra.insert name v } }) := by
  unfold readOption
  split
  · exact absurd (by decide) h
  · exact absurd (by decide) h
  · exact absurd (by decide) h
  · exact absurd (by decide) h
  · split
    · next switch hfind =>
      obtain rfl : switch.name = name := by simpa using List.find?_some hfind
      have hmem : switch ∈ switches := List.mem_of_find?_eq_some hfind
      exact absurd (List.mem_append_right _ (List.mem_map_of_mem hmem)) h
    · rfl

/-- An option that is on or off is read as a truth value. -/
theorem readOption_switch : ∀ switch ∈ switches,
    readOption d switch.name = d.read switch.name Reader.bool switch.set := by
  simp only [switches, List.forall_mem_cons]
  exact ⟨rfl, rfl, rfl, rfl, rfl, rfl, rfl, rfl, rfl, rfl, List.forall_mem_nil _⟩

end Readers

theorem mem_known_iff {name : String} : name ∈ known ↔ name = "target" ∨ name = "module" ∨
    name = "baseUrl" ∨ name = "paths" ∨ ∃ switch ∈ switches, switch.name = name := by
  simp only [known, List.cons_append, List.nil_append, List.mem_cons, List.mem_map]

/-- An option is read as it is given, whatever it is. -/
theorem Keeps.refines_readOption {d : Reader.Draft CompilerOptions}
    {options : List (String × Json)} (hd : Keeps d options) (name : String) :
    (readOption d name).Refines (anyOption options name) Keeps := by
  by_cases hname : name ∈ known
  · obtain rfl | rfl | rfl | rfl | ⟨switch, hswitch, rfl⟩ := mem_known_iff.1 hname
    · rw [readOption_target]
      exact hd.refines_read hname (readsValues_named _) fun _ _ => rfl
    · rw [readOption_module]
      exact hd.refines_read hname (readsValues_named _) fun _ _ => rfl
    · rw [readOption_baseUrl]
      exact hd.refines_read hname (Reader.readsValues_optional Reader.readsValues_text)
        fun _ _ => rfl
    · rw [readOption_paths]
      exact hd.refines_read hname
        (Reader.readsValues_mapOf (Reader.readsValues_array Reader.readsValues_text)) fun _ _ => rfl
    · rw [readOption_switch d switch hswitch]
      exact hd.refines_read hname Reader.readsValues_bool (switch_set_extra switch hswitch)
  · -- all other options are read by the same reader, and kept by both
    rw [readOption_of_unknown d hname]
    refine Reader.Refines.after fun _ => Reader.Refines.after fun v => Reader.refines_pure ?_
    rw [Keeps, unknown_append, if_neg hname, hd]

/-! ## Whole texts -/

theorem refines_reader : reader.Refines anyOptions fun o options => o.extra = unknown options := by
  refine Reader.Refines.after fun c => ?_
  by_cases hc : c = '\x7b'
  · subst hc
    refine Reader.Refines.members (R := Keeps) rfl (fun d options name hd => ?_)
      fun d options hd => Reader.refines_pure hd
    exact hd.refines_readOption name
  · rw [if_neg (by simpa using hc)]
    exact (Reader.fails_refuseType _).refines

theorem refines_projectReader :
    projectReader.Refines anyProject fun o options => o.extra = unknown options := by
  refine Reader.Refines.record _ rfl (fun d e name hde => ?_) (Reader.Refines.after fun more => ?_)
    fun o options h => Reader.refines_pure h
  · by_cases hname : (name == "compilerOptions") = true
    · rw [if_pos hname, if_pos hname]
      exact hde.refines_read name refines_reader fun _ _ _ _ h _ => h
    · rw [if_neg hname, if_neg hname]
      exact hde.refines_skip
  · cases more with
    | true => exact refines_reader
    | false => exact Reader.refines_pure rfl

/-! ## How deep the values are nested -/

section Depth

open Std.Do

set_option mvcgen.warning false

/-- The values of options are nested less deep than where the options stand. -/
theorem anyOptions_depth {d : Nat} : ⦃fun c => ⌜c.depth = d⌝⦄ anyOptions
    ⦃⇓? options c => ⌜c.depth = d ∧ ∀ e ∈ options, e.2.Nested (d - 2)⌝⦄ := by
  have hmembers : ⦃fun c => ⌜c.depth = d⌝⦄
      (Reader.members [] anyOption fun options => return options)
      ⦃⇓? options c => ⌜c.depth = d ∧ ∀ e ∈ options, e.2.Nested (d - 2)⌝⦄ := by
    refine Reader.members_depth (I := fun n options => ∀ e ∈ options, e.2.Nested n)
      (fun n => nofun) (fun n options name hd hoptions => ?_) fun n options hd hoptions => ?_
    · have hvalue : ⦃fun c => ⌜c.depth = n + 1⌝⦄ Reader.value
          ⦃⇓? v c => ⌜c.depth = n + 1 ∧ v.Nested n⌝⦄ :=
        Reader.valueWithin_depth Reader.depthLimit n
      mvcgen [anyOption, hvalue] with grind
    · subst hd
      mvcgen
  mvcgen [anyOptions, hmembers] with grind

/-- The values of options are nested less deep than where their project file stands. -/
theorem anyProject_depth {d : Nat} : ⦃fun c => ⌜c.depth = d⌝⦄ anyProject
    ⦃⇓? options c => ⌜c.depth = d ∧ ∀ e ∈ options, e.2.Nested (d - 3)⌝⦄ := by
  refine Reader.record_depth (I := fun n options => ∀ e ∈ options, e.2.Nested (n - 1)) _
    (fun n => nofun) (fun n draft name _ hdraft => ?_) (fun n _ => ?_)
    fun n options hd hoptions => ?_
  · mvcgen [Reader.Draft.read, Reader.Draft.skip, anyOptions_depth] with grind
  · mvcgen [anyOptions_depth] with grind
  · subst hd
    mvcgen

end Depth

/-- **The options that are kept are those that the text gives** and that the compiler does not act
on, and none is nested too deep for where options stand. -/
theorem written_of_ofProject {text : String} {o : CompilerOptions} (h : ofProject text = .ok o) :
    ∃ options, written text = .ok options ∧ o.extra = unknown options ∧
      ∀ e ∈ options, e.2.Nested (Reader.depthLimit - 3) := by
  obtain ⟨options, hwritten, hextra⟩ := refines_projectReader.run h
  obtain ⟨between, -, hread, -⟩ := Reader.run_eq_ok_iff.1 hwritten
  have hnested := (Reader.triple_iff.1 anyProject_depth _ rfl options between hread).2
  exact ⟨options, hwritten, hextra, hnested⟩

end CompilerOptions

end ScriptHost
