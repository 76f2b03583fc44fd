import ScriptHost.Proofs.Data.Entries
import ScriptHost.Proofs.Options.Written
/-!
# Options that are read back

Options are written as one object with the options that the compiler acts on and
those that it does not. From a text with this object they are read as they were,
in whatever order its members stand: a draft holds at any time what was read so
far, and with all members read it holds the options.

- `CompilerOptions.members`: what options are written as.
- `CompilerOptions.only`: options of which only some members were read.
- `CompilerOptions.Taken.reads_member`: what one member adds to a draft.
- `CompilerOptions.ReadsBack`, `CompilerOptions.ofProject_readsBack`: options that were read from a
  project file are read back.
-/

namespace ScriptHost

/-! ## Closed vocabularies -/

/-- The name of an edition is read as the edition. -/
theorem Target.ofName_name (t : Target) : Target.ofName t.name = .ok t := by
  cases t <;> decide

/-- The name of a module system is read as the module system. -/
theorem ModuleKind.ofName_name (m : ModuleKind) : ModuleKind.ofName m.name = .ok m := by
  cases m <;> decide

namespace CompilerOptions

/-! ## The members of options -/

/-- The members for the options that the compiler acts on. -/
def knownMembers (o : CompilerOptions) : List (String × Json) :=
  [("target", .str o.target.name), ("module", .str o.module.name)]
    ++ switches.map (fun switch => (switch.name, .bool (switch.get o)))
    ++ (o.baseUrl.map fun base => ("baseUrl", Json.str base)).toList
    ++ (if o.paths.entries.isEmpty then []
        else [("paths", Json.ofMap (Json.ofList Json.str) o.paths)])

/-- The members that options are written with. -/
def members (o : CompilerOptions) : List (String × Json) := o.knownMembers ++ o.extra.entries

theorem mem_members {o : CompilerOptions} {e : String × Json} (he : e ∈ o.members) :
    e = ("target", .str o.target.name) ∨ e = ("module", .str o.module.name) ∨
      (∃ switch ∈ switches, e = (switch.name, .bool (switch.get o))) ∨
      (∃ base, o.baseUrl = some base ∧ e = ("baseUrl", .str base)) ∨
      e = ("paths", .ofMap (Json.ofList Json.str) o.paths) ∨ e ∈ o.extra.entries := by
  rw [members, List.mem_append] at he
  rcases he with he | he
  · rw [knownMembers, List.mem_append, List.mem_append, List.mem_append] at he
    rcases he with ((he | he) | he) | he
    · have hfirst : e = ("target", .str o.target.name) ∨ e = ("module", .str o.module.name) := by
        simpa using he
      exact hfirst.imp_right .inl
    · obtain ⟨switch, hswitch, rfl⟩ := List.mem_map.1 he
      exact .inr (.inr (.inl ⟨switch, hswitch, rfl⟩))
    · obtain ⟨base, hbase, rfl⟩ := Option.map_eq_some_iff.1 (Option.mem_toList.1 he)
      exact .inr (.inr (.inr (.inl ⟨base, hbase, rfl⟩)))
    · split at he
      · cases he
      · exact .inr (.inr (.inr (.inr (.inl (List.mem_singleton.1 he)))))
  · exact .inr (.inr (.inr (.inr (.inr he))))

theorem toJson_eq (o : CompilerOptions) : o.toJson = .ofMembers o.members := rfl

/-- The names of members. -/
def names (given : List (String × Json)) : List String := given.map (·.1)

theorem names_knownMembers (o : CompilerOptions) : names o.knownMembers =
    ["target", "module"] ++ switches.map (·.name) ++ (if o.baseUrl.isSome then ["baseUrl"] else [])
      ++ (if o.paths.entries.isEmpty then [] else ["paths"]) := by
  rw [names, knownMembers, List.map_append, List.map_append, List.map_append, List.map_map]
  cases o.baseUrl <;> cases o.paths.entries.isEmpty <;> rfl

/-- The names of the options that the compiler acts on differ. -/
theorem nodup_names_knownMembers (o : CompilerOptions) : (names o.knownMembers).Nodup := by
  rw [names_knownMembers]
  cases o.baseUrl.isSome <;> cases o.paths.entries.isEmpty <;> decide

theorem mem_known_of_mem_names (o : CompilerOptions) :
    ∀ name ∈ names o.knownMembers, name ∈ known := by
  rw [names_knownMembers]
  cases o.baseUrl.isSome <;> cases o.paths.entries.isEmpty <;> decide

/-- What options are when only some of their members were read. -/
def only (o : CompilerOptions) (given : List (String × Json)) : CompilerOptions where
  target := if "target" ∈ names given then o.target else .es2015
  module := if "module" ∈ names given then o.module else .commonJS
  strict := "strict" ∈ names given && o.strict
  skipLibCheck := "skipLibCheck" ∈ names given && o.skipLibCheck
  esModuleInterop := "esModuleInterop" ∈ names given && o.esModuleInterop
  downlevelIteration := "downlevelIteration" ∈ names given && o.downlevelIteration
  experimentalDecorators := "experimentalDecorators" ∈ names given && o.experimentalDecorators
  emitDecoratorMetadata := "emitDecoratorMetadata" ∈ names given && o.emitDecoratorMetadata
  noErrorTruncation := "noErrorTruncation" ∈ names given && o.noErrorTruncation
  allowJs := "allowJs" ∈ names given && o.allowJs
  noEmit := "noEmit" ∈ names given && o.noEmit
  noEmitOnError := "noEmitOnError" ∈ names given && o.noEmitOnError
  baseUrl := if "baseUrl" ∈ names given then o.baseUrl else none
  paths := if "paths" ∈ names given then o.paths else .empty
  extra := unknown given

theorem names_append (given : List (String × Json)) (e : String × Json) :
    names (given ++ [e]) = names given ++ [e.1] := by
  simp [names]

theorem only_nil (o : CompilerOptions) : o.only [] = {} := rfl

section Steps

variable (o : CompilerOptions) (given : List (String × Json))

theorem only_target (v : Json) :
    { o.only given with target := o.target } = o.only (given ++ [("target", v)]) := by
  simp [only, names_append, unknown_append, known]

theorem only_module (v : Json) :
    { o.only given with module := o.module } = o.only (given ++ [("module", v)]) := by
  simp [only, names_append, unknown_append, known]

theorem only_baseUrl (v : Json) :
    { o.only given with baseUrl := o.baseUrl } = o.only (given ++ [("baseUrl", v)]) := by
  simp [only, names_append, unknown_append, known]

theorem only_paths (v : Json) :
    { o.only given with paths := o.paths } = o.only (given ++ [("paths", v)]) := by
  simp [only, names_append, unknown_append, known]

theorem only_switch : ∀ switch ∈ switches, ∀ v,
    switch.set (switch.get o) (o.only given) = o.only (given ++ [(switch.name, v)]) := by
  simp [switches, only, names_append, unknown_append, known]

theorem only_unknown {name : String} (h : name ∉ known) (v : Json) :
    { o.only given with extra := (unknown given).insert name v } =
      o.only (given ++ [(name, v)]) := by
  have hnew : ∀ k ∈ known, k ∈ names (given ++ [(name, v)]) ↔ k ∈ names given := by
    intro k hk
    have hne : k ≠ name := fun heq => h (heq ▸ hk)
    simp [names_append, hne]
  simp only [known, switches, List.map_cons, List.map_nil, List.cons_append, List.nil_append,
    List.forall_mem_cons] at hnew
  simp [only, hnew, unknown_append, h]

end Steps

/-- The options that are kept are all unknown to the compiler. -/
def KeepsUnknown (o : CompilerOptions) : Prop := ∀ name ∈ o.extra.keys, name ∉ known

section Whole

variable {o : CompilerOptions} (hextra : o.KeepsUnknown)
include hextra

/-- No two members have the same name. -/
theorem KeepsUnknown.nodup_names : (names o.members).Nodup := by
  rw [names, members, List.map_append]
  refine List.nodup_append'.2 ⟨o.nodup_names_knownMembers, o.extra.nodup_keys, ?_⟩
  exact fun name hknown hkept => hextra name hkept (o.mem_known_of_mem_names name hknown)

/-- The members that are kept are those with names that are unknown to the compiler. -/
theorem KeepsUnknown.filter_members : o.members.filter (·.1 ∉ known) = o.extra.entries := by
  rw [members, List.filter_append]
  have hnone : o.knownMembers.filter (·.1 ∉ known) = [] := by
    refine List.filter_eq_nil_iff.2 fun e he => ?_
    simpa using o.mem_known_of_mem_names e.1 (List.mem_map_of_mem he)
  have hall : o.extra.entries.filter (·.1 ∉ known) = o.extra.entries := by
    refine List.filter_eq_self.2 fun e he => ?_
    simpa using hextra e.1 (List.mem_map_of_mem he)
  rw [hnone, hall, List.nil_append]

/-- A name of an option that the compiler acts on is that of a member for such an option. -/
theorem KeepsUnknown.mem_names_iff {name : String} (hname : name ∈ known) :
    name ∈ names o.members ↔ name ∈ names o.knownMembers := by
  have hkept : name ∉ o.extra.keys := fun hmem => hextra name hmem hname
  rw [names, members, List.map_append, List.mem_append]
  exact or_iff_left hkept

/-- With all of their members read, options are as they were. -/
theorem KeepsUnknown.only_eq_self {given : List (String × Json)} (hgiven : given.Perm o.members) :
    o.only given = o := by
  have hnames {name : String} (hname : name ∈ known) :
      name ∈ names given ↔ name ∈ names o.knownMembers :=
    (hgiven.map _).mem_iff.trans (hextra.mem_names_iff hname)
  have hunknown : unknown given = o.extra := by
    refine SortedMap.ofList_eq_of_perm ?_
    rw [← hextra.filter_members]
    exact hgiven.filter _
  have htarget : "target" ∈ names given := (hnames (by decide)).2 (by simp [names_knownMembers])
  have hmodule : "module" ∈ names given := (hnames (by decide)).2 (by simp [names_knownMembers])
  have hswitches : ∀ switch ∈ switches, switch.name ∈ names given := by
    intro switch hswitch
    have hname : switch.name ∈ switches.map (·.name) := List.mem_map_of_mem hswitch
    refine (hnames (List.mem_append_right _ hname)).2 ?_
    rw [names_knownMembers]
    exact List.mem_append_left _ (List.mem_append_left _ (List.mem_append_right _ hname))
  -- a base or paths that are not written are what is there before any member is read
  have hbase : (if "baseUrl" ∈ names given then o.baseUrl else none) = o.baseUrl := by
    cases hset : o.baseUrl with
    | none => exact ite_self none
    | some base => exact if_pos ((hnames (by decide)).2 (by simp [names_knownMembers, hset]))
  have hpaths : (if "paths" ∈ names given then o.paths else .empty) = o.paths := by
    cases hset : o.paths.entries.isEmpty with
    | true =>
      have hempty : o.paths = .empty := by
        rw [← SortedMap.ofList_entries o.paths, List.isEmpty_iff.1 hset]
        rfl
      rw [hempty]
      exact ite_self _
    | false => exact if_pos ((hnames (by decide)).2 (by simp [names_knownMembers, hset]))
  simp only [switches, List.forall_mem_cons] at hswitches
  simp only [only, htarget, hmodule, hswitches, hbase, hpaths, hunknown, if_true, decide_true,
    Bool.true_and]

end Whole

/-! ## Reading members -/

/-- What a draft holds when some members of options were read. -/
structure Taken (o : CompilerOptions) (given : List (String × Json))
    (d : Reader.Draft CompilerOptions) : Prop where
  value : d.value = o.only given
  seen : ∀ name ∈ d.seen, name ∈ names given

section Reading

variable {o : CompilerOptions} {given : List (String × Json)} {d : Reader.Draft CompilerOptions}

theorem reads_named {α : Type} {ofName : String → Except String α} {s : String} {a : α}
    (h : ofName s = .ok a) {depth : Nat} {rest : List Char} :
    (named ofName).Reads depth ((Json.str s).chars ++ rest) a rest := by
  have htext : Reader.text.Reads depth ((Json.str s).chars ++ rest) s rest :=
    Reader.reads_text (List.forall_mem_nil _) s
  refine htext.bind ?_
  rw [h]
  exact Reader.reads_pure a

/-- An option that the compiler acts on is read once. -/
theorem Taken.reads_read (hd : o.Taken given d) {α : Type} {name : String} {v : Json} {a : α}
    {r : Reader α} {put : α → CompilerOptions → CompilerOptions} {depth : Nat}
    (hnew : name ∉ names given) (hread : ∀ rest, r.Reads depth (v.chars ++ rest) a rest)
    (hput : put a (o.only given) = o.only (given ++ [(name, v)])) :
    ∃ next, o.Taken (given ++ [(name, v)]) next ∧
      ∀ rest, (d.read name r put).Reads depth (':' :: (v.chars ++ rest)) next rest := by
  have hseen : name ∉ d.seen := fun hmem => hnew (hd.seen name hmem)
  refine ⟨⟨put a d.value, name :: d.seen⟩, ⟨?_, fun other hother => ?_⟩, fun rest => ?_⟩
  · rw [hd.value]
    exact hput
  · rw [names_append]
    rcases List.mem_cons.1 hother with rfl | hother
    · exact List.mem_append_right _ (List.mem_singleton_self _)
    · exact List.mem_append_left _ (hd.seen other hother)
  · exact Reader.Draft.reads_read hseen (hread rest)

/-- An option that the compiler does not act on is kept. -/
theorem Taken.reads_unknown (hd : o.Taken given d) {name : String} {v : Json} {depth : Nat}
    (hname : name ∉ known)
    (hread : ∀ rest, Reader.EndsNumber rest → Reader.value.Reads depth (v.chars ++ rest) v rest) :
    ∃ next, o.Taken (given ++ [(name, v)]) next ∧ ∀ rest, Reader.EndsNumber rest →
      (readOption d name).Reads depth (':' :: (v.chars ++ rest)) next rest := by
  refine ⟨{ d with value := { d.value with extra := d.value.extra.insert name v } }, ⟨?_, ?_⟩,
    fun rest hrest => ?_⟩
  · simp only [hd.value]
    exact only_unknown o given hname v
  · intro other hother
    rw [names_append]
    exact List.mem_append_left _ (hd.seen other hother)
  · rw [readOption_of_unknown d hname]
    exact Reader.reads_colon.bind ((hread rest hrest).bind (Reader.reads_pure _))

/-- How deep there may be arrays and objects where the options of a project file stand. -/
def optionsDepth : Nat := Reader.depthLimit - 2

/-- The options that are kept are read back where options stand. -/
def KeepsReadable (o : CompilerOptions) : Prop :=
  ∀ e ∈ o.extra.entries, e.1 ∉ known ∧ e.2.Nested (Reader.depthLimit - 3) ∧ e.2.isWhole = true

/-- **Each member of options is read as it was written**, whichever were read before. -/
theorem Taken.reads_member (hd : o.Taken given d) (hkept : o.KeepsReadable) {e : String × Json}
    (he : e ∈ o.members) (hnew : e.1 ∉ names given) :
    ∃ next, o.Taken (given ++ [e]) next ∧ ∀ rest, Reader.EndsNumber rest →
      (readOption d e.1).Reads optionsDepth (':' :: (e.2.chars ++ rest)) next rest := by
  have hknown {name : String} {v : Json} {α : Type} {a : α} {r : Reader α}
    {put : α → CompilerOptions → CompilerOptions} (hnew : name ∉ names given)
    (hoption : readOption d name = d.read name r put)
    (hread : ∀ rest, r.Reads optionsDepth (v.chars ++ rest) a rest)
    (hput : put a (o.only given) = o.only (given ++ [(name, v)])) :
    ∃ next, o.Taken (given ++ [(name, v)]) next ∧ ∀ rest, Reader.EndsNumber rest →
      (readOption d name).Reads optionsDepth (':' :: (v.chars ++ rest)) next rest := by
    obtain ⟨next, hnext, hreads⟩ := hd.reads_read hnew hread hput
    exact ⟨next, hnext, fun rest _ => hoption ▸ hreads rest⟩
  obtain rfl | rfl | ⟨switch, hswitch, rfl⟩ | ⟨base, hbase, rfl⟩ | rfl | he := mem_members he
  · exact hknown hnew (readOption_target d) (fun rest => reads_named (Target.ofName_name _))
      (only_target o given _)
  · exact hknown hnew (readOption_module d) (fun rest => reads_named (ModuleKind.ofName_name _))
      (only_module o given _)
  · exact hknown hnew (readOption_switch d switch hswitch) (fun rest => Reader.reads_bool _)
      (only_switch o given switch hswitch _)
  · have hput := only_baseUrl o given (.str base)
    rw [hbase] at hput
    exact hknown hnew (readOption_baseUrl d) (fun rest => Reader.reads_optional_text base) hput
  · refine hknown hnew (readOption_paths d) (fun rest => ?_) (only_paths o given _)
    exact Reader.reads_ofMap fun e _ => Reader.readsBack_array fun s _ => Reader.readsBack_text s
  · obtain ⟨hname, hnested, hwhole⟩ := hkept e he
    refine hd.reads_unknown hname fun rest hrest => ?_
    exact (Reader.readsBack_valueWithin hnested hwhole (by decide) (by decide)).reads rest hrest

/-- Members of options are read one after the other, in any order. -/
theorem Taken.takesUp (hd : o.Taken given d) (hkept : o.KeepsReadable)
    {more : List (String × Json)} (hmore : ∀ e ∈ more, e ∈ o.members)
    (hnodup : (names (given ++ more)).Nodup) :
    ∃ last, o.Taken (given ++ more) last ∧
      Reader.TakesUp readOption Json.chars optionsDepth d more last := by
  -- no member repeats a name that was read, which would be refused
  induction more generalizing given d with
  | nil => exact ⟨d, (List.append_nil given).symm ▸ hd, .nil⟩
  | cons e more ih =>
    obtain ⟨he, hmore⟩ := List.forall_mem_cons.1 hmore
    have hnew : e.1 ∉ names given := by
      rw [names, List.map_append, List.map_cons] at hnodup
      exact fun hmem => (List.nodup_append'.1 hnodup).2.2 hmem List.mem_cons_self
    obtain ⟨next, hnext, hread⟩ := hd.reads_member hkept he hnew
    have hsplit : given ++ e :: more = given ++ [e] ++ more := by simp
    rw [hsplit] at hnodup ⊢
    obtain ⟨last, hlast, htakes⟩ := ih hnext hmore hnodup
    exact ⟨last, hlast, .cons hread htakes⟩

theorem KeepsReadable.keepsUnknown (h : o.KeepsReadable) : o.KeepsUnknown := by
  intro name hname
  obtain ⟨e, he, rfl⟩ := List.mem_map.1 hname
  exact (h e he).1

/-- Options are read from their object, in whatever order its members stand. -/
theorem KeepsReadable.reads_reader (hkept : o.KeepsReadable) {order : List (String × Json)}
    (horder : order.Perm o.members) {blanks rest : List Char}
    (hblanks : ∀ c ∈ blanks, Reader.isBlank c = true) :
    reader.Reads (optionsDepth + 1) (blanks ++ ((Json.obj order).chars ++ rest)) o rest := by
  have hnodup : (names ([] ++ order)).Nodup :=
    (horder.map _).nodup_iff.2 hkept.keepsUnknown.nodup_names
  have hstart : o.Taken [] ⟨{}, []⟩ := ⟨(only_nil o).symm, nofun⟩
  obtain ⟨last, hlast, htakes⟩ := hstart.takesUp hkept (fun e he => horder.mem_iff.1 he) hnodup
  have hvalue : last.value = o :=
    hlast.value.trans (hkept.keepsUnknown.only_eq_self horder)
  have hnone : ∀ c ∈ ([] : List Char), Reader.isBlank c = true := List.forall_mem_nil _
  have hread := Reader.reads_members
    (fun (d : Reader.Draft CompilerOptions) => (return d.value : Reader CompilerOptions))
    hnone hnone htakes rest (Reader.reads_pure last.value)
  rw [hvalue] at hread
  have hbrace : Reader.start.Reads (optionsDepth + 1)
      (blanks ++ '\x7b' :: (Reader.membersChars [] Json.chars order ++ '\x7d' :: rest)) '\x7b'
      ('\x7b' :: (Reader.membersChars [] Json.chars order ++ '\x7d' :: rest)) :=
    (Reader.reads_skipBlanks hblanks (by rintro _ ⟨⟩; rfl)).bind (Reader.reads_pure _)
  rw [Json.chars_obj, List.cons_append, List.append_assoc]
  exact hbrace.bind hread

/-- What a member of a project file adds to a draft of its options. -/
def projectMember (d : Reader.Draft CompilerOptions) (name : String) :
    Reader (Reader.Draft CompilerOptions) :=
  if name == "compilerOptions" then d.read name reader fun o _ => o else d.skip

/-- The text of a project file that gives options only. -/
def inProject (options : Json) : String := "\x7b\"compilerOptions\": " ++ options.render ++ "\x7d"

/-- Such a text is that of an object with one member. -/
theorem toList_inProject (options : Json) : (inProject options).toList = '\x7b' ::
    (Reader.membersChars [] (fun v : Json => ' ' :: v.chars) [("compilerOptions", options)] ++
      ['\x7d']) := by
  have hplain : ∀ c ∈ "compilerOptions".toList, Reader.isPlain c = true := by
    simp [Reader.isPlain]
  unfold inProject
  rw [Reader.membersChars, Reader.memberChars, Reader.toList_renderText,
    Reader.written_of_plain hplain, String.toList_append, String.toList_append]
  simp [Reader.laterMembers, Json.chars]

/-- **Options are read from a project file that holds them**, in whatever order they stand. -/
theorem KeepsReadable.ofProject_inProject (hkept : o.KeepsReadable)
    {order : List (String × Json)} (horder : order.Perm o.members) :
    ofProject (inProject (.obj order)) = .ok o := by
  have hblank : ∀ c ∈ [' '], Reader.isBlank c = true := by simp [Reader.isBlank]
  have hnone : ∀ c ∈ ([] : List Char), Reader.isBlank c = true := List.forall_mem_nil _
  have hmember (rest : List Char) (_ : Reader.EndsNumber rest) :
      (projectMember ⟨{}, []⟩ "compilerOptions").Reads (optionsDepth + 1)
        (':' :: ((' ' :: (Json.obj order).chars) ++ rest)) ⟨o, ["compilerOptions"]⟩ rest :=
    Reader.reads_colon.bind ((hkept.reads_reader horder hblank).bind (Reader.reads_pure _))
  have htakes : Reader.TakesUp projectMember (fun v : Json => ' ' :: v.chars) (optionsDepth + 1)
      ⟨{}, []⟩ [("compilerOptions", .obj order)] ⟨o, ["compilerOptions"]⟩ := .cons hmember .nil
  have hread := Reader.reads_members
    (fun (d : Reader.Draft CompilerOptions) => (pure d.value : Reader CompilerOptions))
    hnone hnone htakes [] (Reader.reads_pure o)
  refine Reader.run_eq_ok ?_
  rw [toList_inProject]
  exact (Reader.reads_start rfl).bind hread

end Reading

/-! ## Options that were read -/

/-- Options are read back from what they are written as. -/
structure ReadsBack (o : CompilerOptions) : Prop where
  /-- What is kept has no name of an option that the compiler acts on. -/
  unknown : ∀ name ∈ o.extra.keys, name ∉ known
  /-- No name is written twice. -/
  nodup : (names o.members).Nodup
  /-- A base is written if there is one. -/
  baseUrl : "baseUrl" ∈ names o.members ↔ o.baseUrl.isSome = true
  /-- Paths are written if there are any. -/
  paths : "paths" ∈ names o.members ↔ o.paths.entries ≠ []
  /-- The options are read back. -/
  again : ofProject (inProject o.toJson) = .ok o
  /-- They are read back from an object with their members in any order. -/
  anyOrder : ∀ order, order.Perm o.members → ofProject (inProject (.obj order)) = .ok o

theorem KeepsReadable.readsBack {o : CompilerOptions} (hkept : o.KeepsReadable) :
    o.ReadsBack where
  unknown := hkept.keepsUnknown
  nodup := hkept.keepsUnknown.nodup_names
  baseUrl := by
    rw [hkept.keepsUnknown.mem_names_iff (by decide), names_knownMembers]
    cases o.baseUrl <;> simp [switches]
  paths := by
    rw [hkept.keepsUnknown.mem_names_iff (by decide), names_knownMembers]
    cases o.paths.entries <;> simp [switches]
  again := by
    rw [toJson_eq]
    exact hkept.ofProject_inProject (SortedMap.entries_ofList_perm hkept.keepsUnknown.nodup_names)
  anyOrder := fun _ => hkept.ofProject_inProject

/-- **Options that are read from a project file are read back**, if those that the compiler does not
act on have no numbers other than whole ones of 64 bits. What is kept are exactly the options of the
text that the compiler does not act on, each with the value that the text gives it. -/
theorem ofProject_readsBack {text : String} {o : CompilerOptions} (h : ofProject text = .ok o) :
    ∃ options, written text = .ok options ∧ o.extra = unknown options ∧
      ((∀ e ∈ (unknown options).entries, e.2.isWhole = true) → o.ReadsBack) := by
  obtain ⟨options, hwritten, hextra, hnested⟩ := written_of_ofProject h
  refine ⟨options, hwritten, hextra, fun hwhole => KeepsReadable.readsBack fun e he => ?_⟩
  rw [hextra] at he
  obtain ⟨hmem, hfilter⟩ := List.mem_filter.1 (SortedMap.mem_entries_ofList he)
  have hname : e.1 ∉ known := by simpa using hfilter
  exact ⟨hname, hnested e hmem, hwhole e he⟩

/-- A project file with options of many kinds, one of which it gives twice. -/
def mixedProject : String :=
  "\x7b\"files\": [1e400], \"compilerOptions\": \x7b\"target\": \"latest\", \"lib\": [1.5], " ++
  "\"strict\": true, \"baseUrl\": null, \"paths\": \x7b\x7d, \"lib\": [\"dom\", " ++
  "\x7b\"b\": -9223372036854775808, \"a\": [18446744073709551615, \"\\u0001\\\"\"]\x7d], " ++
  "\"Target\": null\x7d\x7d"

/-- The options of this file are read back, with those that the compiler does not act on. -/
theorem mixedProject_readsBack : ∃ o options, ofProject mixedProject = .ok o ∧
    written mixedProject = .ok options ∧ o.target = .esNext ∧ o.extra.keys = ["Target", "lib"] ∧
    o.extra = unknown options ∧ o.ReadsBack := by
  have hread : (match ofProject mixedProject with
      | .ok o => decide (o.target = .esNext) && o.extra.keys == ["Target", "lib"] &&
        Json.haveWhole o.extra.entries
      | .error _ => false) = true := by
    decide +kernel
  cases h : ofProject mixedProject with
  | error e =>
    rw [h] at hread
    cases hread
  | ok o =>
    rw [h] at hread
    obtain ⟨⟨htarget, hkeys⟩, hwhole⟩ : (o.target = .esNext ∧ o.extra.keys = ["Target", "lib"]) ∧
        Json.haveWhole o.extra.entries = true := by simpa using hread
    obtain ⟨options, hwritten, hextra, hback⟩ := ofProject_readsBack h
    have hkept : ∀ e ∈ (unknown options).entries, e.2.isWhole = true :=
      Json.haveWhole_iff.1 (hextra ▸ hwhole)
    exact ⟨o, options, rfl, hwritten, htarget, hkeys, hextra, hback hkept⟩

end CompilerOptions

end ScriptHost
