import ScriptHost.Proofs.Compile.Output
import ScriptHost.Proofs.Host.Declaration
/-!
# How often a file is emitted

The roots of a call are emitted one after the other, and each of them by itself.
A file that is known under two of them is emitted twice, although it was read
and checked once: all factories run on it twice, and what they report is there
twice.

- `Compiler.rootsOf`: the roots under which a file is known.
- `Compiler.Clash`: two roots have one file of a kind.
- `Compiler.Separate`: no file of a kind is known under two roots.
- `Compiler.nodup_filter_rootNames_iff`: files are emitted once exactly if their roots are separate.
- `Compiler.separate_of_nodup`: the roots of files with outputs are separate for all usual inputs.
- `Program.EmitsFiles.forall₂`, `Program.StopsFiles.exists_split`: each emission runs the factories.
- `Compiler.emitted_once_iff`: how often files are emitted.
-/

namespace ScriptHost

/-! ## Runs of factories -/

namespace Program

variable {p : Program} {t : Transformers} {before : List Report} {files : List SourceFile}
  {runs : List FileRun} {e : Exception}

/-- The factories run once on each of the files that are emitted in turn. -/
theorem EmitsFiles.forall₂ (h : p.EmitsFiles t before files runs) :
    List.Forall₂ (fun file r => ∃ earlier, p.EmitsFile t earlier file r) files runs := by
  induction h with
  | nil => exact .nil
  | cons hr _ ih => exact .cons ⟨_, hr⟩ ih

/-- An emission that stops has emitted the files before the one where it stops. -/
theorem StopsFiles.exists_split (h : p.StopsFiles t before files e) :
    ∃ done file rest runs, files = done ++ file :: rest ∧ p.EmitsFiles t before done runs ∧
      p.StopsFile t (before ++ runs.flatMap FileRun.reports) file e := by
  induction h with
  | @here before file files e hstops =>
    refine ⟨[], file, files, [], rfl, .nil, ?_⟩
    rwa [List.flatMap_nil, List.append_nil]
  | @later before file files r e hr _ ih =>
    obtain ⟨done, last, rest, runs, rfl, hruns, hstops⟩ := ih
    refine ⟨file :: done, last, rest, r :: runs, rfl, .cons hr hruns, ?_⟩
    rwa [List.flatMap_cons, ← List.append_assoc]

end Program

/-! ## Names that come up twice -/

section Names

variable {α β : Type} [DecidableEq α] {l : List α} {f : α → β} {kind : β → Bool}

/-- Values of a kind are there once exactly if no two elements have one. -/
theorem nodup_filter_map_iff (hl : l.Nodup) : ((l.map f).filter kind).Nodup ↔
    ∀ a ∈ l, ∀ b ∈ l, a ≠ b → f a = f b → kind (f a) = false := by
  rw [List.filter_map, List.nodup_map_iff_inj_on (hl.filter _)]
  simp only [List.mem_filter, Function.comp_apply]
  constructor
  · intro h a ha b hb hne hsame
    by_contra hkind
    rw [Bool.not_eq_false] at hkind
    exact hne (h a ⟨ha, hkind⟩ b ⟨hb, hsame ▸ hkind⟩ hsame)
  · rintro h a ⟨ha, hkind⟩ b ⟨hb, -⟩ hsame
    by_contra hne
    rw [h a ha b hb hne hsame] at hkind
    cases hkind

/-- Values of a kind are there once in two lists exactly if no two elements have one. -/
theorem nodup_filter_map_append_iff {more : List α} (hl : l.Nodup) (hmore : more.Nodup) :
    (((l ++ more).map f).filter kind).Nodup ↔
      (∀ a ∈ l, ∀ b ∈ l, a ≠ b → f a = f b → kind (f a) = false) ∧
      (∀ a ∈ more, ∀ b ∈ more, a ≠ b → f a = f b → kind (f a) = false) ∧
      ∀ a ∈ l, ∀ b ∈ more, f a = f b → kind (f a) = false := by
  rw [List.map_append, List.filter_append, List.nodup_append, nodup_filter_map_iff hl,
    nodup_filter_map_iff hmore]
  refine and_congr_right fun _ => and_congr_right fun _ => ?_
  simp only [List.mem_filter, List.mem_map]
  constructor
  · intro h a ha b hb hsame
    by_contra hkind
    rw [Bool.not_eq_false] at hkind
    exact h (f a) ⟨⟨a, ha, rfl⟩, hkind⟩ (f b) ⟨⟨b, hb, rfl⟩, hsame ▸ hkind⟩ hsame
  · rintro h _ ⟨⟨a, ha, rfl⟩, hkind⟩ _ ⟨⟨b, hb, rfl⟩, -⟩ hsame
    rw [h a ha b hb hsame] at hkind
    cases hkind

end Names

namespace Compiler

variable {c : Compiler} {input : SortedMap String} {kind : String → Bool}

/-! ## Roots and their names -/

/-- The roots of a call under which a file is known. -/
def rootsOf (c : Compiler) (input : SortedMap String) (name : String) : List String :=
  (input.keys ++ c.ambientRoots).filter fun root =>
    (c.files input).host.canonicalName root == name

/-- The names of the roots of a call, in order, but for those of files to depend on. -/
def rootNames (c : Compiler) (input : SortedMap String) : List String :=
  ((input.keys ++ c.ambientRoots).map (c.files input).host.canonicalName).filter fun name =>
    !(c.files input).host.isLibrary name

/-- Each root of a call is to be emitted by itself. -/
theorem emittable_eq (c : Compiler) (input : SortedMap String) :
    (c.program input).emittable = (c.rootNames input).map (c.files input).host.file := by
  have hfiles : (input.keys ++ c.ambientRoots).filterMap (c.program input).file? =
      ((input.keys ++ c.ambientRoots).map (c.files input).host.canonicalName).map
        (c.files input).host.file := by
    rw [List.map_map, ← List.filterMap_eq_map]
    exact List.filterMap_congr fun root hroot => file?_of_mem_roots hroot
  rw [Program.emittable, program_roots, program_host, hfiles, List.filter_map]
  rfl

theorem names_emittable (c : Compiler) (input : SortedMap String) :
    (c.program input).emittable.map (·.name) = c.rootNames input := by
  rw [emittable_eq, List.map_map]
  exact List.map_id _

/-- What is emitted are the names of roots that have an output. -/
theorem names_emitted (hskips : (c.program input).skipsEmit = false) :
    (c.program input).emitted.map (·.name) = (c.rootNames input).filter fun name =>
      (Path.outputName name c.options.allowJs).isSome := by
  rw [Program.emitted, hskips, if_neg Bool.false_ne_true, ← names_emittable, List.filter_map,
    program_options, Function.comp_def]

/-- A file is to be emitted as often as it is known under roots, unless it is one to depend on. -/
theorem count_rootNames (c : Compiler) (input : SortedMap String) (name : String) :
    (c.rootNames input).count name =
      if (c.files input).host.isLibrary name then 0 else (c.rootsOf input name).length := by
  cases hlibrary : (c.files input).host.isLibrary name with
  | true =>
    rw [if_pos rfl, List.count_eq_zero, rootNames, List.mem_filter, hlibrary]
    simp
  | false =>
    rw [if_neg Bool.false_ne_true, rootNames, List.count_filter (by simp [hlibrary]), rootsOf,
      List.count, List.countP_map, List.countP_eq_length_filter]
    rfl

/-! ## Roots with one name -/

/-- No file of a kind is known under two roots of a call. -/
structure Separate (c : Compiler) (input : SortedMap String) (kind : String → Bool) : Prop where
  /-- No two paths of the input differ in separators alone. -/
  keys : ∀ key ∈ input.keys, ∀ other ∈ input.keys, key ≠ other →
    Path.canonical key = Path.canonical other → kind (Path.canonical key) = false
  /-- No external root is a spelling of a path of the input. -/
  shared : ∀ root ∈ c.ambientRoots, (∃ key ∈ input.keys, Path.fold key = Path.fold root) →
    kind ((c.files input).host.canonicalName root) = false
  /-- No two external roots that do not exist differ in separators alone. -/
  missing : ∀ root ∈ c.ambientRoots, ∀ other ∈ c.ambientRoots, root ≠ other →
    Path.canonical root = Path.canonical other → (c.files input).host.exists? root = false →
      kind (Path.canonical root) = false

theorem nodup_ambientRoots (c : Compiler) : c.ambientRoots.Nodup := c.external.nodup_keys.filter _

/-- Two roots have one file of a kind, and it is not there to depend on. -/
def Clash (c : Compiler) (input : SortedMap String) (kind : String → Bool)
    (root other : String) : Prop :=
  (c.files input).host.canonicalName root = (c.files input).host.canonicalName other ∧
    (c.files input).host.isLibrary ((c.files input).host.canonicalName root) = false ∧
      kind ((c.files input).host.canonicalName root) = true

/-- Two paths of the input clash exactly if they differ in separators alone. -/
theorem clash_keys_iff {key other : String} (hkey : key ∈ input.keys)
    (hother : other ∈ input.keys) : c.Clash input kind key other ↔
      Path.canonical key = Path.canonical other ∧ kind (Path.canonical key) = true := by
  obtain ⟨hname, hlibrary⟩ := canonicalName_of_mem_keys (c := c) hkey
  obtain ⟨hname', -⟩ := canonicalName_of_mem_keys (c := c) hother
  rw [Clash, hname, hname', hlibrary]
  simp

/-- A root clashes with a path of the input exactly if it is a spelling of one. -/
theorem clash_shared_iff {root : String} : (∃ key ∈ input.keys, c.Clash input kind key root) ↔
    (∃ key ∈ input.keys, Path.fold key = Path.fold root) ∧
      kind ((c.files input).host.canonicalName root) = true := by
  rw [← (c.files_presents input).exists_canonical_eq_name_iff]
  constructor
  · rintro ⟨key, hkey, hsame, -, hkind⟩
    exact ⟨⟨key, hkey, (canonicalName_of_mem_keys hkey).1.symm.trans hsame⟩, hsame ▸ hkind⟩
  · rintro ⟨⟨key, hkey, hsame⟩, hkind⟩
    obtain ⟨hname, hlibrary⟩ := canonicalName_of_mem_keys (c := c) hkey
    rw [← hsame] at hkind
    exact ⟨key, hkey, hname.trans hsame, hname.symm ▸ hlibrary, hname.symm ▸ hkind⟩

/-- Roots that do not exist clash if they differ in separators alone. -/
theorem clash_of_missing {root other : String} (hsame : Path.canonical root = Path.canonical other)
    (hmissing : (c.files input).host.exists? root = false)
    (hkind : kind (Path.canonical root) = true) : c.Clash input kind root other := by
  have hmissing' := (VirtualFiles.exists?_congr hsame).symm.trans hmissing
  rw [Clash, VirtualFiles.canonicalName_of_not_exists hmissing,
    VirtualFiles.canonicalName_of_not_exists hmissing']
  refine ⟨hsame, Bool.eq_false_iff.2 fun hlibrary => ?_, hkind⟩
  have hexists := VirtualFiles.exists?_of_isLibrary hlibrary
  rw [VirtualFiles.exists?_congr (Path.canonical_canonical root), hmissing] at hexists
  cases hexists

/-- Roots that clash are spellings of a path of the input, or they do not exist. -/
theorem Clash.held_or_missing {root other : String} (h : c.Clash input kind root other) :
    (∃ key ∈ input.keys, Path.fold key = Path.fold root) ∨
      Path.canonical root = Path.canonical other ∧ (c.files input).host.exists? root = false := by
  obtain ⟨hsame, hlibrary, -⟩ := h
  have hv := c.files_presents input
  rcases hv.held_or_isLibrary_or_missing root with hheld | hlibrary' | hmissing
  · exact .inl hheld
  · cases hlibrary'.symm.trans hlibrary
  rcases hv.held_or_isLibrary_or_missing other with hheld | hlibrary' | hmissing'
  · rw [← hv.exists_canonical_eq_name_iff, ← hsame] at hheld
    exact .inl (hv.exists_canonical_eq_name_iff.1 hheld)
  · rw [← hsame, hlibrary] at hlibrary'
    cases hlibrary'
  · rw [VirtualFiles.canonicalName_of_not_exists hmissing,
      VirtualFiles.canonicalName_of_not_exists hmissing'] at hsame
    exact .inr ⟨hsame, hmissing⟩

/-- Files of a kind are emitted once exactly if no two roots clash. -/
theorem nodup_filter_rootNames_iff_not_clash : ((c.rootNames input).filter kind).Nodup ↔
    (∀ key ∈ input.keys, ∀ other ∈ input.keys, key ≠ other → ¬ c.Clash input kind key other) ∧
    (∀ root ∈ c.ambientRoots, ∀ other ∈ c.ambientRoots, root ≠ other →
      ¬ c.Clash input kind root other) ∧
    ∀ key ∈ input.keys, ∀ root ∈ c.ambientRoots, ¬ c.Clash input kind key root := by
  rw [rootNames, List.filter_filter,
    nodup_filter_map_append_iff input.nodup_keys c.nodup_ambientRoots]
  simp only [Clash, not_and, Bool.and_eq_false_iff, Bool.not_eq_false', Bool.not_eq_true,
    or_iff_not_imp_right]

/-- **Which files are emitted once**: those of a kind, exactly if no two roots have one of them. -/
theorem nodup_filter_rootNames_iff :
    ((c.rootNames input).filter kind).Nodup ↔ c.Separate input kind := by
  rw [nodup_filter_rootNames_iff_not_clash]
  constructor
  · rintro ⟨hkeys, hroots, hshared⟩
    constructor
    case keys =>
      intro key hkey other hother hne hsame
      refine Bool.eq_false_iff.2 fun hkind => hkeys key hkey other hother hne ?_
      exact (clash_keys_iff hkey hother).2 ⟨hsame, hkind⟩
    case shared =>
      intro root hroot hheld
      refine Bool.eq_false_iff.2 fun hkind => ?_
      obtain ⟨key, hkey, hclash⟩ := clash_shared_iff.2 ⟨hheld, hkind⟩
      exact hshared key hkey root hroot hclash
    case missing =>
      intro root hroot other hother hne hsame hmissing
      refine Bool.eq_false_iff.2 fun hkind => hroots root hroot other hother hne ?_
      exact clash_of_missing hsame hmissing hkind
  · intro h
    refine ⟨?_, ?_, ?_⟩
    · intro key hkey other hother hne hclash
      obtain ⟨hsame, hkind⟩ := (clash_keys_iff hkey hother).1 hclash
      exact Bool.eq_false_iff.1 (h.keys key hkey other hother hne hsame) hkind
    · intro root hroot other hother hne hclash
      rcases hclash.held_or_missing with hheld | ⟨hsame, hmissing⟩
      · exact Bool.eq_false_iff.1 (h.shared root hroot hheld) hclash.2.2
      · have hkind := hclash.2.2
        rw [VirtualFiles.canonicalName_of_not_exists hmissing] at hkind
        exact Bool.eq_false_iff.1 (h.missing root hroot other hother hne hsame hmissing) hkind
    · intro key hkey root hroot hclash
      obtain ⟨hheld, hkind⟩ := clash_shared_iff.1 ⟨key, hkey, hclash⟩
      exact Bool.eq_false_iff.1 (h.shared root hroot hheld) hkind

/-- **Files with outputs are emitted once** if no two paths of the input differ in separators alone
and the common ending of external roots is that of declarations. -/
theorem separate_of_nodup (hkeys : (input.keys.map Path.canonical).Nodup)
    (hambient : Path.isDeclaration c.environment.ambientEnding = true) :
    c.Separate input fun name => (Path.outputName name c.options.allowJs).isSome := by
  have hroots {root : String} (hroot : root ∈ c.ambientRoots) {name : String}
      (hname : lowerCase name = Path.fold root) :
      (Path.outputName name c.options.allowJs).isSome = false := by
    have hdeclares : Path.isDeclaration name = true :=
      Path.isDeclaration_of_lowerCase_eq hname (isDeclaration_of_mem_ambientRoots hambient hroot)
    rw [Option.isSome_eq_false_iff, Option.isNone_iff_eq_none]
    exact Path.outputName_of_isDeclaration hdeclares _
  constructor
  case keys =>
    intro key hkey other hother hne hsame
    exact absurd (List.inj_on_of_nodup_map hkeys hkey hother hsame) hne
  case shared =>
    intro root hroot _
    obtain ⟨hslash, hfold⟩ := (c.files input).canonicalName_spec root
    exact hroots hroot (by rw [← hfold, Path.fold_of_canonical hslash])
  case missing => exact fun root hroot _ _ _ _ _ => hroots hroot rfl

/-! ## How often files are emitted -/

/-- **How often a file is emitted**: as often as it is known under roots of the call. So no file is
emitted twice exactly if no file with an output is known under two roots, and the factories run on
each file as often as it is emitted, up to the file where something stops. -/
theorem emitted_once_iff (c : Compiler) (input : SortedMap String) :
    (∀ name, ((c.program input).emittable.map (·.name)).count name =
      if (c.files input).host.isLibrary name then 0 else (c.rootsOf input name).length) ∧
    (((c.program input).emittable.map (·.name)).Nodup ↔ c.Separate input fun _ => true) ∧
    (((c.program input).emitted.map (·.name)).Nodup ↔ (c.program input).skipsEmit = true ∨
      c.Separate input fun name => (Path.outputName name c.options.allowJs).isSome) ∧
    ∀ t before,
      (∃ emission runs,
        ((c.program input).emit t).Yields before emission (runs.flatMap FileRun.reports) ∧
        List.Forall₂ (fun file r => ∃ earlier, (c.program input).EmitsFile t earlier file r)
          (c.program input).emitted runs) ∨
      ∃ e done file rest runs, ((c.program input).emit t).Stops before e ∧
        (c.program input).emitted = done ++ file :: rest ∧
        List.Forall₂ (fun file r => ∃ earlier, (c.program input).EmitsFile t earlier file r)
          done runs ∧
        ∃ earlier, (c.program input).StopsFile t earlier file e := by
  refine ⟨fun name => ?_, ?_, ?_, fun t before => ?_⟩
  · rw [names_emittable, count_rootNames]
  · rw [names_emittable, ← nodup_filter_rootNames_iff, List.filter_true]
  · cases hskips : (c.program input).skipsEmit with
    | true => simp [Program.emitted, hskips]
    | false =>
      rw [names_emitted hskips, nodup_filter_rootNames_iff, or_iff_right Bool.false_ne_true]
  · rcases Action.yields_or_stops ((c.program input).emit t) before with
      ⟨emission, found, hyields⟩ | ⟨e, hstops⟩
    · obtain ⟨runs, hruns, -, rfl⟩ := Program.emit_yields_iff.1 hyields
      exact .inl ⟨emission, runs, hyields, hruns.forall₂⟩
    · obtain ⟨done, file, rest, runs, hfiles, hruns, hfile⟩ :=
        (Program.emit_stops_iff.1 hstops).exists_split
      exact .inr ⟨e, done, file, rest, runs, hstops, hfiles, hruns.forall₂, _, hfile⟩

/-- A compiler with a factory that reports once on each file. -/
def reportingSeen : Compiler where
  options := { target := .esNext }
  provider := some fun _ => return { before := [Factory.reportModule 9 (.flat "seen")] }

/-- The same compiler with an external root. -/
def withSharedRoot : Compiler :=
  { reportingSeen with
    external := .ofList [("a.ts", "2;")]
    environment := { ambientEnding := ".ts" } }

/-- A file that is an external root, too, and a file whose path is spelled in two ways are each
emitted twice, and all that is reported on them is there twice. -/
theorem sharedRoot_repeated :
    (¬ ((withSharedRoot.program (.ofList [("a.ts", "1;")])).emittable.map (·.name)).Nodup ∧
      (withSharedRoot.compile (.ofList [("a.ts", "1;")])).diagnostics =
        List.replicate 2 ⟨some "a.ts", .error, .number 9, some 0, some 2, "seen"⟩) ∧
    ¬ ((reportingSeen.program
        (.ofList [("s/a.ts", "1;"), ("s\\a.ts", "2;")])).emittable.map (·.name)).Nodup ∧
      (reportingSeen.compile (.ofList [("s/a.ts", "1;"), ("s\\a.ts", "2;")])).diagnostics =
        List.replicate 2 ⟨some "s/a.ts", .error, .number 9, some 0, some 2, "seen"⟩ := by
  decide +kernel

end Compiler

end ScriptHost
