import ScriptHost.Proofs.Program.Log
/-!
# Loading programs

Loading walks over a list of files that grows while it walks. The walk comes to
an end because every file that is added is one of the host's and is added once;
then every file has been resolved and no file is missing.

- `Loading.After`: the state of loading after some lookups.
- `Loading.Walk`: the state of loading between two files.
- `Loading.Walk.next`: resolving the file that is next goes one file further.
- `Loading.Walk.run`: a run that is long enough resolves all files.
- `Program.loaded_load`: what loading leaves behind.
-/

namespace ScriptHost

namespace Loading

variable {c : Setting} {s : Loading} {log : List Lookup} {n : Nat}

/-! ## One lookup -/

/-- The state of loading after some lookups: the files to which they lead are loaded, and those
from a place on wait in their order. -/
structure After (s : Loading) (c : Setting) (log : List Lookup) (n : Nat) : Prop where
  setting : s.program.setting = c
  holds : s.program.Holds (c.names log)
  derived : c.Derived log
  queue : s.queue = List.range' n ((c.names log).length - n)
  within : n ≤ (c.names log).length

/-- Following a lookup that leads to no file changes nothing. -/
theorem follow_of_none {e : Lookup} (h : e.target? = none) : s.follow e.answer = s := by
  unfold follow
  split
  · next name heq => simp [Lookup.target?_eq_some_iff.2 heq] at h
  · rfl

/-- A lookup that loads no file leaves the state as it is. -/
theorem After.of_names_eq (h : s.After c log n) {e : Lookup} (he : c.Follows log e)
    (hnames : c.names (log ++ [e]) = c.names log) : s.After c (log ++ [e]) n :=
  ⟨h.setting, hnames ▸ h.holds, h.derived.concat he, hnames ▸ h.queue, hnames ▸ h.within⟩

/-- A lookup that leads to a file which is not loaded adds this file, and its place is the last in
the queue. The place is that of the new file because the file has no other name. -/
theorem After.follow_new (hs : c.host.Settled) (h : s.After c log n) {e : Lookup}
    (he : c.Follows log e) {name : String} (htarget : e.target? = some name)
    (hnew : name ∉ c.names log) : (s.follow (some (.file name))).After c (log ++ [e]) n := by
  have hnames : c.names (log ++ [e]) = c.names log ++ [name] := by
    rw [Setting.names_concat_of_some htarget, if_neg hnew]
  have hcanon : s.program.host.canonicalName name = name := by
    have hhost : s.program.host = c.host := congrArg Setting.host h.setting
    rw [hhost]
    exact ((he.finds htarget).settled hs).1
  have hholds : (s.program.addFile name).Holds (c.names log ++ [name]) := by
    have hmissing : s.program.host.canonicalName name ∉ c.names log := hcanon.symm ▸ hnew
    simpa only [hcanon] using h.holds.addFile_of_not_mem hmissing
  have hlast : (s.program.addFile name).files.length - 1 = (c.names log).length := by
    rw [hholds.files]
    simp
  have hfollow : s.follow (some (.file name)) =
      ⟨s.program.addFile name, s.queue ++ [(c.names log).length]⟩ := by
    rw [Loading.follow, if_neg (mt h.holds.hasFile_iff.1 hnew), ← hlast]
  rw [hfollow]
  refine ⟨?_, hnames ▸ hholds, h.derived.concat he, ?_, ?_⟩
  · exact (Program.addFile_setting _ _).trans h.setting
  · have hwithin := h.within
    rw [hnames, List.length_append, List.length_singleton, Nat.sub_add_comm hwithin,
      List.range'_concat, h.queue, Nat.one_mul, Nat.add_sub_cancel' hwithin]
  · rw [hnames, List.length_append]
    exact Nat.le_add_right_of_le h.within

/-- **One step of loading.** Following a lookup that follows from those before it leads to the
state after it. -/
theorem After.follow (hs : c.host.Settled) (h : s.After c log n) {e : Lookup}
    (he : c.Follows log e) : (s.follow e.answer).After c (log ++ [e]) n := by
  cases htarget : e.target? with
  | none =>
    rw [follow_of_none htarget]
    exact h.of_names_eq he (Setting.names_concat_of_none htarget)
  | some name =>
    rw [Lookup.target?_eq_some_iff.1 htarget]
    by_cases hmem : name ∈ c.names log
    · have hfollow : s.follow (some (.file name)) = s := by
        rw [Loading.follow, if_pos (h.holds.hasFile_iff.2 hmem)]
      rw [hfollow]
      exact h.of_names_eq he (by rw [Setting.names_concat_of_some htarget, if_pos hmem])
    · exact h.follow_new hs he htarget hmem

/-! ## One file -/

/-- The state while a file is resolved, when the specifiers `done` have been read. -/
structure Resolving (state : Loading × Resolutions) (c : Setting) (before : List Lookup)
    (resolutions : List (String × Resolutions)) (file : SourceFile) (done : List String)
    (n : Nat) : Prop where
  after : state.1.After c (before ++ Lookup.ofKnown file.name state.2) n
  keys : state.2.map (·.1) = done.eraseDups
  resolutions_eq : state.1.program.resolutions = resolutions

/-- Following a lookup records nothing. -/
theorem follow_resolutions (s : Loading) (found : Option Resolution) :
    (s.follow found).program.resolutions = s.program.resolutions := by
  unfold follow
  split
  · split
    · rfl
    · exact Program.addFile_resolutions _ _
  · rfl

variable {before : List Lookup} {resolutions : List (String × Resolutions)} {file : SourceFile}
  {state : Loading × Resolutions} {done : List String}

/-- Resolving one more specifier of a file that is loaded. -/
theorem Resolving.resolveSpecifier (hs : c.host.Settled) (hfile : file.name ∈ c.names before)
    (h : Resolving state c before resolutions file done n) (specifier : String) :
    Resolving (resolveSpecifier file state specifier) c before resolutions file
      (done ++ [specifier]) n := by
  obtain ⟨s, known⟩ := state
  have hknown : known.any (·.1 == specifier) = true ↔ specifier ∈ done := by
    rw [← List.mem_eraseDups, ← h.keys, List.any_eq_true, List.mem_map]
    simp
  rw [Loading.resolveSpecifier]
  by_cases hmem : specifier ∈ done
  · rw [if_pos (hknown.2 hmem)]
    exact ⟨h.after, by rw [eraseDups_concat, if_pos hmem, h.keys], h.resolutions_eq⟩
  · rw [if_neg (mt hknown.1 hmem)]
    have hafter : s.After c (before ++ Lookup.ofKnown file.name known) n := h.after
    have hfollows : c.Follows (before ++ Lookup.ofKnown file.name known)
        ⟨file.name, specifier,
          s.program.resolver.resolve s.program.ambient.modules file.name specifier⟩ := by
      refine ⟨(Setting.names_prefix (List.prefix_append _ _)).subset hfile, ?_⟩
      have hsetting := hafter.setting
      subst hsetting
      rw [hafter.holds.ambient]
      rfl
    refine ⟨?_, ?_, ?_⟩
    · have := hafter.follow hs hfollows
      rw [List.append_assoc] at this
      simpa [Lookup.ofKnown] using this
    · rw [List.map_append, h.keys, eraseDups_concat, if_neg hmem]
      rfl
    · exact (follow_resolutions _ _).trans h.resolutions_eq

/-- Resolving the specifiers of a file that is loaded in turn. -/
theorem Resolving.resolveSpecifiers (hs : c.host.Settled) (hfile : file.name ∈ c.names before)
    (h : Resolving state c before resolutions file done n) (specifiers : List String) :
    Resolving (specifiers.foldl (Loading.resolveSpecifier file) state) c before resolutions file
      (done ++ specifiers) n := by
  induction specifiers generalizing state done with
  | nil => simpa using h
  | cons specifier specifiers ih =>
    have hrest := ih (h.resolveSpecifier hs hfile specifier)
    rw [List.append_assoc] at hrest
    exact hrest

/-! ## All files -/

/-- The state between two files: those before a place are resolved, each with the specifiers that
it has, and the others wait. -/
structure Walk (s : Loading) (c : Setting) (n : Nat) : Prop where
  after : s.After c s.program.log n
  recorded : s.program.resolutions.reverse.map (fun r => (r.1, r.2.map (·.1))) =
    ((c.names s.program.log).take n).map fun name =>
      (name, (c.host.file name).specifiers.eraseDups)

/-- The files that a walk has not reached wait in the queue. -/
theorem Walk.queue_eq_nil_iff (h : s.Walk c n) :
    s.queue = [] ↔ n = (c.names s.program.log).length := by
  have hwithin := h.after.within
  rw [h.after.queue, List.range'_eq_nil_iff]
  omega

/-- A walk starts with the files of the roots and the default library. -/
theorem start_walk (c : Setting) : (start c.host c.options c.roots).Walk c 0 := by
  obtain ⟨hsetting, hresolutions⟩ := Program.addFiles_unchanged
    { options := c.options, host := c.host, roots := c.roots }
    (Program.startPaths c.host c.roots)
  rw [← Program.start_eq_addFiles] at hsetting hresolutions
  have hlog : (start c.host c.options c.roots).program.log = [] := by
    rw [Program.log]
    show List.flatMap _ (Program.start c.host c.options c.roots).resolutions.reverse = []
    rw [hresolutions]
    rfl
  have hnames : c.names [] = (Program.startNames c.host c.roots).eraseDups := by
    rw [Setting.names, List.filterMap_nil, List.append_nil]
  have hholds : (Program.start c.host c.options c.roots).Holds (c.names []) :=
    hnames ▸ Program.start_holds _ _ _
  refine ⟨?_, ?_⟩
  · rw [hlog]
    refine ⟨hsetting, hholds, Setting.derived_nil, ?_, Nat.zero_le _⟩
    show List.range (Program.start c.host c.options c.roots).files.length = _
    rw [hholds.files, List.length_map, List.range_eq_range', Nat.sub_zero]
  · show List.map _ (Program.start c.host c.options c.roots).resolutions.reverse = _
    rw [hresolutions]
    rfl

/-- Recording what the specifiers of the file at a place lead to. -/
theorem Walk.record (h : s.Walk c n) (hn : n < (c.names s.program.log).length) {t : Loading}
    {known : Resolutions} {file : SourceFile}
    (hfile : file = c.host.file (c.names s.program.log)[n])
    (ht : Resolving (t, known) c s.program.log s.program.resolutions file file.specifiers (n + 1)) :
    Walk { t with program := t.program.record file.name known } c (n + 1) := by
  obtain ⟨hafter, hkeys, hresolutions⟩ := ht
  have hafter : t.After c (s.program.log ++ Lookup.ofKnown file.name known) (n + 1) := hafter
  have hresolutions : t.program.resolutions = s.program.resolutions := hresolutions
  have hlog : (t.program.record file.name known).log =
      s.program.log ++ Lookup.ofKnown file.name known := by
    rw [Program.record_log, Program.log, hresolutions]
    rfl
  refine ⟨?_, ?_⟩
  · show After _ c (t.program.record file.name known).log (n + 1)
    rw [hlog]
    exact ⟨hafter.setting, hafter.holds.record _ _, hafter.derived, hafter.queue, hafter.within⟩
  · -- the names that are there already stay at their places
    have hstay : (c.names (s.program.log ++ Lookup.ofKnown file.name known)).take (n + 1) =
        (c.names s.program.log).take n ++ [(c.names s.program.log)[n]] := by
      obtain ⟨more, hmore⟩ :=
        Setting.names_prefix (c := c)
          (List.prefix_append s.program.log (Lookup.ofKnown file.name known))
      rw [← hmore, List.take_append_of_le_length hn, List.take_succ_eq_append_getElem hn]
    show List.map _ ((file.name, known) :: t.program.resolutions).reverse =
      ((c.names (t.program.record file.name known).log).take (n + 1)).map _
    rw [hlog, hstay, List.map_append, ← h.recorded, hresolutions, List.reverse_cons,
      List.map_append, List.map_singleton, List.map_singleton, hkeys, hfile]
    rfl

/-- Resolving the file that is next goes one file further. -/
theorem Walk.next (hs : c.host.Settled) (h : s.Walk c n)
    (hn : n < (c.names s.program.log).length) : ∃ s', s.next? = some s' ∧ s'.Walk c (n + 1) := by
  obtain ⟨rest, hrest⟩ : ∃ rest, rest = (c.names s.program.log).length - (n + 1) := ⟨_, rfl⟩
  have hqueue : s.queue = n :: List.range' (n + 1) rest := by
    rw [h.after.queue, show (c.names s.program.log).length - n = rest + 1 by omega]
    rfl
  have hhost : s.program.host = c.host := congrArg Setting.host h.after.setting
  obtain ⟨file, heq⟩ : ∃ file, file = c.host.file (c.names s.program.log)[n] := ⟨_, rfl⟩
  have hfile : s.program.files[n]? = some file := by
    rw [h.after.holds.files, hhost, List.getElem?_map, List.getElem?_eq_getElem hn, heq]
    rfl
  have hmem : file.name ∈ c.names s.program.log := by
    rw [heq, Host.file_name]
    exact List.getElem_mem hn
  have hstart : Resolving (⟨s.program, List.range' (n + 1) rest⟩, []) c s.program.log
      s.program.resolutions file [] (n + 1) := by
    refine ⟨?_, by simp, rfl⟩
    rw [Lookup.ofKnown, List.map_nil, List.append_nil]
    exact ⟨h.after.setting, h.after.holds, h.after.derived, hrest ▸ rfl, hn⟩
  refine ⟨resolveFile ⟨s.program, List.range' (n + 1) rest⟩ file, ?_, ?_⟩
  · rw [next?, hqueue]
    simp only [hfile, Option.map_some]
  · exact h.record hn heq (hstart.resolveSpecifiers hs hmem file.specifiers)

/-! ## The run -/

/-- A run ends where nothing is next. -/
theorem run_of_next?_eq_none (h : s.next? = none) (fuel : Nat) : s.run fuel = s := by
  cases fuel with
  | zero => rfl
  | succ fuel => rw [run, h]

/-- With nothing in the queue, nothing is next. -/
theorem run_of_queue_eq_nil (h : s.queue = []) (fuel : Nat) : s.run fuel = s :=
  run_of_next?_eq_none (by rw [next?, h]) fuel

/-- A run goes on from where a shorter run has ended. -/
theorem run_add (s : Loading) (m n : Nat) : s.run (m + n) = (s.run m).run n := by
  induction m generalizing s with
  | zero => rw [Nat.zero_add, run]
  | succ m ih =>
    rw [Nat.succ_add]
    cases hnext : s.next? with
    | none => rw [run_of_next?_eq_none hnext, run_of_next?_eq_none hnext,
        run_of_next?_eq_none hnext]
    | some s' =>
      rw [run, run, hnext]
      exact ih s'

/-- **A run resolves all files**, if it may take as many steps as there can be files after the
place that the walk has reached. -/
theorem Walk.run (hs : c.host.Settled) (h : s.Walk c n) {fuel : Nat}
    (hfuel : bound c.host c.roots ≤ n + fuel) :
    ∃ m, (s.run fuel).Walk c m ∧ (s.run fuel).queue = [] := by
  induction fuel generalizing s n with
  | zero =>
    have hlen := Setting.length_names_le hs h.after.derived
    have hwithin := h.after.within
    exact ⟨n, h, h.queue_eq_nil_iff.2 (by omega)⟩
  | succ fuel ih =>
    by_cases hn : n < (c.names s.program.log).length
    · obtain ⟨s', hnext, hwalk⟩ := h.next hs hn
      rw [Loading.run, hnext]
      exact ih hwalk (by omega)
    · have hwithin := h.after.within
      have hqueue := h.queue_eq_nil_iff.2 (by omega)
      rw [run_of_queue_eq_nil hqueue]
      exact ⟨n, h, hqueue⟩

end Loading

/-! ## The loaded program -/

namespace Program

/-- What loading leaves behind: the files that were found, each resolved with its specifiers. -/
structure Loaded (p : Program) (c : Setting) : Prop where
  setting : p.setting = c
  holds : p.Holds (c.names p.log)
  derived : c.Derived p.log
  recorded : p.resolutions.reverse.map (fun r => (r.1, r.2.map (·.1))) =
    (c.names p.log).map fun name => (name, (c.host.file name).specifiers.eraseDups)

variable {c : Setting} {p : Program}

/-- The state in which a long run of loading ends. -/
theorem loaded_run (hs : c.host.Settled) {fuel : Nat}
    (hfuel : Loading.bound c.host c.roots ≤ fuel) :
    ((Loading.start c.host c.options c.roots).run fuel).queue = [] ∧
      ((Loading.start c.host c.options c.roots).run fuel).program.Loaded c := by
  obtain ⟨m, hwalk, hqueue⟩ := (Loading.start_walk c).run hs (Nat.zero_add fuel ▸ hfuel)
  have hm := hwalk.queue_eq_nil_iff.1 hqueue
  refine ⟨hqueue, hwalk.after.setting, hwalk.after.holds, hwalk.after.derived, ?_⟩
  rw [hwalk.recorded, hm, List.take_length]

/-- **Loading resolves all files.** The program of some roots is loaded. -/
theorem loaded_load (hs : c.host.Settled) : (load c.host c.options c.roots).Loaded c :=
  (loaded_run hs (Nat.le_refl _)).2

namespace Loaded

/-- What is recorded for a file is what its specifiers lead to. -/
theorem known_of_mem (h : p.Loaded c) {file : String} {known : Resolutions}
    (hmem : (file, known) ∈ p.resolutions) :
    file ∈ c.names p.log ∧ known.map (·.1) = (c.host.file file).specifiers.eraseDups := by
  have hrow : (file, known.map (·.1)) ∈
      p.resolutions.reverse.map (fun r => (r.1, r.2.map (·.1))) :=
    List.mem_map.2 ⟨_, List.mem_reverse.2 hmem, rfl⟩
  rw [h.recorded] at hrow
  obtain ⟨name, hname, heq⟩ := List.mem_map.1 hrow
  obtain ⟨rfl, hkeys⟩ := Prod.mk.inj heq
  exact ⟨hname, hkeys.symm⟩

/-- Every file is recorded once. -/
theorem nodup_resolutions (h : p.Loaded c) : (p.resolutions.map (·.1)).Nodup := by
  have hnames : p.resolutions.reverse.map (·.1) = c.names p.log := by
    have hrows := congrArg (List.map (·.1)) h.recorded
    rw [List.map_map, List.map_map] at hrows
    exact hrows.trans (List.map_id _)
  rw [← List.nodup_reverse, ← List.map_reverse, hnames]
  exact c.nodup_names p.log

/-- What is recorded is what was found. -/
theorem recorded?_eq_some_iff (h : p.Loaded c) {file specifier : String}
    {answer : Option Resolution} :
    p.recorded? file specifier = some answer ↔ ⟨file, specifier, answer⟩ ∈ p.log := by
  rw [recorded?, Option.bind_eq_some_iff, log, List.mem_flatMap]
  constructor
  · rintro ⟨known, hknown, hanswer⟩
    have hmem := (SortedMap.lookup_eq_some_iff_mem h.nodup_resolutions).1 hknown
    have hkeys : (known.map (·.1)).Nodup := (h.known_of_mem hmem).2 ▸ nodup_eraseDups _
    refine ⟨(file, known), List.mem_reverse.2 hmem, List.mem_map.2 ⟨(specifier, answer), ?_, rfl⟩⟩
    exact (SortedMap.lookup_eq_some_iff_mem hkeys).1 hanswer
  · rintro ⟨⟨file', known⟩, hmem, hlookup⟩
    have hmem := List.mem_reverse.1 hmem
    obtain ⟨⟨specifier', answer'⟩, hanswer, heq⟩ := List.mem_map.1 hlookup
    obtain ⟨rfl, rfl, rfl⟩ := Lookup.mk.inj heq
    have hkeys : (known.map (·.1)).Nodup := (h.known_of_mem hmem).2 ▸ nodup_eraseDups _
    exact ⟨known, (SortedMap.lookup_eq_some_iff_mem h.nodup_resolutions).2 hmem,
      (SortedMap.lookup_eq_some_iff_mem hkeys).2 hanswer⟩

/-- Every specifier of every file is recorded. -/
theorem exists_recorded (h : p.Loaded c) {name specifier : String} (hname : name ∈ c.names p.log)
    (hspecifier : specifier ∈ (c.host.file name).specifiers) :
    ∃ answer, p.recorded? name specifier = some answer := by
  have hrow : (name, (c.host.file name).specifiers.eraseDups) ∈
      p.resolutions.reverse.map (fun r => (r.1, r.2.map (·.1))) := by
    rw [h.recorded]
    exact List.mem_map.2 ⟨name, hname, rfl⟩
  obtain ⟨⟨file, known⟩, hmem, heq⟩ := List.mem_map.1 hrow
  obtain ⟨rfl, hkeys⟩ := Prod.mk.inj heq
  have hkey : specifier ∈ known.map (·.1) := hkeys ▸ List.mem_eraseDups.2 hspecifier
  obtain ⟨⟨_, answer⟩, hanswer, rfl⟩ := List.mem_map.1 hkey
  refine ⟨answer, h.recorded?_eq_some_iff.2 (List.mem_flatMap.2 ⟨_, hmem, ?_⟩)⟩
  exact List.mem_map.2 ⟨_, hanswer, rfl⟩

end Loaded

end Program

end ScriptHost
