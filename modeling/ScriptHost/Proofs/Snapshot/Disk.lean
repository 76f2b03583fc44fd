import ScriptHost.Snapshot.Store
/-!
# Files that are read as they were written

Writing a file walks to its directory along the segments of a path, and then
puts the file where the names lead that are left of these segments. Reading it
walks along the segments again, in the new tree. Both walks pass the same
directories: none of them is replaced, since what is replaced is not a directory.

- `FileTree.Leads`: names lead to a tree, with the directories above it.
- `FileTree.Keeps`, `FileTree.keeps_put`: directories that stay when a tree is put in.
- `FileTree.walk_to_dir`: a walk to a directory, and the same walk in another tree.
- `FileTree.walk_put`: a tree that is put where segments lead is found there.
- `Disk.read_of_write`: a file that was written has its text.
-/

namespace ScriptHost

namespace FileTree

/-! ## Names and segments -/

/-- A segment that is the name of an entry. -/
def IsEntryName (name : String) : Prop := name ≠ "" ∧ name ≠ "." ∧ name ≠ ".."

/-- The tree that names lead to. -/
def at? : FileTree → List String → Option FileTree
  | t, [] => some t
  | file _, _ :: _ => none
  | dir entries, name :: names => (entries.lookup name).bind fun t => t.at? names

/-- Names lead to a tree below the directories above it, the last one first. -/
inductive Leads (t : FileTree) : List FileTree → FileTree → List String → Prop where
  | root : Leads t [] t []
  | down {above : List FileTree} {entries : List (String × FileTree)} {next : FileTree}
      {name : String} {names : List String} :
      Leads t above (dir entries) names → IsEntryName name → entries.lookup name = some next →
      Leads t (dir entries :: above) next (name :: names)

variable {t here : FileTree} {above : List FileTree} {names rest : List String} {name : String}
  {entries : List (String × FileTree)}

theorem at?_dir (entries : List (String × FileTree)) (name : String) (names : List String) :
    (dir entries).at? (name :: names) = (entries.lookup name).bind fun t => t.at? names :=
  rfl

theorem at?_append (t : FileTree) (names more : List String) :
    t.at? (names ++ more) = (t.at? names).bind fun t => t.at? more := by
  induction names generalizing t with
  | nil => rfl
  | cons name names ih =>
    cases t with
    | file text => rfl
    | dir entries =>
      rw [List.cons_append, at?_dir, at?_dir, Option.bind_assoc]
      exact congrArg _ (funext ih)

/-- A name leads to an entry of a directory. -/
theorem walk_cons (hname : IsEntryName name) :
    walk above (dir entries) (name :: rest) = match entries.lookup name with
      | none => .error .notFound
      | some next => walk (dir entries :: above) next rest := by
  obtain ⟨hempty, hdot, hdots⟩ := hname
  have hstay : ¬ (name == "" || name == ".") = true := by simp [hempty, hdot]
  have hup : ¬ (name == "..") = true := by simp [hdots]
  exact (if_neg hstay).trans (if_neg hup)

/-- What names lead to is there, and it is where walking along them leads. -/
theorem Leads.walk (h : Leads t above here names) (rest : List String) :
    FileTree.walk [] t (names.reverse ++ rest) = FileTree.walk above here rest := by
  induction h generalizing rest with
  | root => rfl
  | down _ hname hnext ih =>
    rw [List.reverse_cons, List.append_assoc, ih, List.singleton_append, walk_cons hname, hnext]

theorem Leads.at? (h : Leads t above here names) : t.at? names.reverse = some here := by
  induction h with
  | root => rfl
  | down _ _ hnext ih =>
    rw [List.reverse_cons, at?_append, ih, Option.bind_some, at?_dir, hnext]
    rfl

/-- A walk on to an entry of a directory leads to what is there. -/
theorem Leads.walk_eq_ok_iff {next : FileTree} (h : Leads t above (dir entries) names)
    (hname : IsEntryName name) : FileTree.walk above (dir entries) [name] = .ok next ↔
      t.at? (names.reverse ++ [name]) = some next := by
  have hentry : (dir entries).at? [name] = entries.lookup name := by
    rw [at?_dir]
    cases entries.lookup name <;> rfl
  rw [at?_append, h.at?, Option.bind_some, hentry, walk_cons hname]
  cases entries.lookup name with
  | none => simp
  | some found => cases found <;> simp [FileTree.walk]

/-- Names lead to one tree only, by one way. -/
theorem Leads.unique (h : Leads t above here names) {above' : List FileTree} {here' : FileTree}
    (h' : Leads t above' here' names) : above = above' ∧ here = here' := by
  induction h generalizing above' here' with
  | root =>
    cases h'
    exact ⟨rfl, rfl⟩
  | down _ _ hnext ih =>
    cases h' with
    | down hup' _ hnext' =>
      obtain ⟨rfl, hsame⟩ := ih hup'
      obtain rfl := FileTree.dir.inj hsame
      exact ⟨rfl, Option.some.inj (hnext.symm.trans hnext')⟩

/-- Names of entries lead to what is there. -/
theorem exists_leads (hnames : ∀ name ∈ names, IsEntryName name)
    (h : t.at? names.reverse = some here) : ∃ above, Leads t above here names := by
  induction names generalizing here with
  | nil =>
    obtain rfl := Option.some.inj h
    exact ⟨[], .root⟩
  | cons name names ih =>
    obtain ⟨hname, hnames⟩ := List.forall_mem_cons.1 hnames
    rw [List.reverse_cons, at?_append, Option.bind_eq_some_iff] at h
    obtain ⟨up, hup, hhere⟩ := h
    obtain ⟨above, hleads⟩ := ih hnames hup
    cases up with
    | file text => cases hhere
    | dir entries =>
      obtain ⟨next, hnext, hsame⟩ := Option.bind_eq_some_iff.1 hhere
      obtain rfl : next = here := Option.some.inj hsame
      exact ⟨_, .down hleads hname hnext⟩

theorem Leads.isEntryName (h : Leads t above here names) : ∀ name ∈ names, IsEntryName name := by
  induction h with
  | root => exact List.forall_mem_nil _
  | down _ hname _ ih => exact List.forall_mem_cons.2 ⟨hname, ih⟩

/-! ## Trees with another tree put in -/

/-- A directory is still there when a tree is put in, if that does not replace a directory. -/
theorem exists_at?_put (new : FileTree) {target : List String}
    (htarget : ∀ entries, t.at? target ≠ some (dir entries))
    (h : t.at? names = some (dir entries)) :
    ∃ entries, (put new target t).at? names = some (dir entries) := by
  induction target generalizing t names with
  | nil =>
    -- Something below a file is asked for, as the file itself would be a directory.
    cases t with
    | dir inner => exact absurd rfl (htarget inner)
    | file text =>
      cases names with
      | nil => cases h
      | cons name names => cases h
  | cons first target ih =>
    cases t with
    | file text => exact ⟨entries, h⟩
    | dir inner =>
      cases names with
      | nil => exact ⟨_, rfl⟩
      | cons name names =>
        obtain ⟨next, hnext, hrest⟩ := Option.bind_eq_some_iff.1 h
        rw [put, at?_dir, SortedMap.lookup_insertEntry]
        by_cases hsame : name = first
        · subst hsame
          rw [if_pos rfl, hnext, Option.getD_some, Option.bind_some]
          refine ih ?_ hrest
          intro entries hdir
          refine htarget entries ?_
          rw [at?_dir, hnext, Option.bind_some, hdir]
        · rw [if_neg hsame, hnext, Option.bind_some]
          exact ⟨entries, hrest⟩

/-- A tree that is put into a directory is there. -/
theorem at?_put (new : FileTree) (name : String) (h : t.at? names = some (dir entries)) :
    (put new (names ++ [name]) t).at? (names ++ [name]) = some new := by
  induction names generalizing t with
  | nil =>
    obtain rfl := Option.some.inj h
    rw [List.nil_append, put, at?_dir, SortedMap.lookup_insertEntry, if_pos rfl]
    rfl
  | cons first names ih =>
    cases t with
    | file text => cases h
    | dir inner =>
      obtain ⟨next, hnext, hrest⟩ := Option.bind_eq_some_iff.1 h
      rw [List.cons_append, put, at?_dir, SortedMap.lookup_insertEntry, if_pos rfl, hnext,
        Option.getD_some, Option.bind_some, ih hrest]

/-! ## Walks through directories -/

/-- All directories of a tree are directories of another one, too. -/
def Keeps (t t' : FileTree) : Prop :=
  ∀ above entries names, Leads t above (dir entries) names →
    ∃ above' entries', Leads t' above' (dir entries') names

/-- **A walk to a directory** passes directories only, and the names it ends at are those that the
segments lead to when directories are made along them, of which none is missing. In a tree with all
these directories it ends at the same names, whatever it goes on with. -/
theorem walk_to_dir {t' : FileTree} (hkeeps : Keeps t t') {segments : List String}
    {above' : List FileTree} {entries' last : List (String × FileTree)}
    (h : Leads t above (dir entries) names) (h' : Leads t' above' (dir entries') names)
    (hwalk : walk above (dir entries) segments = .ok (dir last)) :
    ∃ names₂ above₂ above₂' last', makeDirectories t names segments = (t, .ok names₂) ∧
      Leads t above₂ (dir last) names₂ ∧ Leads t' above₂' (dir last') names₂ ∧
      ∀ more, walk above' (dir entries') (segments ++ more) = walk above₂' (dir last') more := by
  induction segments generalizing above entries names above' entries' with
  | nil =>
    have hsame : dir entries = dir last := by simpa [walk] using hwalk
    exact ⟨names, above, above', entries', rfl, hsame ▸ h, h', fun _ => rfl⟩
  | cons segment segments ih =>
    by_cases hstay : (segment == "" || segment == ".") = true
    · simp only [walk, if_pos hstay] at hwalk
      simp only [makeDirectories, List.cons_append, walk, if_pos hstay]
      exact ih h h' hwalk
    · by_cases hup : (segment == "..") = true
      · simp only [walk, if_neg hstay, if_pos hup] at hwalk
        simp only [makeDirectories, List.cons_append, walk, if_neg hstay, if_pos hup]
        cases h with
        | root => cases hwalk
        | down h _ _ =>
          cases h' with
          | down h' _ _ => exact ih h h' hwalk
      · have hname : IsEntryName segment := by
          simpa [IsEntryName, not_or, and_assoc] using And.intro hstay hup
        rw [walk_cons hname] at hwalk
        cases hnext : entries.lookup segment with
        | none =>
          rw [hnext] at hwalk
          cases hwalk
        | some next =>
          rw [hnext] at hwalk
          -- A file cannot be passed, and it is not what the walk ends at.
          cases next with
          | file text => cases segments <;> cases hwalk
          | dir inner =>
            have hdown := Leads.down h hname hnext
            obtain ⟨_, inner', hdown'⟩ := hkeeps _ _ _ hdown
            cases hdown' with
            | @down up' outer' _ _ _ hupper' _ hnext' =>
              obtain ⟨rfl, hsame⟩ := h'.unique hupper'
              obtain rfl := FileTree.dir.inj hsame
              have hfound : walk [] t (segment :: names).reverse = .ok (dir inner) := by
                have hend := hdown.walk []
                rwa [List.append_nil] at hend
              obtain ⟨names₂, above₂, above₂', last', hmade, hleads, hleads', hmore⟩ :=
                ih hdown (.down h' hname hnext') hwalk
              refine ⟨names₂, above₂, above₂', last', ?_, hleads, hleads', fun more => ?_⟩
              · simp only [makeDirectories, if_neg hstay, if_neg hup, hfound]
                exact hmade
              · rw [List.cons_append, walk_cons hname, hnext']
                exact hmore more

/-- Directories stay when a tree is put in that does not replace one. -/
theorem keeps_put (new : FileTree) {target : List String}
    (htarget : ∀ entries, t.at? target ≠ some (dir entries)) : Keeps t (put new target t) := by
  intro above entries names h
  obtain ⟨entries', hput⟩ := exists_at?_put new htarget h.at?
  obtain ⟨above', h'⟩ := exists_leads h.isEntryName hput
  exact ⟨above', entries', h'⟩

/-- Nothing is found behind a file. -/
theorem walk_append_of_file {text : String} {segments : List String} {segment : String}
    (h : walk above here segments = .ok (file text)) :
    walk above here (segments ++ segment :: rest) = .error .notDirectory := by
  induction segments generalizing above here with
  | nil =>
    obtain rfl : here = file text := by simpa [walk] using h
    rfl
  | cons first segments ih =>
    cases here with
    | file other => cases h
    | dir entries =>
      rw [List.cons_append]
      by_cases hstay : (first == "" || first == ".") = true
      · simp only [walk, if_pos hstay] at h ⊢
        exact ih h
      · by_cases hup : (first == "..") = true
        · simp only [walk, if_neg hstay, if_pos hup] at h ⊢
          cases above with
          | nil => cases h
          | cons up above => exact ih h
        · simp only [walk, if_neg hstay, if_neg hup] at h ⊢
          cases hnext : entries.lookup first with
          | none =>
            rw [hnext] at h
            cases h
          | some next =>
            rw [hnext] at h
            exact ih h

end FileTree

namespace Disk

/-! ## Actions -/

section Actions

variable {ε α β : Type} {d d' : Disk}

/-- Two actions end well where the second one goes on from where the first one ended well. -/
theorem bind_eq_ok_iff {x : EStateM ε Disk α} {f : α → EStateM ε Disk β} {b : β} :
    (x >>= f) d = .ok b d' ↔ ∃ a between, x d = .ok a between ∧ f a between = .ok b d' := by
  show EStateM.bind x f d = _ ↔ _
  rw [EStateM.bind]
  cases x d with
  | error e between => simp
  | ok a between =>
    constructor
    · exact fun h => ⟨a, between, rfl, h⟩
    · rintro ⟨_, _, hsame, h⟩
      cases hsame
      exact h

/-- What an action takes over from a computation leaves the disk as it is. -/
theorem ofExcept_eq_ok_iff {x : Except ε α} {a : α} :
    (MonadExcept.ofExcept x : EStateM ε Disk α) d = .ok a d' ↔ x = .ok a ∧ d = d' := by
  cases x with
  | ok a' =>
    show EStateM.Result.ok a' d = .ok a d' ↔ _
    simp
  | error e =>
    show EStateM.Result.error e d = .ok a d' ↔ _
    simp

end Actions

/-- Puts a text as the file of a name into the directory that segments lead to. -/
def store (d : Disk) (init : List String) (name text : String) : DiskAction Unit := do
  if name == "." || name == ".." then throw .notFound
  let _ ← MonadExcept.ofExcept (d.tree.walk [] init)
  let names ← MonadExcept.ofExcept (d.tree.makeDirectories [] init).2
  set { d with tree := FileTree.put (.file text) (name :: names).reverse d.tree }

/-- What writing does, by what is at the path and by the last segment of the path. -/
def writeAt (d : Disk) (init : List String) (text : String) :
    Except DiskError FileTree → Option String → DiskAction Unit
  | .ok (.dir _), _ | _, none | _, some "" => throw .isDirectory
  | .error .notDirectory, _ => throw .notDirectory
  | _, some name => store d init name text

/-- Which files are written: those whose path has a name behind its last slash, does not lead to a
directory and does not pass a file. -/
theorem write_eq_ok {path text : String} {d d' : Disk} (h : write path text d = .ok () d') :
    ∃ segments name, d.segments? path = some segments ∧ segments.getLast? = some name ∧ name ≠ "" ∧
      (∀ entries, d.find path ≠ .ok (.dir entries)) ∧ d.find path ≠ .error .notDirectory ∧
      store d segments.dropLast name text d = .ok () d' := by
  obtain ⟨segments, hsegments⟩ : ∃ segments, segments = (d.segments? path).getD [] := ⟨_, rfl⟩
  have hwrite : write path text d =
      writeAt d segments.dropLast text (d.find path) segments.getLast? d := by
    rw [hsegments]
    rfl
  rw [hwrite] at h
  generalize d.find path = found at h ⊢
  cases hlast : segments.getLast? with
  | none =>
    rw [hlast] at h
    rcases found with (_ | _ | _ | _) | (_ | _) <;> cases h
  | some name =>
    rw [hlast] at h
    have hsome : d.segments? path = some segments := by
      cases hnone : d.segments? path with
      | none =>
        rw [hsegments, hnone] at hlast
        cases hlast
      | some segments' =>
        rw [hsegments, hnone]
        rfl
    by_cases hempty : name = ""
    · subst hempty
      rcases found with (_ | _ | _ | _) | (_ | _) <;> cases h
    · have hname : some name ≠ some "" := fun hsame => hempty (Option.some.inj hsame)
      refine ⟨segments, name, hsome, hlast, hempty, ?_⟩
      rcases found with (_ | _ | _ | _) | (_ | _) <;> simp only [writeAt] at h
      case ok.dir | error.notDirectory => cases h
      all_goals exact ⟨by simp, by simp, h⟩

/-- What is stored is a file of a name, in a directory to which segments lead. -/
theorem store_eq_ok {init : List String} {name text : String} {d d' : Disk} (hempty : name ≠ "")
    (h : store d init name text d = .ok () d') :
    FileTree.IsEntryName name ∧ ∃ here names, d.tree.walk [] init = .ok here ∧
      (d.tree.makeDirectories [] init).2 = .ok names ∧
      d' = { d with tree := FileTree.put (.file text) (name :: names).reverse d.tree } := by
  have hdots : ¬ (name == "." || name == "..") = true := by
    intro hdots
    rw [store, if_pos hdots] at h
    cases h
  have hname : FileTree.IsEntryName name := by
    simpa [FileTree.IsEntryName, hempty, not_or] using hdots
  rw [store, if_neg hdots] at h
  obtain ⟨here, _, hfirst, h⟩ := bind_eq_ok_iff.1 h
  obtain ⟨hwalk, rfl⟩ := ofExcept_eq_ok_iff.1 hfirst
  obtain ⟨names, _, hsecond, h⟩ := bind_eq_ok_iff.1 h
  obtain ⟨hmade, rfl⟩ := ofExcept_eq_ok_iff.1 hsecond
  cases h
  exact ⟨hname, here, names, hwalk, hmade, rfl⟩

end Disk

namespace FileTree

/-- **A tree that is put where segments lead is found there**, if it does not replace a directory
and does not come behind a file. -/
theorem walk_put {new : FileTree} {init : List String} (hname : IsEntryName name)
    (hwalk : walk [] t init = .ok here) (hmade : (makeDirectories t [] init).2 = .ok names)
    (hdir : ∀ entries, walk [] t (init ++ [name]) ≠ .ok (dir entries))
    (hpassed : walk [] t (init ++ [name]) ≠ .error .notDirectory) :
    walk [] (put new (name :: names).reverse t) (init ++ [name]) = .ok new := by
  cases here with
  | file text => exact absurd (walk_append_of_file hwalk) hpassed
  | dir last =>
    cases t with
    | file text => cases init <;> cases hwalk
    | dir root =>
      have hkeeps : Keeps (dir root) (dir root) := fun above entries _ h => ⟨above, entries, h⟩
      obtain ⟨names₂, _, above₂, last₂, hmade₂, -, hleads, hmore⟩ :=
        walk_to_dir hkeeps .root .root hwalk
      obtain rfl : names₂ = names := by
        rw [hmade₂] at hmade
        exact Except.ok.inj hmade
      have htarget : ∀ entries, (dir root).at? (names₂.reverse ++ [name]) ≠ some (dir entries) := by
        intro entries hfound
        refine hdir entries ?_
        rw [hmore]
        exact (hleads.walk_eq_ok_iff hname).2 hfound
      -- The same walk in the tree with the new one ends at the directory in which that was put.
      have hkeeps' := keeps_put new htarget
      have hput := at?_put new name hleads.at?
      rw [List.reverse_cons]
      generalize put new (names₂.reverse ++ [name]) (dir root) = t' at hkeeps' hput ⊢
      obtain ⟨_, root', hroot'⟩ := hkeeps' _ _ _ .root
      cases hroot'
      obtain ⟨names₃, _, above₃, last₃, hmade₃, -, hleads₃, hmore₃⟩ :=
        walk_to_dir hkeeps' .root .root hwalk
      obtain rfl : names₃ = names₂ := by
        rw [hmade₃] at hmade
        exact Except.ok.inj hmade
      rw [hmore₃]
      exact (hleads₃.walk_eq_ok_iff hname).2 hput

end FileTree

namespace Disk

/-- **What is written is read**: a file that was written has its text. -/
theorem read_of_write {path text : String} {d d' : Disk} (h : write path text d = .ok () d') :
    d'.read path = .ok text := by
  obtain ⟨segments, name, hsegments, hlast, hempty, hdir, hpassed, hstore⟩ := write_eq_ok h
  obtain ⟨init, rfl⟩ : ∃ init, segments = init ++ [name] := List.getLast?_eq_some_iff.1 hlast
  rw [List.dropLast_concat] at hstore
  obtain ⟨hname, here, names, hwalk, hmade, rfl⟩ := store_eq_ok hempty hstore
  rw [find, hsegments] at hdir hpassed
  have hfind : Disk.find { d with tree := .put (.file text) (name :: names).reverse d.tree } path =
      .ok (.file text) := by
    have hsame : Disk.segments? { d with tree := .put (.file text) (name :: names).reverse d.tree }
        path = some (init ++ [name]) := hsegments
    rw [find, hsame]
    exact FileTree.walk_put hname hwalk hmade hdir hpassed
  rw [read, hfind]
  rfl

end Disk

end ScriptHost
