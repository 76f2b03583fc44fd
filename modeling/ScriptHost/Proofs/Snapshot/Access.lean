import Mathlib.Data.List.Basic
import ScriptHost.Snapshot.Collect
/-!
# Collecting what may not be readable

The directory of a package may be one that cannot be looked into, and a file one
that cannot be read. Then nothing is collected, and what is collected otherwise
does not depend on what could have failed.

- `Snapshot.Access`: what may fail on the way.
- `Snapshot.Access.collect`: collecting a snapshot where looking and reading may fail.
- `Snapshot.Fails`, `Snapshot.Access.collect_fails_iff`: where collecting fails.
- `Snapshot.Access.collect_of_isFaithful`: what is collected where it does not.
-/

namespace ScriptHost

namespace Snapshot

/-- What may fail while a snapshot is collected. -/
structure Access where
  /-- Looking into the directory of a package. -/
  package : String → Except Failure Unit := fun _ => .ok ()
  /-- Reading a file with its path in the snapshot and its text. -/
  file : String → String → Except Failure String := fun _ text => .ok text

namespace Access

/-- Reads the files that a package adds to a snapshot. -/
def readPackage (access : Access) (d : Disk) (input library : String) :
    Except Failure (List (String × String)) := do
  access.package library
  (libraryFiles d input library).mapM fun e => do return (e.1, ← access.file e.1 e.2)

/-- A file that can be read has the text that it has on the disk. -/
def IsFaithful (access : Access) : Prop :=
  ∀ path text found, access.file path text = .ok found → found = text

/-- Collects a snapshot where looking and reading may fail. -/
def collect (access : Access) (d : Disk) (input : String) : Except Failure (SortedMap String) := do
  return .ofList (← (← dependencies d input).mapM (access.readPackage d input)).flatten

end Access

/-- Something fails on the way through the packages that are listed. -/
inductive Fails (access : Access) (d : Disk) (input : String) : Prop where
  | list {f : Failure} : dependencies d input = .error f → Fails access d input
  | package {libraries : List String} {library : String} {f : Failure} :
      dependencies d input = .ok libraries → library ∈ libraries →
      access.package library = .error f → Fails access d input
  | file {libraries : List String} {library path text : String} {f : Failure} :
      dependencies d input = .ok libraries → library ∈ libraries →
      (path, text) ∈ libraryFiles d input library → access.file path text = .error f →
      Fails access d input

section Steps

variable {α β : Type} {g : α → Except Failure β}

/-- What is done to the elements of a list in turn fails exactly if it fails for one of them. -/
theorem mapM_fails_iff {l : List α} :
    (∃ f, l.mapM g = .error f) ↔ ∃ a ∈ l, ∃ f, g a = .error f := by
  induction l with
  | nil =>
    rw [List.mapM_nil]
    refine iff_of_false ?_ (by simp)
    rintro ⟨f, hf⟩
    cases hf
  | cons a l ih =>
    rw [List.mapM_cons, List.exists_mem_cons_iff, ← ih]
    cases ha : g a with
    | error f => exact iff_of_true ⟨f, rfl⟩ (.inl ⟨f, rfl⟩)
    | ok b =>
      cases hl : l.mapM g with
      | error f => exact iff_of_true ⟨f, rfl⟩ (.inr ⟨f, rfl⟩)
      | ok bs =>
        refine iff_of_false ?_ ?_
        · rintro ⟨f, hf⟩
          cases hf
        · rintro (⟨f, hf⟩ | ⟨f, hf⟩) <;> cases hf

/-- What goes on without failing fails exactly if it fails to start. -/
theorem bind_fails_iff {x : Except Failure α} {h : α → β} :
    (∃ f, (do return h (← x) : Except Failure β) = .error f) ↔ ∃ f, x = .error f := by
  cases x with
  | error f => exact iff_of_true ⟨f, rfl⟩ ⟨f, rfl⟩
  | ok a => exact iff_of_false (by rintro ⟨f, hf⟩; cases hf) (by rintro ⟨f, hf⟩; cases hf)

/-- What goes on without failing has started without failing. -/
theorem exists_of_bind_eq_ok {x : Except Failure α} {h : α → Except Failure β} {b : β}
    (hx : x >>= h = .ok b) : ∃ a, x = .ok a ∧ h a = .ok b := by
  cases x with
  | error f => cases hx
  | ok a => exact ⟨a, rfl, hx⟩

/-- What is done to the elements of a list in turn gives what each of them is known to give. -/
theorem eq_map_of_mapM {h : α → β} (hg : ∀ a b, g a = .ok b → b = h a) {l : List α} {bs : List β}
    (hmap : l.mapM g = .ok bs) : bs = l.map h := by
  induction l generalizing bs with
  | nil =>
    cases hmap
    rfl
  | cons a l ih =>
    rw [List.mapM_cons] at hmap
    obtain ⟨b, hb, hmap⟩ := exists_of_bind_eq_ok hmap
    obtain ⟨rest, hrest, hmap⟩ := exists_of_bind_eq_ok hmap
    cases hmap
    rw [List.map_cons, hg a b hb, ih hrest]

end Steps

namespace Access

variable {access : Access} {d : Disk} {input : String}

/-- The files of a package cannot be read if looking into it fails, or reading one of them. -/
theorem readPackage_fails_iff {library : String} :
    (∃ f, access.readPackage d input library = .error f) ↔
      (∃ f, access.package library = .error f) ∨
        ∃ e ∈ libraryFiles d input library, ∃ f, access.file e.1 e.2 = .error f := by
  rw [readPackage]
  cases hpackage : access.package library with
  | error f => exact iff_of_true ⟨f, rfl⟩ (.inl ⟨f, rfl⟩)
  | ok u =>
    have hnone : ¬ ∃ f, (Except.ok u : Except Failure Unit) = .error f := by
      rintro ⟨f, hf⟩
      cases hf
    rw [or_iff_right hnone]
    refine mapM_fails_iff.trans ?_
    simp only [bind_fails_iff]

/-- **Collecting fails** exactly if something fails on the way through the packages. -/
theorem collect_fails_iff :
    (∃ f, access.collect d input = .error f) ↔ Fails access d input := by
  have hcollect : (∃ f, access.collect d input = .error f) ↔
      (∃ f, dependencies d input = .error f) ∨ ∃ libraries, dependencies d input = .ok libraries ∧
        ∃ library ∈ libraries, ∃ f, access.readPackage d input library = .error f := by
    rw [collect]
    cases hlist : dependencies d input with
    | error f => exact iff_of_true ⟨f, rfl⟩ (.inl ⟨f, rfl⟩)
    | ok libraries =>
      have hall := bind_fails_iff (h := fun files => SortedMap.ofList (List.flatten files))
        (x := libraries.mapM (access.readPackage d input))
      rw [mapM_fails_iff] at hall
      refine hall.trans ?_
      simp
  rw [hcollect]
  constructor
  · rintro (⟨f, hlist⟩ | ⟨libraries, hlist, library, hlibrary, hfails⟩)
    · exact .list hlist
    · rcases readPackage_fails_iff.1 hfails with ⟨f, hf⟩ | ⟨⟨path, text⟩, hentry, f, hf⟩
      · exact .package hlist hlibrary hf
      · exact .file hlist hlibrary hentry hf
  · intro hfails
    cases hfails with
    | list hlist => exact .inl ⟨_, hlist⟩
    | package hlist hlibrary hf =>
      exact .inr ⟨_, hlist, _, hlibrary, readPackage_fails_iff.2 (.inl ⟨_, hf⟩)⟩
    | file hlist hlibrary hentry hf =>
      exact .inr ⟨_, hlist, _, hlibrary, readPackage_fails_iff.2 (.inr ⟨_, hentry, _, hf⟩)⟩

/-- The files that are read of a package are those that it has. -/
theorem readPackage_of_isFaithful (haccess : access.IsFaithful) {library : String}
    {files : List (String × String)} (h : access.readPackage d input library = .ok files) :
    files = libraryFiles d input library := by
  rw [readPackage] at h
  obtain ⟨_, -, h⟩ := exists_of_bind_eq_ok h
  refine (eq_map_of_mapM (fun e found hfound => ?_) h).trans (List.map_id _)
  obtain ⟨text, htext, hfound⟩ := exists_of_bind_eq_ok hfound
  cases hfound
  rw [haccess _ _ _ htext]
  rfl

/-- **What is collected does not depend on what could have failed.** -/
theorem collect_of_isFaithful (haccess : access.IsFaithful) {snapshot : SortedMap String}
    (h : access.collect d input = .ok snapshot) : Snapshot.collect d input = .ok snapshot := by
  rw [collect] at h
  obtain ⟨libraries, hlist, h⟩ := exists_of_bind_eq_ok h
  obtain ⟨files, hread, h⟩ := exists_of_bind_eq_ok h
  cases h
  rw [Snapshot.collect, hlist,
    eq_map_of_mapM (fun _ _ => readPackage_of_isFaithful haccess) hread]
  rfl

/-- If everything can be read, the snapshot is the one that is collected. -/
theorem collect_all (d : Disk) (input : String) :
    collect {} d input = Snapshot.collect d input := by
  have hpackage : readPackage {} d input = fun library => pure (libraryFiles d input library) := by
    funext library
    have hfiles : (libraryFiles d input library).mapM (m := Except Failure) (pure ∘ id) =
        pure ((libraryFiles d input library).map id) := List.mapM_pure
    rw [List.map_id] at hfiles
    exact hfiles
  have hlibraries (libraries : List String) : libraries.mapM (readPackage {} d input) =
      (pure (libraries.map (libraryFiles d input)) : Except Failure _) := by
    rw [hpackage]
    exact List.mapM_pure
  rw [collect, Snapshot.collect]
  simp only [hlibraries, pure_bind, List.flatMap_def]

end Access

end Snapshot

end ScriptHost
