import ScriptHost.Proofs.Json.Texts
import ScriptHost.Proofs.Snapshot.Access
import ScriptHost.Proofs.Snapshot.Disk
/-!
# Snapshots that are read back

A snapshot is written as an object with a line for each file, and the reader of
snapshots reads it as the same map, whatever characters its paths and texts
have. Nothing is written before all is collected, so that a failure on the way
leaves the disk as it is.

- `Snapshot.parse_render`: a snapshot is read as it was written.
- `Snapshot.Access.save`: saving where not all may be readable.
- `Snapshot.load_of_write`: a snapshot that is written is loaded.
- `Snapshot.save_loads`: a snapshot that is saved is loaded, or nothing is written.
-/

namespace ScriptHost

namespace Snapshot

/-! ## Texts of snapshots -/

/-- A text value as it is written in a snapshot, with a blank in front. -/
def valueChars (text : String) : List Char := ' ' :: (Json.renderText text).toList

/-- What stands in front of each member of a snapshot. -/
def lineStart : List Char := ['\n', ' ', ' ']

theorem intercalate_lines (e : String × String) (entries : List (String × String)) :
    [',', '\n'].intercalate
        ((e :: entries).map fun e => ' ' :: ' ' :: Reader.memberChars valueChars e) =
      ' ' :: ' ' :: (Reader.memberChars valueChars e ++
        Reader.laterMembers lineStart valueChars entries) := by
  induction entries generalizing e with
  | nil => simp [Reader.laterMembers]
  | cons next entries ih =>
    have hmore := ih next
    rw [List.map_cons] at hmore
    rw [List.map_cons, List.map_cons, List.intercalate_cons_cons, hmore]
    simp [Reader.laterMembers, lineStart]

/-- A snapshot is written as an object with a line for each file. -/
theorem toList_render (files : SortedMap String) : ∃ ending : List Char,
    (∀ c ∈ ending, Reader.isBlank c = true) ∧ (render files).toList = '\x7b' ::
      (Reader.membersChars lineStart valueChars files.entries ++ (ending ++ ['\x7d'])) := by
  cases hentries : files.entries with
  | nil =>
    refine ⟨[], List.forall_mem_nil _, ?_⟩
    rw [render, hentries]
    rfl
  | cons e entries =>
    refine ⟨['\n'], by simp [Reader.isBlank], ?_⟩
    have hlines : ((e :: entries).map fun e => "  " ++ Json.renderText e.1 ++ ": " ++
        Json.renderText e.2).map String.toList =
          (e :: entries).map fun e => ' ' :: ' ' :: Reader.memberChars valueChars e := by
      rw [List.map_map]
      refine List.map_congr_left fun e _ => ?_
      simp [Reader.memberChars, valueChars]
    have hcomma : ",\n".toList = [',', '\n'] := rfl
    rw [render, hentries, if_neg (by simp)]
    simp only [String.toList_append, String.toList_intercalate]
    rw [hlines, hcomma, intercalate_lines]
    simp [Reader.membersChars, lineStart]

/-- **A snapshot is read as it was written**, whatever characters its paths and texts have. -/
theorem parse_render (files : SortedMap String) : parse (render files) = .ok files := by
  obtain ⟨ending, hending, hchars⟩ := toList_render files
  refine Reader.run_eq_ok ?_
  rw [hchars]
  have hblanks : ∀ c ∈ lineStart, Reader.isBlank c = true := by
    simp [lineStart, Reader.isBlank]
  have hvalue (text : String) (rest : List Char) :
      Reader.text.Reads 127 ([' '] ++ ((Json.renderText text).toList ++ rest)) text rest :=
    Reader.reads_text (by simp [Reader.isBlank]) text
  exact Reader.reads_mapOf hblanks hending files fun e _ rest _ => hvalue e.2 rest

/-! ## Saving -/

namespace Access

/-- Writes a snapshot where looking and reading may fail, and says how many files it holds. -/
def save (access : Access) (input output : String) : EStateM Failure Disk Nat := do
  let files ← MonadExcept.ofExcept (access.collect (← get) input)
  write files output
  return files.size

/-- If everything can be read, saving is that of what is collected. -/
theorem save_all (input output : String) : save {} input output = Snapshot.save input output := by
  rw [save, Snapshot.save]
  simp only [collect_all]

end Access

section Saving

variable {d d' : Disk}

theorem telling_eq_ok_iff {text : String} {action : DiskAction Unit} :
    telling text action d = .ok () d' ↔ action d = .ok () d' := by
  show EStateM.adaptExcept _ action d = _ ↔ _
  rw [EStateM.adaptExcept]
  cases action d <;> simp

/-- **A snapshot that is written is loaded.** -/
theorem load_of_write {files : SortedMap String} {output : String}
    (h : write files output d = .ok () d') : load d' output = .ok files := by
  obtain ⟨between, hwrite⟩ : ∃ between, telling ("Could not write " ++ output)
      (Disk.write output (render files)) between = .ok () d' := by
    rw [write] at h
    split at h
    · exact ⟨d, h⟩
    · obtain ⟨_, between, -, hwrite⟩ := Disk.bind_eq_ok_iff.1 h
      exact ⟨between, hwrite⟩
  have hread : readFor d' output = .ok (render files) := by
    rw [readFor, Disk.read_of_write (telling_eq_ok_iff.1 hwrite)]
  simp only [load, hread, bind, Except.bind, parse_render]
  rfl

/-- A snapshot that is saved is what was collected, and what is loaded. -/
theorem Access.load_of_save {access : Access} {input output : String} {n : Nat}
    (h : access.save input output d = .ok n d') :
    ∃ files, access.collect d input = .ok files ∧ n = files.size ∧ load d' output = .ok files := by
  obtain ⟨_, _, hget, h⟩ := Disk.bind_eq_ok_iff.1 h
  cases hget
  obtain ⟨files, _, hcollected, h⟩ := Disk.bind_eq_ok_iff.1 h
  obtain ⟨hfiles, rfl⟩ := Disk.ofExcept_eq_ok_iff.1 hcollected
  obtain ⟨_, _, hwrite, h⟩ := Disk.bind_eq_ok_iff.1 h
  cases h
  exact ⟨files, hfiles, rfl, load_of_write hwrite⟩

/-- If collecting fails, nothing is written. -/
theorem Access.save_of_collect_error {access : Access} {input output : String} {f : Failure}
    (h : access.collect d input = .error f) : access.save input output d = .error f d := by
  show EStateM.bind (MonadExcept.ofExcept (access.collect d input)) _ d = _
  rw [h]
  rfl

/-- **A snapshot that is saved is loaded**, with every path and every text, and its number of files
is told. If collecting fails, the disk is left as it is; and this is so, too, if something fails at
any package or file that is collected, where these may not be readable. -/
theorem save_loads (input output : String) (d : Disk) :
    (∀ n d', save input output d = .ok n d' → ∃ files, collect d input = .ok files ∧
      n = files.size ∧ load d' output = .ok files ∧
      Compiler.ofSnapshot d' output = .ok { external := files }) ∧
    (∀ f, collect d input = .error f → save input output d = .error f d) ∧
    ∀ access : Access,
      (∀ n d', access.save input output d = .ok n d' → ∃ files,
        access.collect d input = .ok files ∧ n = files.size ∧ load d' output = .ok files) ∧
      (Fails access d input → ∃ f, access.collect d input = .error f ∧
        access.save input output d = .error f d) := by
  refine ⟨fun n d' hsave => ?_, fun f hfails => ?_,
    fun access => ⟨fun n d' => ?_, fun hfails => ?_⟩⟩
  · -- Reading everything is the case of an access that does not fail.
    rw [← Access.save_all] at hsave
    obtain ⟨files, hfiles, hsize, hload⟩ := Access.load_of_save hsave
    refine ⟨files, (Access.collect_all d input).symm.trans hfiles, hsize, hload, ?_⟩
    rw [Compiler.ofSnapshot, hload]
    rfl
  · rw [← Access.collect_all] at hfails
    rw [← Access.save_all]
    exact Access.save_of_collect_error hfails
  · exact Access.load_of_save
  · obtain ⟨f, hf⟩ := Access.collect_fails_iff.2 hfails
    exact ⟨f, hf, Access.save_of_collect_error hf⟩

end Saving

/-- A disk with a package that carries another one, and with texts of many kinds of characters. -/
def quotedDisk : Disk where
  home := "/h"
  tree := .dir
    [("node_modules", .dir
      [("a", .dir
        [("index.d.ts", .file "declare const s: \"\\\\\u0001\t\u00e9\";\n"),
         ("node_modules", .dir [("b", .dir [("package.json", .file "\x7b\x7d")])])])]),
     ("package-lock.json", .file "\x7b\"packages\": \x7b\"node_modules/a\": \x7b\x7d\x7d\x7d")]

/-- The snapshot of the disk is saved in directories that are made for it, and loaded. -/
theorem quotedDisk_saved : ∃ d' files, save "/h" "/h/out/../new/x.json" quotedDisk = .ok 2 d' ∧
    collect quotedDisk "/h" = .ok files ∧ files.size = 2 ∧
    load d' "/h/out/../new/x.json" = .ok files := by
  have hsaved : (save "/h" "/h/out/../new/x.json").run' quotedDisk = some 2 := by
    decide +kernel
  delta EStateM.run' EStateM.run at hsaved
  cases hsave : save "/h" "/h/out/../new/x.json" quotedDisk with
  | error f d' =>
    rw [hsave] at hsaved
    cases hsaved
  | ok n d' =>
    rw [hsave] at hsaved
    obtain rfl : n = 2 := Option.some.inj hsaved
    obtain ⟨files, hfiles, hsize, hload, -⟩ := (save_loads "/h" _ quotedDisk).1 _ _ hsave
    exact ⟨d', files, rfl, hfiles, hsize.symm, hload⟩

end Snapshot

end ScriptHost
