import ScriptHost.Proofs.Host.Normal
/-!
# The normal form of a path

A path is normalized on a stack of segments. A name is put on the stack, and `..`
takes the name on top away or, where no name is, is put on the stack itself. So
the stack has `..` segments at the bottom and names on them at any time, and
segments in such an order build the stack up as it was. This is why a path that
was normalized is left as it is, also where another path is put behind it.

- `Path.parts`: the segments of the text of a path.
- `Path.IsNormal`: a path that is spelled as normalizing leaves it.
- `Path.Settled`: a stack of segments at any time.
- `Path.segments_normalize`: the segments that are left of a path are left of its normalized path.
- `Path.normalize_child_normalize`: a directory may be normalized before a path is put behind it.
- `Path.normalizes`: what normalizing and joining make of all paths.
-/

namespace ScriptHost

namespace Path

/-! ## Normal paths -/

/-- The segments of the text of a path. A path without text has none. -/
def parts (path : String) : List (List Char) :=
  if path.isEmpty then [] else splitChars '/' path.toList

/-- A path that is spelled as normalizing leaves it. -/
structure IsNormal (path : String) : Prop where
  nonempty : [] ∉ parts path
  dot : ['.'] ∉ parts path
  /-- All `..` segments stand in front. -/
  parents : ∃ up names, parts path = List.replicate up ['.', '.'] ++ names ∧ ['.', '.'] ∉ names
  leading : path.toList.head? ≠ some '/'
  trailing : path.toList.getLast? ≠ some '/'
  slash : '\\' ∉ path.toList

theorem parts_of_ne {path : String} (h : path ≠ "") : parts path = splitChars '/' path.toList := by
  rw [parts, if_neg (by rwa [String.isEmpty_iff])]

/-- A path is put together from its segments. -/
theorem joinChars_parts (path : String) : joinChars '/' (parts path) = path.toList := by
  by_cases hempty : path = ""
  · subst hempty
    rfl
  · rw [parts_of_ne hempty, joinChars_splitChars]

/-- A path that is put together from segments has these segments. -/
theorem parts_joinChars {segments : List (List Char)} (hne : ∀ s ∈ segments, s ≠ [])
    (h : ∀ s ∈ segments, '/' ∉ s) : parts (String.ofList (joinChars '/' segments)) = segments := by
  rcases List.eq_nil_or_concat segments with rfl | ⟨init, last, rfl⟩
  · rfl
  · rw [List.concat_eq_append] at *
    have htext : String.ofList (joinChars '/' (init ++ [last])) ≠ "" := by
      rw [Ne, ← String.toList_inj, String.toList_ofList]
      exact joinChars_concat_ne_nil (hne last List.mem_concat_self)
    rw [parts_of_ne htext, String.toList_ofList]
    exact splitChars_joinChars (List.concat_ne_nil _ _) h

/-- A slash at either end of a path stands beside an empty segment. -/
theorem ends_of_nonempty {path : String} (h : [] ∉ parts path) :
    path.toList.head? ≠ some '/' ∧ path.toList.getLast? ≠ some '/' := by
  by_cases hempty : path = ""
  · subst hempty
    exact ⟨nofun, nofun⟩
  · rw [parts_of_ne hempty] at h
    constructor
    · intro hhead
      obtain ⟨rest, hrest⟩ := List.head?_eq_some_iff.1 hhead
      rw [hrest, splitChars, if_pos (beq_self_eq_true '/')] at h
      exact h List.mem_cons_self
    · intro hlast
      obtain ⟨init, hinit⟩ := List.getLast?_eq_some_iff.1 hlast
      rw [hinit, splitChars_append] at h
      exact h (List.mem_append_right _ List.mem_cons_self)

/-! ## The stack -/

/-- `..` takes a name away. -/
theorem IsPlain.pushSegment_parent {name : List Char} (h : IsPlain name)
    (stack : List (List Char)) : pushSegment (name :: stack) ['.', '.'] = stack := by
  simp [pushSegment.eq_def, h.dots]

/-- Without a name on the stack, `..` is put on others of its kind. -/
theorem pushSegment_parents (up : Nat) :
    pushSegment (List.replicate up ['.', '.']) ['.', '.'] = List.replicate (up + 1) ['.', '.'] := by
  cases up <;> rfl

/-- A stack of segments with `..` at the bottom and names on top, the last one first. -/
inductive Settled : List (List Char) → Prop where
  | parents (up : Nat) : Settled (List.replicate up ['.', '.'])
  | name {stack : List (List Char)} {name : List Char} :
    IsPlain name → Settled stack → Settled (name :: stack)

namespace Settled

variable {stack : List (List Char)}

/-- One more segment leaves names on top of `..` segments. -/
theorem pushSegment (h : Settled stack) (segment : List Char) :
    Settled (pushSegment stack segment) := by
  by_cases hdots : segment = ['.', '.']
  · subst hdots
    cases h with
    | parents up =>
      rw [pushSegment_parents]
      exact .parents (up + 1)
    | name hname hrest =>
      rw [hname.pushSegment_parent]
      exact hrest
  · by_cases hskipped : segment = [] ∨ segment = ['.']
    · have hpush : Path.pushSegment stack segment = stack := by
        rw [pushSegment.eq_def, if_pos (by simpa using hskipped)]
      rw [hpush]
      exact h
    · have hname : IsPlain segment :=
        ⟨fun heq => hskipped (.inl heq), fun heq => hskipped (.inr heq), hdots⟩
      rw [hname.pushSegment_eq]
      exact .name hname h

/-- So do any number of segments. -/
theorem foldl (h : Settled stack) (segments : List (List Char)) :
    Settled (segments.foldl Path.pushSegment stack) := by
  induction segments generalizing stack with
  | nil => exact h
  | cons segment rest ih => exact ih (h.pushSegment segment)

/-- The segments on the stack build it up again, from its bottom. -/
theorem foldl_reverse (h : Settled stack) : stack.reverse.foldl Path.pushSegment [] = stack := by
  induction h with
  | parents up =>
    rw [List.reverse_replicate]
    induction up with
    | zero => rfl
    | succ up ih =>
      rw [List.replicate_succ', List.foldl_append, ih, List.foldl_cons, List.foldl_nil,
        pushSegment_parents, List.replicate_succ']
  | name hname _ ih =>
    rw [List.reverse_cons, List.foldl_append, ih, List.foldl_cons, List.foldl_nil,
      hname.pushSegment_eq]

/-- Names are put on the stack one after the other. -/
theorem append {names : List (List Char)} (h : Settled stack)
    (hnames : ∀ name ∈ names, IsPlain name) : Settled (names ++ stack) := by
  induction names with
  | nil => exact h
  | cons name names ih =>
    obtain ⟨hname, hrest⟩ := List.forall_mem_cons.1 hnames
    exact .name hname (ih hrest)

/-- From its bottom, the stack has `..` segments and then names. -/
theorem reverse_eq (h : Settled stack) : ∃ up names,
    stack.reverse = List.replicate up ['.', '.'] ++ names ∧ ∀ name ∈ names, IsPlain name := by
  induction h with
  | parents up =>
    exact ⟨up, [], by rw [List.reverse_replicate, List.append_nil], List.forall_mem_nil _⟩
  | name hname _ ih =>
    obtain ⟨up, names, hsplit, hnames⟩ := ih
    refine ⟨up, names ++ [_], by rw [List.reverse_cons, hsplit, List.append_assoc], ?_⟩
    exact List.forall_mem_append.2 ⟨hnames, List.forall_mem_singleton.2 hname⟩

end Settled

/-! ## Segments of normalized paths -/

theorem settled_segments (path : String) : Settled (segments path).reverse := by
  rw [segments, resolveSegments, List.reverse_reverse]
  exact (Settled.parents 0).foldl _

/-- Segments in the order of a stack are all left. -/
theorem Settled.resolveSegments_eq {segments : List (List Char)} (h : Settled segments.reverse) :
    resolveSegments segments = segments := by
  have hagain := h.foldl_reverse
  rw [List.reverse_reverse] at hagain
  rw [resolveSegments, hagain, List.reverse_reverse]

/-- A path with slashes alone is normalized by its segments. -/
theorem segments_eq {path : String} (h : '\\' ∉ path.toList) :
    segments path = resolveSegments (parts path) := by
  rw [segments, canonical_eq_self_iff.2 h]
  by_cases hempty : path = ""
  · subst hempty
    decide
  · rw [parts_of_ne hempty]

theorem parts_normalize (path : String) : parts (normalize path) = segments path :=
  parts_joinChars (fun _ => ne_nil_of_mem_segments) fun _ => not_mem_of_mem_segments

/-- No backslash is left in a normalized path. -/
theorem not_mem_normalize (path : String) : '\\' ∉ (normalize path).toList := by
  rw [normalize_eq, String.toList_ofList]
  intro hmem
  rcases mem_joinChars hmem with hslash | ⟨segment, hsegment, hc⟩
  · cases hslash
  · have hcanonical := subset_of_mem_splitChars (mem_of_mem_resolveSegments hsegment).1 hc
    exact canonical_eq_self_iff.1 (canonical_canonical path) hcanonical

/-- **The segments that are left of a path** are left of its normalized path. -/
theorem segments_normalize (path : String) : segments (normalize path) = segments path := by
  rw [segments_eq (not_mem_normalize path), parts_normalize,
    (settled_segments path).resolveSegments_eq]

theorem isNormal_normalize (path : String) : IsNormal (normalize path) := by
  obtain ⟨up, names, hsplit, hnames⟩ := (settled_segments path).reverse_eq
  rw [List.reverse_reverse, ← parts_normalize] at hsplit
  have hnonempty : [] ∉ parts (normalize path) := by
    rw [parts_normalize]
    exact fun hmem => ne_nil_of_mem_segments hmem rfl
  obtain ⟨hleading, htrailing⟩ := ends_of_nonempty hnonempty
  constructor
  case nonempty => exact hnonempty
  case dot =>
    rw [hsplit, List.mem_append, not_or]
    exact ⟨by simp, fun hmem => (hnames _ hmem).dot rfl⟩
  case parents => exact ⟨up, names, hsplit, fun hmem => (hnames _ hmem).dots rfl⟩
  case leading => exact hleading
  case trailing => exact htrailing
  case slash => exact not_mem_normalize path

/-- A path that is spelled as normalizing leaves it is left as it is. -/
theorem IsNormal.normalize_eq {path : String} (h : IsNormal path) : normalize path = path := by
  obtain ⟨up, names, hparts, hdots⟩ := h.parents
  have hnames : ∀ name ∈ names.reverse, IsPlain name := by
    intro name hname
    rw [List.mem_reverse] at hname
    have hmem : name ∈ parts path := hparts ▸ List.mem_append_right _ hname
    exact ⟨fun heq => h.nonempty (heq ▸ hmem), fun heq => h.dot (heq ▸ hmem),
      fun heq => hdots (heq ▸ hname)⟩
  have hsettled : Settled (parts path).reverse := by
    rw [hparts, List.reverse_append, List.reverse_replicate]
    exact (Settled.parents up).append hnames
  rw [Path.normalize_eq, segments_eq h.slash, hsettled.resolveSegments_eq, joinChars_parts,
    String.ofList_toList]

/-! ## Joined paths -/

theorem join_eq (dir relative : String) : join dir relative = normalize (child dir relative) := by
  rw [join, child]
  split <;> rfl

/-- A directory may be normalized before a path is put behind it. -/
theorem normalize_child_normalize (dir path : String) :
    normalize (child (normalize dir) path) = normalize (dir ++ "/" ++ path) := by
  rw [normalize_eq_normalize_iff]
  by_cases hempty : normalize dir = ""
  · -- nothing is left of the directory, and the path stands alone
    have hnone : segments dir = segments "" := by
      rw [← segments_normalize dir, hempty]
    have halone : segments ("" ++ "/" ++ path) = segments path := by
      rw [segments_append]
      rfl
    rw [hempty, segments_append_congr hnone, halone]
    rfl
  · rw [child_of_ne hempty, segments_append_congr (segments_normalize dir)]

/-- What normalizing and joining make of all paths. -/
structure Normalizes : Prop where
  /-- What was normalized is normalized. -/
  idempotent : ∀ path, normalize (normalize path) = normalize path
  /-- It has no empty segment, no `.` and no slash at an end, and `..` in front of all else. -/
  normal : ∀ path, IsNormal (normalize path)
  /-- Paths that are spelled so are the ones that are left as they are. -/
  eq_self_iff : ∀ path, normalize path = path ↔ IsNormal path
  /-- A path behind a joined one is joined with it first, or last. -/
  join : ∀ dir path more, join (join dir path) more = join dir (path ++ "/" ++ more)

/-- **Normalizing spells each path in its normal form**, and a path may be joined in parts. -/
theorem normalizes : Normalizes where
  idempotent path := (isNormal_normalize path).normalize_eq
  normal := isNormal_normalize
  eq_self_iff path := ⟨fun h => h ▸ isNormal_normalize path, IsNormal.normalize_eq⟩
  join dir path more := by
    have hwhole : child dir (path ++ "/" ++ more) = child dir path ++ "/" ++ more := by
      rw [String.append_assoc, String.append_assoc, child_append]
    rw [join_eq, join_eq, join_eq, normalize_child_normalize, hwhole]

/-- A path that leaves its directory, joined with one that leaves it further. -/
example : join (join "/a\\." "../..//b/") "..\\../c" = "../../c" := by decide

end Path

end ScriptHost
