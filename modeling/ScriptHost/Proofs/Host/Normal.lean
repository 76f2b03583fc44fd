import ScriptHost.Proofs.Host.Segments
/-!
# Normalized paths

A path is normalized from its first segment to its last. A name at the end of a
path is left as it is, so the normalized path of a file is that of its directory,
with the same name in it. What stands in front of the name has a say in nothing
but the directory.

- `Path.segments`: the segments that are left of a path when it is normalized.
- `Path.normalize_eq_normalize_iff`: two paths have one normalized path if the same is left of them.
- `Path.IsPlain`: a segment that is a name.
- `Path.IsName`: a text that is a segment and is always left.
- `Path.child`: the path of a name in a directory.
- `Path.IsName.normalize_append`: the normalized path of a name in a directory.
- `Path.IsName.join_eq`: a name after `./` is a name in the directory.
-/

namespace ScriptHost

namespace Path

/-! ## Parts of a text -/

theorem splitChars_ne_nil (sep : Char) (cs : List Char) : splitChars sep cs ≠ [] := by
  fun_cases splitChars sep cs <;> exact List.cons_ne_nil _ _

theorem splitChars_append (sep : Char) (cs ds : List Char) :
    splitChars sep (cs ++ sep :: ds) = splitChars sep cs ++ splitChars sep ds := by
  fun_induction splitChars sep cs with
  | case1 => rw [List.nil_append, splitChars, if_pos (beq_self_eq_true sep), List.singleton_append]
  | case2 c cs hsep ih => rw [List.cons_append, splitChars, if_pos hsep, ih, List.cons_append]
  | case3 c cs _ hsplit _ => exact absurd hsplit (splitChars_ne_nil sep cs)
  | case4 c cs hne first rest hsplit ih =>
    rw [List.cons_append, splitChars, if_neg hne, ih, hsplit]
    rfl

/-- A text without a separator is its only part. -/
theorem splitChars_of_not_mem {sep : Char} {cs : List Char} (h : sep ∉ cs) :
    splitChars sep cs = [cs] := by
  induction cs with
  | nil => rfl
  | cons c cs ih =>
    rw [List.mem_cons, not_or] at h
    rw [splitChars, if_neg (by simpa using Ne.symm h.1), ih h.2]

/-- Parts without a separator are found again in the text that is joined from them. -/
theorem splitChars_joinChars {sep : Char} {parts : List (List Char)} (hne : parts ≠ [])
    (h : ∀ part ∈ parts, sep ∉ part) : splitChars sep (joinChars sep parts) = parts := by
  induction parts with
  | nil => exact absurd rfl hne
  | cons part rest ih =>
    obtain ⟨hpart, hrest⟩ := List.forall_mem_cons.1 h
    cases rest with
    | nil => exact splitChars_of_not_mem hpart
    | cons next rest =>
      rw [joinChars, splitChars_append, splitChars_of_not_mem hpart,
        ih (List.cons_ne_nil _ _) hrest, List.singleton_append]
      exact fun h => nomatch h

/-- A text is joined again from its parts. -/
theorem joinChars_splitChars (sep : Char) (cs : List Char) :
    joinChars sep (splitChars sep cs) = cs := by
  fun_induction splitChars sep cs with
  | case1 => rfl
  | case2 c cs hsep ih =>
    rw [joinChars, ih, beq_iff_eq.1 hsep, List.nil_append]
    exact splitChars_ne_nil sep cs
  | case3 c cs _ hsplit _ => exact absurd hsplit (splitChars_ne_nil sep cs)
  | case4 c cs _ first rest hsplit ih =>
    rw [hsplit] at ih
    rw [← ih]
    cases rest <;> rfl

/-! ## Segments that are left -/

theorem canonical_append (path more : String) :
    canonical (path ++ more) = canonical path ++ canonical more := by
  rw [canonical, String.toList_append, List.map_append, String.ofList_append, canonical, canonical]

/-- The segments that are left of a path when it is normalized. -/
def segments (path : String) : List (List Char) :=
  resolveSegments (splitChars '/' (canonical path).toList)

theorem normalize_eq (path : String) :
    normalize path = String.ofList (joinChars '/' (segments path)) := rfl

theorem ne_nil_of_mem_segments {path : String} {segment : List Char} (h : segment ∈ segments path) :
    segment ≠ [] := (mem_of_mem_resolveSegments h).2

theorem not_mem_of_mem_segments {path : String} {segment : List Char}
    (h : segment ∈ segments path) : '/' ∉ segment :=
  not_mem_of_mem_splitChars (mem_of_mem_resolveSegments h).1

/-- A normalized path without text has no segments. -/
theorem joinChars_segments_eq_nil {path : String} (h : joinChars '/' (segments path) = []) :
    segments path = [] := by
  rcases List.eq_nil_or_concat (segments path) with hnil | ⟨init, last, hsplit⟩
  · exact hnil
  · rw [List.concat_eq_append] at hsplit
    have hlast : last ≠ [] := ne_nil_of_mem_segments (hsplit ▸ List.mem_concat_self)
    rw [hsplit] at h
    exact absurd h (joinChars_concat_ne_nil hlast)

/-- Normalized paths are the same if what is left of their segments is. -/
theorem normalize_eq_normalize_iff {path path' : String} :
    normalize path = normalize path' ↔ segments path = segments path' := by
  rw [normalize_eq, normalize_eq, String.ofList_inj]
  refine ⟨fun h => ?_, fun h => by rw [h]⟩
  by_cases hnil : segments path = []
  · rw [hnil] at h ⊢
    exact (joinChars_segments_eq_nil h.symm).symm
  · have hnil' : segments path' ≠ [] := by
      intro hnil'
      rw [hnil'] at h
      exact hnil (joinChars_segments_eq_nil h)
    rw [← splitChars_joinChars hnil fun _ => not_mem_of_mem_segments, h,
      splitChars_joinChars hnil' fun _ => not_mem_of_mem_segments]

/-- A path is its directory and what follows, segment by segment. -/
theorem segments_append (dir path : String) :
    segments (dir ++ "/" ++ path) = ((splitChars '/' (canonical path).toList).foldl pushSegment
      (segments dir).reverse).reverse := by
  have hchars : (canonical (dir ++ "/" ++ path)).toList =
      (canonical dir).toList ++ '/' :: (canonical path).toList := by
    rw [canonical_append, canonical_append]
    simp [canonical]
  rw [segments, segments, hchars, splitChars_append, resolveSegments, resolveSegments,
    List.foldl_append, List.reverse_reverse]

/-- What stands in front of a path has a say in nothing but the segments in front. -/
theorem segments_append_congr {dir dir' : String} (h : segments dir = segments dir')
    (path : String) : segments (dir ++ "/" ++ path) = segments (dir' ++ "/" ++ path) := by
  rw [segments_append, segments_append, h]

/-- A dot for the directory itself leaves nothing. -/
theorem segments_append_dot (dir : String) : segments (dir ++ "/" ++ ".") = segments dir := by
  have hdot : splitChars '/' (canonical ".").toList = [['.']] := by decide
  rw [segments_append, hdot, List.foldl_cons, List.foldl_nil, pushSegment.eq_def,
    if_pos (by decide), List.reverse_reverse]

/-- Nor does a slash at the end of the directory. -/
theorem segments_append_empty (dir : String) : segments (dir ++ "/" ++ "") = segments dir := by
  have hempty : splitChars '/' (canonical "").toList = [[]] := by decide
  rw [segments_append, hempty, List.foldl_cons, List.foldl_nil, pushSegment.eq_def,
    if_pos (by decide), List.reverse_reverse]

theorem normalize_append_dot (dir : String) : normalize (dir ++ "/" ++ ".") = normalize dir := by
  rw [normalize_eq, segments_append_dot, ← normalize_eq]

/-! ## Names -/

/-- A segment that is a name. -/
structure IsPlain (segment : List Char) : Prop where
  nonempty : segment ≠ []
  dot : segment ≠ ['.']
  dots : segment ≠ ['.', '.']

/-- A name is put on any stack. -/
theorem IsPlain.pushSegment_eq {name : List Char} (h : IsPlain name) (stack : List (List Char)) :
    pushSegment stack name = name :: stack := by
  simp [pushSegment.eq_def, h.nonempty, h.dot, h.dots]

/-- A text is a segment, and one that is left in any path. -/
structure IsName (name : String) : Prop where
  nonempty : name ≠ ""
  single : '/' ∉ name.toList
  slash : canonical name = name
  dot : name ≠ "."
  dots : name ≠ ".."

instance (name : String) : Decidable (IsName name) :=
  decidable_of_iff (name ≠ "" ∧ '/' ∉ name.toList ∧ canonical name = name ∧ name ≠ "." ∧ name ≠ "..")
    ⟨fun ⟨nonempty, single, slash, dot, dots⟩ => ⟨nonempty, single, slash, dot, dots⟩,
      fun h => ⟨h.nonempty, h.single, h.slash, h.dot, h.dots⟩⟩

/-- The path of a name in a directory, where the directory at the top has no path. -/
def child (dir name : String) : String := if dir.isEmpty then name else dir ++ "/" ++ name

theorem child_of_ne {dir : String} (h : dir ≠ "") (name : String) :
    child dir name = dir ++ "/" ++ name := by
  rw [child, if_neg (by rwa [String.isEmpty_iff])]

theorem child_append (dir name ending : String) :
    child dir name ++ ending = child dir (name ++ ending) := by
  rw [child, child]
  split
  · rfl
  · rw [String.append_assoc]

section

variable {name : String} (h : IsName name)

include h

theorem IsName.pushSegment_eq (stack : List (List Char)) :
    pushSegment stack name.toList = name.toList :: stack := by
  have hplain : IsPlain name.toList :=
    ⟨fun heq => h.nonempty (String.toList_inj.1 heq), fun heq => h.dot (String.toList_inj.1 heq),
      fun heq => h.dots (String.toList_inj.1 heq)⟩
  exact hplain.pushSegment_eq stack

/-- A name is the last segment of any path that it is at the end of. -/
theorem IsName.segments_append (dir : String) :
    segments (dir ++ "/" ++ name) = segments dir ++ [name.toList] := by
  rw [Path.segments_append, h.slash, splitChars_of_not_mem h.single, List.foldl_cons,
    List.foldl_nil, h.pushSegment_eq, List.reverse_cons, List.reverse_reverse]

/-- A name is normalized. -/
theorem IsName.normalize_eq : normalize name = name := by
  rw [Path.normalize_eq, segments, h.slash, splitChars_of_not_mem h.single, resolveSegments,
    List.foldl_cons, List.foldl_nil, h.pushSegment_eq]
  exact String.ofList_toList

/-- **The normalized path of a name in a directory** is that of the directory, with the name. -/
theorem IsName.normalize_append (dir : String) :
    normalize (dir ++ "/" ++ name) = child (normalize dir) name := by
  rw [Path.normalize_eq, h.segments_append, Path.normalize_eq]
  -- a slash stands in front of the name unless nothing is left of the directory
  rcases List.eq_nil_or_concat (segments dir) with hnil | ⟨init, last, hsplit⟩
  · rw [hnil]
    exact String.ofList_toList
  · rw [List.concat_eq_append] at hsplit
    have hlast : last ≠ [] := ne_nil_of_mem_segments (hsplit ▸ List.mem_concat_self)
    have hdir : String.ofList (joinChars '/' (init ++ [last])) ≠ "" := by
      rw [Ne, ← String.toList_inj, String.toList_ofList]
      exact joinChars_concat_ne_nil hlast
    rw [hsplit, joinChars_concat (List.concat_ne_nil _ _), child_of_ne hdir, ← String.toList_inj]
    simp

/-- **A name after `./`** is a name in the directory. -/
theorem IsName.join_eq (dir : String) :
    join dir ("./" ++ name) = child (normalize dir) name := by
  have hdot : "./" ++ name = "." ++ "/" ++ name := rfl
  rw [join, hdot]
  split
  · next hempty =>
    rw [h.normalize_append, String.isEmpty_iff.1 hempty]
    rfl
  · have hassoc : dir ++ "/" ++ ("." ++ "/" ++ name) = dir ++ "/" ++ "." ++ "/" ++ name := by
      simp only [String.append_assoc]
    rw [hassoc, h.normalize_append, normalize_append_dot]

end

end Path

end ScriptHost
