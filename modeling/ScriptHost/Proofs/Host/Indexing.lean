import Mathlib.Data.List.Nodup
import ScriptHost.Proofs.Host.Canonical
/-!
# Orders of the index

A path that is not found as it is spelled is found through an index, and of the
paths that differ from it in case alone the index has the first one. The order
of the index is not chosen by the caller, and two calls may differ in it: so
what a set holds is certain only if none of its paths competes with another one.

- `FileSet.Definite`: no path is looked up for which two would do.
- `FileSet.definite_iff`: a set holds the same in every order exactly if it is definite.
- `VirtualFiles.host_indexedBy`: the host of a definite set does not depend on the order.
-/

namespace ScriptHost

/-! ## Orders -/

/-- The order that has a path in front. -/
def Indexing.first (path : String) : Indexing where
  order paths := if path ∈ paths then path :: paths.erase path else paths
  perm paths := by
    split
    · next h => exact (List.perm_cons_erase h).symm
    · exact .refl paths

/-- The order in which the paths of a list are listed. -/
def Indexing.listed (list : List String) : Indexing where
  order paths := if list.isPerm paths then list else paths
  perm paths := by
    split
    · next h => exact List.isPerm_iff.1 h
    · exact .refl paths

theorem Indexing.order_listed {list paths : List String} (h : list.Perm paths) :
    (Indexing.listed list).order paths = list :=
  if_pos (List.isPerm_iff.2 h)

/-! ## Sets that do not depend on the order -/

namespace FileSet

variable {s t : FileSet} {path : String}

/-- A path that a set does not hold as it is spelled differs from at most one of its paths in case
alone. -/
def Definite (s : FileSet) : Prop :=
  ∀ path ∉ s.files.keys, ∀ a ∈ s.files.keys, ∀ b ∈ s.files.keys,
    lowerCase a = lowerCase path → lowerCase b = lowerCase path → a = b

/-- A set is definite if no two of its paths differ in case alone. -/
theorem definite_of_nodup (h : (s.files.keys.map lowerCase).Nodup) : s.Definite :=
  fun _ _ _ ha _ hb hlowA hlowB => List.inj_on_of_nodup_map h ha hb (hlowA.trans hlowB.symm)

/-- A definite set and another one of the same files hold all paths alike. -/
theorem Definite.key?_eq (h : s.Definite) (hfiles : t.files = s.files) (path : String) :
    t.key? path = s.key? path := by
  by_cases hown : path ∈ s.files.keys
  · rw [key?_of_mem hown, key?_of_mem (hfiles ▸ hown)]
  cases hs : s.key? path with
  | none =>
    rw [← Option.not_isSome_iff_eq_none, key?_isSome_iff] at hs ⊢
    rwa [hfiles]
  | some key =>
    obtain ⟨hkey, hlow⟩ := key?_spec hs
    obtain ⟨other, hother⟩ := Option.isSome_iff_exists.1
      (key?_isSome_iff.2 ⟨key, hfiles ▸ hkey, hlow⟩ : (t.key? path).isSome)
    obtain ⟨hmem, hlow'⟩ := key?_spec hother
    rw [hother, h path hown other (hfiles ▸ hmem) key hkey hlow' hlow]

/-- The path that is indexed first is found under its other spellings. -/
theorem key?_indexedBy_first {key : String} (hkey : key ∈ s.files.keys)
    (hpath : path ∉ s.files.keys) (hlow : lowerCase key = lowerCase path) :
    (s.indexedBy (.first key)).key? path = some key := by
  have hmissed : ¬ s.files.contains path = true := by rwa [SortedMap.contains_iff]
  have horder : (Indexing.first key).order s.files.keys = key :: s.files.keys.erase key :=
    if_pos hkey
  rw [key?, indexedBy, if_neg hmissed]
  simp only [horder, List.map_cons]
  rw [SortedMap.lookup_cons_eq_ite, if_pos hlow.symm]

/-- **What a set holds is certain** in whatever order its paths are indexed exactly if it is
definite. -/
theorem definite_iff :
    s.Definite ↔ ∀ i j path, (s.indexedBy i).key? path = (s.indexedBy j).key? path := by
  constructor
  · intro h i j path
    rw [h.key?_eq (t := s.indexedBy i) rfl, h.key?_eq (t := s.indexedBy j) rfl]
  · intro h path hpath a ha b hb hlowA hlowB
    have hsame := h (.first a) (.first b) path
    rw [key?_indexedBy_first ha hpath hlowA, key?_indexedBy_first hb hpath hlowB] at hsame
    exact Option.some.inj hsame

end FileSet

/-! ## Hosts that do not depend on the order -/

/-- **A host does not depend on the order** of the index if the files to compile are definite. -/
theorem VirtualFiles.host_indexedBy {v : VirtualFiles} (h : v.input.Definite) (i : Indexing) :
    (v.indexedBy i).host = v.host := by
  have hkey : (v.input.indexedBy i).key? = v.input.key? :=
    funext (h.key?_eq (t := v.input.indexedBy i) rfl)
  have htext : (v.input.indexedBy i).text? = v.input.text? := by
    funext path
    rw [FileSet.text?, FileSet.text?, hkey]
    rfl
  simp only [host, VirtualFiles.key?, indexedBy, hkey, htext]
  rfl

end ScriptHost
