import Mathlib.Data.List.Sort
import ScriptHost.Data.SortedMap
/-!
# Maps that are made of their entries

Entries whose keys differ make a map in whatever order they are given.

- `SortedMap.entries_ofList_perm`: the map has the entries that it is made of.
- `SortedMap.ofList_eq_of_perm`: a map is made of its entries in any order.
-/

namespace ScriptHost

namespace SortedMap

variable {α : Type} {l : List (String × α)}

/-- Entries whose keys differ are all in the map that is made of them. -/
theorem mem_entries_ofList_iff (h : (l.map (·.1)).Nodup) {e : String × α} :
    e ∈ (ofList l).entries ↔ e ∈ l := by
  obtain ⟨key, value⟩ := e
  have hreverse : (l.reverse.map (·.1)).Nodup := ((List.reverse_perm l).map _).nodup_iff.2 h
  rw [← get?_eq_some_iff, get?_ofList, lookup_eq_some_iff_mem hreverse, List.mem_reverse]

/-- They are its entries, but for their order. -/
theorem entries_ofList_perm (h : (l.map (·.1)).Nodup) : (ofList l).entries.Perm l := by
  have hentries : (ofList l).entries.Nodup := List.Nodup.of_map _ (ofList l).nodup_keys
  exact (List.perm_ext_iff_of_nodup hentries (List.Nodup.of_map _ h)).2
    fun _ => mem_entries_ofList_iff h

/-- A map is made of its entries, in whatever order. -/
theorem ofList_eq_of_perm {m : SortedMap α} (h : l.Perm m.entries) : ofList l = m := by
  have hkeys : (l.map (·.1)).Nodup := (h.map _).nodup_iff.2 m.nodup_keys
  have hirrefl : Std.Irrefl fun a b : String × α => a.1 < b.1 := ⟨fun a => String.lt_irrefl a.1⟩
  have hantisymm : Std.Antisymm fun a b : String × α => a.1 < b.1 :=
    ⟨fun a b hab hba => absurd hba (String.lt_asymm hab)⟩
  have hentries : (ofList l).entries = m.entries :=
    List.Pairwise.eq_of_mem_iff (ofList l).increasing m.increasing fun e =>
      (mem_entries_ofList_iff hkeys).trans h.mem_iff
  rw [← ofList_entries (ofList l), hentries, ofList_entries]

end SortedMap

end ScriptHost
