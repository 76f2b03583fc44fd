import ScriptHost.Proofs.Host.Normal
import ScriptHost.Proofs.Program.Candidates
/-!
# Specifiers with a slash in front

A specifier that starts with a slash is taken for a path, and put behind the
directory of the file that has it like any other. There its slash only ends an
empty segment, so it leads where the same text leads behind `./`. It names one
place for the files of one directory, and other places for those of others,
unless it leaves the directories by enough `..` segments.

- `Path.join_rooted`: the place of such a specifier in a directory.
- `Path.segments_append_of_not_mem`: what follows a directory without `..` stays behind it.
- `Host.holding`: a host with one file.
- `Resolver.eq_of_load_eq`: two places that no host tells apart are one place.
- `Resolver.ReadsRooted`, `Resolver.resolve_rooted`: where a specifier with a slash in front leads,
  and from which files it leads to the same.
-/

namespace ScriptHost

namespace Path

/-! ## Places in a directory -/

theorem segments_append_slash (dir rest : String) :
    segments (dir ++ "/" ++ ("/" ++ rest)) = segments (dir ++ "/" ++ rest) := by
  have hassoc : dir ++ "/" ++ ("/" ++ rest) = dir ++ "/" ++ "" ++ "/" ++ rest := by
    simp only [String.append_empty, String.append_assoc]
  rw [hassoc, segments_append_congr (segments_append_empty dir)]

/-- A slash in front of a path is no more than the one behind the directory. -/
theorem join_rooted (dir rest : String) :
    join dir ("/" ++ rest) = normalize (dir ++ "/" ++ rest) := by
  rw [join]
  split
  · next hempty => rw [String.isEmpty_iff.1 hempty, String.empty_append]
  · rw [normalize_eq_normalize_iff, segments_append_slash]

/-- Nor is a dot with a slash. -/
theorem join_dot (dir rest : String) :
    join dir ("./" ++ rest) = normalize (dir ++ "/" ++ rest) := by
  have hdot : "./" ++ rest = "." ++ "/" ++ rest := rfl
  have htop : segments "." = segments "" := by decide
  rw [join, hdot]
  split
  · next hempty =>
    rw [String.isEmpty_iff.1 hempty, normalize_eq_normalize_iff, segments_append_congr htop]
  · have hassoc : dir ++ "/" ++ ("." ++ "/" ++ rest) = dir ++ "/" ++ "." ++ "/" ++ rest := by
      simp only [String.append_assoc]
    rw [hassoc, normalize_eq_normalize_iff, segments_append_congr (segments_append_dot dir)]

/-- Segments other than `..` take nothing away from those in front. -/
theorem foldl_pushSegment_of_not_mem {parts : List (List Char)} (h : ['.', '.'] ∉ parts)
    (stack : List (List Char)) :
    parts.foldl pushSegment stack = parts.foldl pushSegment [] ++ stack := by
  induction parts generalizing stack with
  | nil => rfl
  | cons part rest ih =>
    rw [List.mem_cons, not_or] at h
    obtain ⟨hpart, hrest⟩ := h
    -- the stack in front is kept as it is under the segment, if this is kept at all
    have hpush : pushSegment stack part = pushSegment [] part ++ stack := by
      rw [pushSegment.eq_def, pushSegment.eq_def]
      split
      · rfl
      · rw [if_neg (by simpa using Ne.symm hpart), if_neg (by simpa using Ne.symm hpart)]
        rfl
    rw [List.foldl_cons, List.foldl_cons, ih hrest, hpush, ih hrest (pushSegment [] part),
      List.append_assoc]

/-- **What follows a directory stays behind it**, if it has no segment `..` by which it could leave
the directory. -/
theorem segments_append_of_not_mem {rest : String}
    (h : ['.', '.'] ∉ splitChars '/' (canonical rest).toList) (dir : String) :
    segments (dir ++ "/" ++ rest) = segments dir ++ segments rest := by
  rw [segments_append, foldl_pushSegment_of_not_mem h, List.reverse_append, List.reverse_reverse]
  rfl

end Path

/-! ## Hosts with one file -/

/-- A host with one file. -/
def Host.holding (path : String) : Host where
  exists? other := other == path
  read? _ := none
  sourceText _ := ""
  canonicalName := id
  isLibrary _ := false
  defaultLib := ""
  names := [path]

namespace Resolver

theorem firstOf_holding {path name : String} {paths : List String}
    (h : (Host.holding path).firstOf paths = some name) : name = path ∧ path ∈ paths := by
  obtain ⟨found, hfound, rfl⟩ := Option.map_eq_some_iff.1 h
  have hpath : found = path := by simpa [Host.holding] using List.find?_some hfound
  exact ⟨hpath, hpath ▸ List.mem_of_find?_eq_some hfound⟩

theorem length_dropEnd_le (count : Nat) (path : String) :
    (dropEnd count path).length ≤ path.length := by
  rw [dropEnd, String.length_ofList, List.length_take, String.length_toList]
  omega

/-- Without a file that describes a package, no path of a place is longer than the one of
declarations in it. -/
theorem length_of_mem_placeCandidates {path place candidate : String}
    (h : candidate ∈ (Resolver.mk {} (.holding path)).placeCandidates place) :
    candidate = place ++ "/index.d.ts" ∨ candidate.length < place.length + 11 := by
  have hendings : (Resolver.mk {} (.holding path)).endings = [".ts", ".tsx", ".d.ts"] := rfl
  have hdescribed : (Resolver.mk {} (.holding path)).described place = [] := rfl
  rw [placeCandidates, hdescribed, List.flatMap_nil, List.append_nil, List.mem_append] at h
  rcases h with hfile | hindex
  · right
    rw [fileCandidates, List.mem_append, List.mem_append, hendings] at hfile
    rcases hfile with (hown | hsource) | hending
    · split at hown
      · rw [List.mem_singleton.1 hown]
        omega
      · cases hown
    · obtain ⟨⟨ending, sources⟩, hsources, hmem⟩ := List.mem_flatMap.1 hsource
      dsimp only at hmem
      split at hmem
      · obtain ⟨source, hin, rfl⟩ := List.mem_map.1 hmem
        have hshort : ∀ s ∈ sourceEndings, ∀ e ∈ s.2, e.length < 11 := by decide
        have hcut := length_dropEnd_le ending.length place
        have hend := hshort _ hsources source hin
        rw [String.length_append]
        omega
      · cases hmem
    · obtain ⟨ending, hmem, rfl⟩ := List.mem_map.1 hending
      have hshort : ∀ e ∈ [".ts", ".tsx", ".d.ts"], e.length < 11 := by decide
      have hend := hshort ending hmem
      rw [String.length_append]
      omega
  · rw [indexCandidates, hendings] at hindex
    obtain ⟨ending, hmem, rfl⟩ := List.mem_map.1 hindex
    have hshort : ∀ e ∈ [".ts", ".tsx", ".d.ts"], e = ".d.ts" ∨ e.length < 5 := by decide
    refine (hshort ending hmem).imp (fun heq => ?_) fun hlt => ?_
    · rw [heq, String.append_assoc]
      rfl
    · have hindex : "/index".length = 6 := by decide
      rw [String.length_append, String.length_append, hindex]
      omega

/-- A place has the path of declarations in it. -/
theorem index_mem_placeCandidates (path place : String) :
    place ++ "/index.d.ts" ∈ (Resolver.mk {} (.holding path)).placeCandidates place := by
  have hindex : place ++ "/index.d.ts" ∈
      (Resolver.mk {} (.holding path)).indexCandidates place := by
    have hending : ".d.ts" ∈ (Resolver.mk {} (.holding path)).endings :=
      List.mem_append_left _ (by decide)
    refine List.mem_map.2 ⟨".d.ts", hending, ?_⟩
    rw [String.append_assoc]
    rfl
  exact List.mem_append_right _ hindex

/-- A host with one file that two places are both resolved to: the one place has no shorter path
than the other. -/
theorem eq_or_lt_of_load_holding {place other : String}
    (h : (Resolver.mk {} (.holding (place ++ "/index.d.ts"))).load place =
      (Resolver.mk {} (.holding (place ++ "/index.d.ts"))).load other) :
    place = other ∨ place.length < other.length := by
  have hsome : ((Resolver.mk {} (.holding (place ++ "/index.d.ts"))).load place).isSome = true := by
    rw [load_eq, Host.isSome_firstOf]
    exact ⟨_, index_mem_placeCandidates _ place, beq_self_eq_true _⟩
  obtain ⟨name, hname⟩ := Option.isSome_iff_exists.1 hsome
  rw [h, load_eq] at hname
  obtain ⟨-, hmem⟩ := firstOf_holding hname
  rcases length_of_mem_placeCandidates hmem with heq | hlt
  · exact .inl ((String.append_left_inj _).1 heq)
  · right
    have hindex : "/index.d.ts".length = 11 := by decide
    rw [String.length_append, hindex] at hlt
    omega

/-- **Places that no host tells apart** are one place. -/
theorem eq_of_load_eq {place other : String}
    (h : ∀ r : Resolver, r.load place = r.load other) : place = other := by
  rcases eq_or_lt_of_load_holding (h _) with heq | hlt
  · exact heq
  · rcases eq_or_lt_of_load_holding (h _).symm with heq | hgt
    · exact heq.symm
    · omega

/-! ## A slash in front -/

/-- Where a specifier with a slash in front leads. -/
structure ReadsRooted (rest : String) : Prop where
  /-- It leads to a place in the directory of the file that has it. -/
  place : ∀ (r : Resolver) modules file, r.resolve modules file ("/" ++ rest) =
    (r.load (Path.normalize (Path.dirname file ++ "/" ++ rest))).map .file
  /-- This is where it leads with a dot in front of the slash. -/
  relative : ∀ (r : Resolver) modules file,
    r.resolve modules file ("/" ++ rest) = r.resolve modules file ("./" ++ rest)
  /-- From two files it leads to the same, on any host, exactly if this place is the same. -/
  agrees_iff : ∀ first second,
    (∀ (r : Resolver) modules,
        r.resolve modules first ("/" ++ rest) = r.resolve modules second ("/" ++ rest)) ↔
      Path.normalize (Path.dirname first ++ "/" ++ rest) =
        Path.normalize (Path.dirname second ++ "/" ++ rest)
  /-- Without a segment `..` this takes files of one directory. -/
  directory_iff : ['.', '.'] ∉ Path.splitChars '/' (Path.canonical rest).toList →
    ∀ first second,
      (∀ (r : Resolver) modules,
          r.resolve modules first ("/" ++ rest) = r.resolve modules second ("/" ++ rest)) ↔
        Path.normalize (Path.dirname first) = Path.normalize (Path.dirname second)

theorem resolve_of_isPath {r : Resolver} {modules : List String} {file specifier : String}
    (h : isPath specifier = true) : r.resolve modules file specifier =
      (r.load (Path.join (Path.dirname file) specifier)).map .file := if_pos h

/-- **A slash in front of a specifier** does not make it start at the top: it leads to a place in the
directory of the file that has it, and to the same from the files of other directories only if it
leaves these. -/
theorem resolve_rooted (rest : String) : ReadsRooted rest := by
  have hrooted : isPath ("/" ++ rest) = true := by simp [isPath, Path.startsWith]
  have hdot : isPath ("./" ++ rest) = true := by simp [isPath, Path.startsWith]
  have hplace (r : Resolver) (modules : List String) (file : String) :
      r.resolve modules file ("/" ++ rest) =
        (r.load (Path.normalize (Path.dirname file ++ "/" ++ rest))).map .file := by
    rw [resolve_of_isPath hrooted, Path.join_rooted]
  have hagrees (first second : String) :
      (∀ (r : Resolver) modules,
          r.resolve modules first ("/" ++ rest) = r.resolve modules second ("/" ++ rest)) ↔
        Path.normalize (Path.dirname first ++ "/" ++ rest) =
          Path.normalize (Path.dirname second ++ "/" ++ rest) := by
    simp only [hplace]
    refine ⟨fun h => eq_of_load_eq fun r => ?_, fun h r _ => by rw [h]⟩
    exact Option.map_injective (fun _ _ heq => Resolution.file.inj heq) (h r [])
  constructor
  case place => exact hplace
  case relative =>
    intro r modules file
    rw [hplace, resolve_of_isPath hdot, Path.join_dot]
  case agrees_iff => exact hagrees
  case directory_iff =>
    intro hinside first second
    rw [hagrees, Path.normalize_eq_normalize_iff, Path.segments_append_of_not_mem hinside,
      Path.segments_append_of_not_mem hinside, List.append_cancel_right_eq,
      Path.normalize_eq_normalize_iff]

end Resolver

namespace VirtualFiles

/-- Two files at the top and one in a directory. -/
def rootedImports : SortedMap String := .ofList [("a.ts", ""), ("s/b.ts", ""), ("x.ts", "")]

/-- The same specifier leads to a file at the top from the other file there, and to nothing from the
file in the directory. -/
theorem rootedImports_differ :
    (Resolver.mk {} (ofMaps rootedImports ∅ {}).host).resolve [] "a.ts" "/x" =
        some (.file "x.ts") ∧
      (Resolver.mk {} (ofMaps rootedImports ∅ {}).host).resolve [] "s/b.ts" "/x" = none := by
  decide +kernel

end VirtualFiles

end ScriptHost
