import ScriptHost.Proofs.Host.Normal
import ScriptHost.Proofs.Host.Spelling
import ScriptHost.Proofs.Program.Candidates
/-!
# Files of one directory

A name after `./` is looked for in the normalized directory of the file that has
it, while files are held under their paths as these are. Two files of one
directory find each other where the path of the directory is normalized. In
another one, say `/src` or `a//b`, a file is missed under its own name, unless
something else happens to be at a path without the parts that normalizing takes
away.

- `Path.Siblings`: two paths of one directory, the second one of a file with types.
- `Path.Siblings.normalize_eq`: the second path when it is normalized.
- `VirtualFiles.FindsSibling`, `VirtualFiles.resolve_sibling`: what `./` with the name of the
  second file leads to from the first one.
-/

namespace ScriptHost

namespace Path

/-! ## Names in a directory -/

/-- The second of two paths is that of the file with types of some name, in the directory of the
first. -/
structure Siblings (first second name : String) : Prop where
  isName : IsName name
  slash : canonical second = second
  dir : dirname second = dirname first
  path : second = name ++ ".ts" ∨ second = dirname second ++ "/" ++ (name ++ ".ts")

instance (first second name : String) : Decidable (Siblings first second name) :=
  decidable_of_iff (IsName name ∧ canonical second = second ∧ dirname second = dirname first ∧
      (second = name ++ ".ts" ∨ second = dirname second ++ "/" ++ (name ++ ".ts")))
    ⟨fun ⟨isName, slash, dir, path⟩ => ⟨isName, slash, dir, path⟩,
      fun h => ⟨h.isName, h.slash, h.dir, h.path⟩⟩

/-- A name with an ending is a name. -/
theorem IsName.append_ts {name : String} (h : IsName name) : IsName (name ++ ".ts") := by
  have hne {text : String} (ht : 's' ∉ text.toList) : name ++ ".ts" ≠ text := by
    rintro rfl
    simp at ht
  refine ⟨hne (by decide), ?_, ?_, hne (by decide), hne (by decide)⟩
  · simpa using h.single
  · rw [canonical_append, h.slash]
    rfl

/-- **The sibling's path when it is normalized**: its name in the normalized directory. -/
theorem Siblings.normalize_eq {first second name : String} (h : Siblings first second name) :
    normalize second = child (normalize (dirname first)) name ++ ".ts" := by
  rw [child_append, ← h.dir]
  rcases h.path with heq | heq
  -- at the top there is nothing but the name to normalize
  · have hdir : dirname second = "" := by
      rw [heq]
      exact dirname_of_not_mem h.isName.append_ts.single
    rw [hdir, heq, h.isName.append_ts.normalize_eq]
    rfl
  · have hnormal := h.isName.append_ts.normalize_append (dirname second)
    rwa [← heq] at hnormal

theorem endsWithAny_of_subset {endings more : List String} {text : String} (h : endings ⊆ more)
    (hmore : endsWithAny more text = false) : endsWithAny endings text = false := by
  rw [Bool.eq_false_iff, Ne, endsWithAny_iff] at hmore ⊢
  rintro ⟨e, he, hsuffix⟩
  exact hmore ⟨e, h he, hsuffix⟩

/-- A path in a directory has no ending that the name does not have. -/
theorem endsWithAny_child {endings : List String} (hslash : ∀ e ∈ endings, '/' ∉ e.toList)
    (dir : String) {name : String} (h : endsWithAny endings (lowerAscii name) = false) :
    endsWithAny endings (lowerAscii (child dir name)) = false := by
  rw [child]
  split
  · exact h
  · rw [Bool.eq_false_iff, Ne, endsWithAny_iff] at h ⊢
    rintro ⟨e, he, hsuffix⟩
    have hname : '/' :: (lowerAscii name).toList <:+ (lowerAscii (dir ++ "/" ++ name)).toList := by
      simp [lowerAscii]
    refine h ⟨e, he, ?_⟩
    -- an ending that reached beyond the name would have a slash in it
    rcases List.suffix_or_suffix_of_suffix hsuffix hname with hin | hin
    · rcases List.suffix_cons_iff.1 hin with heq | hin
      · exact absurd (heq ▸ List.mem_cons_self) (hslash e he)
      · exact hin
    · exact absurd (hin.subset List.mem_cons_self) (hslash e he)

end Path

namespace Resolver

variable {r : Resolver}

/-! ## A name after `./` -/

/-- A name after `./` leads to what it means in the normalized directory. -/
theorem resolve_name (r : Resolver) (modules : List String) (file : String) {name : String}
    (h : Path.IsName name) :
    r.resolve modules file ("./" ++ name) = (r.host.firstOf
      (r.placeCandidates (Path.child (Path.normalize (Path.dirname file)) name))).map .file := by
  have hpath : isPath ("./" ++ name) = true := by
    simp [isPath, Path.startsWith]
  have hnot : ¬ (isPath ("./" ++ name) = false ∧ "./" ++ name ∈ modules) := by
    simp [hpath]
  rw [resolve_eq_firstOf, if_neg hnot, candidates, places, if_pos hpath, h.join_eq,
    List.flatMap_singleton]

theorem append_ts_mem_placeCandidates (place : String) :
    place ++ ".ts" ∈ r.placeCandidates place := by
  have hending : ".ts" ∈ r.endings := List.mem_append_left _ List.mem_cons_self
  have hfile : place ++ ".ts" ∈ r.fileCandidates place :=
    List.mem_append_right _ (List.mem_map.2 ⟨".ts", hending, rfl⟩)
  exact List.mem_append_left _ (List.mem_append_left _ hfile)

/-- The endings of files that can be compiled, and of outputs. -/
def knownEndings : List String :=
  [".ts", ".tsx", ".mts", ".cts", ".js", ".jsx", ".mjs", ".cjs"]

/-- A place without such an ending is looked for with the first ending that it may have. -/
theorem head?_placeCandidates {place : String}
    (h : Path.endsWithAny knownEndings (Path.lowerAscii place) = false) :
    (r.placeCandidates place).head? = some (place ++ ".ts") := by
  have hsource : r.namesSource place = false := by
    rw [namesSource, Path.isJavaScript, Path.endsWithAny_of_subset (by decide) h,
      Path.endsWithAny_of_subset (by decide) h, Bool.and_false, Bool.or_false]
  have hsources : sourceCandidates place = [] := by
    have hknown : ∀ s ∈ sourceEndings, [s.1] ⊆ knownEndings := by decide
    refine List.flatMap_eq_nil_iff.2 fun s hs => if_neg ?_
    rw [Path.endsWithAny_of_subset (hknown s hs) h]
    exact Bool.false_ne_true
  rw [placeCandidates, fileCandidates, hsource, hsources]
  rfl

end Resolver

/-! ## Files of two maps -/

open Resolver

/-- What a name after `./` leads to from a file, when the second file is the one of that name with
types in the same directory. -/
structure VirtualFiles.FindsSibling (v : VirtualFiles) (options : CompilerOptions)
    (modules : List String) (first second name : String) : Prop where
  /-- It leads to nothing but files that are there, -/
  file : ∀ answer, (Resolver.mk options v.host).resolve modules first ("./" ++ name) = some answer →
    ∃ found ∈ v.host.names, answer = .file found
  /-- and to one of them exactly if one of the paths exists that the name means in the normalized
  directory, -/
  isSome_iff : ((Resolver.mk options v.host).resolve modules first ("./" ++ name)).isSome = true ↔
    ∃ path ∈ (Resolver.mk options v.host).placeCandidates
      (Path.child (Path.normalize (Path.dirname first)) name), v.host.exists? path = true
  /-- as the normalized path of the second file is one. -/
  candidate : Path.normalize second ∈ (Resolver.mk options v.host).placeCandidates
    (Path.child (Path.normalize (Path.dirname first)) name)
  /-- So the second file is not missed if its path is normalized, -/
  found : Path.normalize second = second →
    ((Resolver.mk options v.host).resolve modules first ("./" ++ name)).isSome = true
  /-- and it is what is found if the name has none of the endings that are tried before others. -/
  itself : Path.normalize second = second →
    Path.endsWithAny knownEndings (Path.lowerAscii name) = false →
    (Resolver.mk options v.host).resolve modules first ("./" ++ name) = some (.file second)

namespace VirtualFiles

variable {v : VirtualFiles} {input external : SortedMap String} {options : CompilerOptions}
  {modules : List String} {first second name : String}

/-- **When siblings find each other**, over any two sets of files: a name after `./` leads to a file
if and only if one of the paths exists that it means in the normalized directory. The file of that
name in the same directory is among these under its normalized path, and so under its own if this is
normalized. -/
theorem resolve_sibling (hv : v.Presents input external) (options : CompilerOptions)
    (modules : List String) (h : Path.Siblings first second name) (hmem : second ∈ input.keys) :
    v.FindsSibling options modules first second name := by
  have hexists : v.host.exists? second = true :=
    (hv.exists?_iff second).2 (.inl ⟨second, hmem, rfl⟩)
  have hplace := resolve_name (Resolver.mk options v.host) modules first h.isName
  have hiff : ((Resolver.mk options v.host).resolve modules first ("./" ++ name)).isSome = true ↔
      ∃ path ∈ (Resolver.mk options v.host).placeCandidates
        (Path.child (Path.normalize (Path.dirname first)) name), v.host.exists? path = true := by
    rw [hplace, Option.isSome_map, Host.isSome_firstOf]
  have hcandidate : Path.normalize second ∈ (Resolver.mk options v.host).placeCandidates
      (Path.child (Path.normalize (Path.dirname first)) name) := by
    rw [h.normalize_eq]
    exact append_ts_mem_placeCandidates _
  refine ⟨fun answer hanswer => ?_, hiff, hcandidate, fun hnormal => ?_, fun hnormal hplain => ?_⟩
  · rw [hplace] at hanswer
    obtain ⟨found, hfound, rfl⟩ := Option.map_eq_some_iff.1 hanswer
    obtain ⟨path, hpath, rfl⟩ := Option.map_eq_some_iff.1 hfound
    exact ⟨_, v.host_settled.mem_names path (List.find?_some hpath), rfl⟩
  · exact hiff.2 ⟨second, hnormal ▸ hcandidate, hexists⟩
  · -- nothing is tried before the path of the second file, which exists
    have hhead := head?_placeCandidates (r := Resolver.mk options v.host)
      (Path.endsWithAny_child (by decide) (Path.normalize (Path.dirname first)) hplain)
    rw [← h.normalize_eq, hnormal] at hhead
    obtain ⟨rest, hrest⟩ := List.head?_eq_some_iff.1 hhead
    rw [hplace, hrest, Host.firstOf, List.find?_cons_of_pos hexists, Option.map_some,
      hv.canonicalName_of_mem hmem h.slash]
    rfl

/-- Two files of one directory. -/
def sourceFiles : SortedMap String := .ofList [("src/a.ts", ""), ("src/b.ts", "")]

/-- The first of them finds the second one. -/
theorem sourceFiles_found :
    (ofMaps sourceFiles ∅ {}).Presents sourceFiles ∅ ∧
      Path.Siblings "src/a.ts" "src/b.ts" "b" ∧ "src/b.ts" ∈ sourceFiles.keys ∧
      (ofMaps sourceFiles ∅ {}).FindsSibling {} [] "src/a.ts" "src/b.ts" "b" := by
  have hv := ofMaps_presents sourceFiles ∅ {}
  have hsiblings : Path.Siblings "src/a.ts" "src/b.ts" "b" := by decide
  have hmem : "src/b.ts" ∈ sourceFiles.keys := by decide +kernel
  exact ⟨hv, hsiblings, hmem, resolve_sibling hv {} [] hsiblings hmem⟩

/-- Two files of one directory under the root. -/
def rootedFiles : SortedMap String := .ofList [("/src/a.ts", ""), ("/src/b.ts", "")]

/-- The first of them misses the second one, which is there. -/
theorem rootedFiles_missed :
    (∀ key ∈ rootedFiles.keys, Path.canonical key = key ∧ Path.startsWith "./" key = false) ∧
      "/src/a.ts" ∈ rootedFiles.keys ∧ "/src/b.ts" ∈ rootedFiles.keys ∧
      Path.Siblings "/src/a.ts" "/src/b.ts" "b" ∧
      (ofMaps rootedFiles ∅ {}).host.exists? "/src/b.ts" = true ∧
      (Resolver.mk {} (ofMaps rootedFiles ∅ {}).host).resolve [] "/src/a.ts" "./b" = none := by
  have hsiblings : Path.Siblings "/src/a.ts" "/src/b.ts" "b" := by decide
  have hfound : (ofMaps rootedFiles ∅ {}).host.exists? "/src/b.ts" = true := by decide +kernel
  have hmissed : (Resolver.mk {} (ofMaps rootedFiles ∅ {}).host).resolve [] "/src/a.ts" "./b" =
      none := by
    decide +kernel
  exact ⟨by decide +kernel, by decide +kernel, by decide +kernel, hsiblings, hfound, hmissed⟩

end VirtualFiles

end ScriptHost
