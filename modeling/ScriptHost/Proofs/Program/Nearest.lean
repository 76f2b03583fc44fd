import Mathlib.Data.Nat.Find
import ScriptHost.Proofs.Host.Normal
import ScriptHost.Proofs.Program.Aliases
/-!
# The nearest package

A package is looked for in the directory of the file that names it, and then in
one directory after the other, each of which holds the one before. The path of
the next directory is cut off that of the last one, and the search ends at the
directory without a path, which holds all others. A normalized directory has as
many directories above it as it has segments, whatever text it was given by, so
the search always ends there, unless a nearer directory has the package.

- `Path.above`: the directories above one, by how far they are above it.
- `Resolver.Climbs`: a search from a directory upwards, with the directories that it has passed.
- `Resolver.EndsAt`: how far above a directory its search ends.
- `Resolver.attempts`: what is tried in one directory.
- `Resolver.SearchesUp`, `Resolver.loadNearest_searchesUp`: the search ends at the nearest directory
  that has the package.
-/

namespace ScriptHost

namespace Path

/-! ## Directories above one -/

/-- How many directories there are above a directory. -/
def depth (dir : String) : Nat := (segments dir).length

/-- The directory so many levels above a directory: the first segments of its path. -/
def above (dir : String) (level : Nat) : String :=
  String.ofList (joinChars '/' ((segments dir).take (depth dir - level)))

theorem above_zero (dir : String) : above dir 0 = normalize dir := by
  rw [above, Nat.sub_zero, depth, List.take_length, normalize_eq]

/-- The highest directory has no path. -/
theorem above_depth (dir : String) : above dir (depth dir) = "" := by
  rw [above, Nat.sub_self]
  rfl

/-- The segments of a directory that is not the highest have a last one. -/
theorem exists_take_eq {dir : String} {level : Nat} (h : level < depth dir) :
    ∃ last ∈ segments dir, (segments dir).take (depth dir - level) =
      (segments dir).take (depth dir - (level + 1)) ++ [last] := by
  have hcount : depth dir - level = depth dir - (level + 1) + 1 := by omega
  have hlast : depth dir - (level + 1) < (segments dir).length := by
    rw [depth] at h ⊢
    omega
  exact ⟨_, List.getElem_mem hlast, by rw [hcount, List.take_succ_eq_append_getElem hlast]⟩

theorem above_ne {dir : String} {level : Nat} (h : level < depth dir) : above dir level ≠ "" := by
  obtain ⟨last, hmem, htake⟩ := exists_take_eq h
  rw [above, htake, Ne, ← String.toList_inj, String.toList_ofList]
  exact joinChars_concat_ne_nil (ne_nil_of_mem_segments hmem)

/-- One level further up is the directory that is cut off. -/
theorem dirname_above {dir : String} {level : Nat} (h : level < depth dir) :
    dirname (above dir level) = above dir (level + 1) := by
  obtain ⟨last, hmem, htake⟩ := exists_take_eq h
  rw [above, htake, dirname_joinChars (not_mem_of_mem_segments hmem), above]

end Path

namespace Resolver

theorem ancestors_eq (segments : List (List Char)) :
    ancestors segments = (List.range (segments.length + 1)).map fun level =>
      String.ofList (Path.joinChars '/' (segments.drop level).reverse) := by
  induction segments with
  | nil => rfl
  | cons last rest ih =>
    rw [ancestors, ih, List.length_cons, List.range_succ_eq_map (n := rest.length + 1),
      List.map_cons, List.map_map]
    rfl

/-- The directories from one on are those above it, level by level. -/
theorem directoriesFrom_eq_map (dir : String) :
    directoriesFrom dir = (List.range (Path.depth dir + 1)).map (Path.above dir) := by
  rw [directoriesFrom, ancestors_eq, List.length_reverse]
  refine List.map_congr_left fun level _ => ?_
  rw [List.drop_reverse, List.reverse_reverse]
  rfl

/-- Whatever a directory is given by, those above it have normalized paths. -/
example : directoriesFrom "/a\\..//b/./c/" = ["b/c", "b", ""] := by decide

/-! ## What is tried in one directory -/

/-- The name of the package with the types for a package: the name itself, or the scope and the rest
of the name with underscores between them. -/
inductive TypesName : String → String → Prop where
  | scoped {scope name : String} (h : '/' ∉ scope.toList) :
    TypesName ("@" ++ scope ++ "/" ++ name) (scope ++ "__" ++ name)
  | plain {name : String} (h : ∀ scope rest, name ≠ "@" ++ scope ++ "/" ++ rest) :
    TypesName name name

theorem typesName_typesPackage (specifier : String) :
    TypesName specifier (typesPackage specifier) := by
  have hchars (scope name : String) :
      ("@" ++ scope ++ "/" ++ name).toList = '@' :: (scope.toList ++ '/' :: name.toList) := by
    simp
  rw [typesPackage]
  split
  · next rest hat =>
    cases hsplit : splitFirst '/' (String.ofList rest) with
    | some parts =>
      obtain ⟨scope, name⟩ := parts
      obtain ⟨hrest, hscope⟩ := splitFirst_eq_some_iff.1 hsplit
      rw [String.toList_ofList] at hrest
      obtain rfl : specifier = "@" ++ scope ++ "/" ++ name := by
        rw [← String.toList_inj, hat, hchars, hrest]
      exact .scoped hscope
    | none =>
      refine .plain fun scope name heq => ?_
      rw [heq, hchars] at hat
      refine splitFirst_eq_none_iff.1 hsplit ?_
      rw [String.toList_ofList, ← (List.cons.inj hat).2]
      exact List.mem_append_right _ List.mem_cons_self
  · next hplain =>
    refine .plain fun scope name heq => hplain (scope.toList ++ '/' :: name.toList) ?_
    rw [heq, hchars]

variable (r : Resolver) (specifier dir : String)

/-- What is tried for a package in a directory, in this order: the package itself and the one with
its types, each as a file and then as a directory. -/
def attempts (types : String) : List (Option String) :=
  let packages := Path.child dir "node_modules"
  [packages ++ "/" ++ specifier, packages ++ "/@types/" ++ types].flatMap fun place =>
    [r.loadFile place, r.loadDirectory place]

theorem loadPackage_eq : r.loadPackage specifier dir =
    (r.attempts specifier dir (typesPackage specifier)).findSome? id := by
  have hpackages : (if dir.isEmpty then "node_modules" else dir ++ "/node_modules") =
      Path.child dir "node_modules" := by
    rw [Path.child]
    split
    · rfl
    · rw [String.append_assoc]
      rfl
  rw [loadPackage, attempts, hpackages]
  have hfirst (a b c d : Option String) :
      (a.or b).or (c.or d) = [a, b, c, d].findSome? id := by
    cases a <;> cases b <;> cases c <;> cases d <;> rfl
  exact hfirst _ _ _ _

/-- The first of some numbers for which there is something, or else the last one, has what is found
by going through all of them. -/
theorem findSome?_range {α : Type} {f : Nat → Option α} {stop last : Nat} (hle : stop ≤ last)
    (hbefore : ∀ n < stop, f n = none) (hstop : (f stop).isSome = true ∨ stop = last) :
    (List.range (last + 1)).findSome? f = f stop := by
  obtain ⟨more, rfl⟩ := Nat.exists_eq_add_of_le hle
  have hnone : (List.range stop).findSome? f = none :=
    List.findSome?_eq_none_iff.2 fun n hn => hbefore n (List.mem_range.1 hn)
  rw [Nat.add_assoc, List.range_add, List.findSome?_append, hnone, Option.none_or,
    List.range_succ_eq_map, List.map_cons, List.findSome?_cons, Nat.add_zero]
  cases hfound : f stop with
  | some a => rfl
  | none =>
    have hlast : more = 0 := by
      rcases hstop with hsome | heq
      · rw [hfound] at hsome
        cases hsome
      · omega
    rw [hlast]
    rfl

/-! ## Going up -/

/-- A search from a directory upwards, with the directories that it has looked into and its answer.
It ends where it finds the package or in the highest directory, and else it goes on in the directory
that holds the one it is in. -/
inductive Climbs : String → List String → Option String → Prop where
  | found {dir name : String} (h : r.loadPackage specifier dir = some name) :
    Climbs dir [dir] (some name)
  | missed (h : r.loadPackage specifier "" = none) : Climbs "" [""] none
  | up {dir : String} {tried : List String} {answer : Option String} (hdir : dir ≠ "")
    (h : r.loadPackage specifier dir = none) (hup : Climbs (Path.dirname dir) tried answer) :
    Climbs dir (dir :: tried) answer

/-- The search for a package from a directory upwards ends so many levels above it. -/
structure EndsAt (level : Nat) : Prop where
  le : level ≤ Path.depth dir
  nearer : ∀ n < level, r.loadPackage specifier (Path.above dir n) = none
  stops : (r.loadPackage specifier (Path.above dir level)).isSome = true ∨ level = Path.depth dir

variable {r specifier dir}

/-- From one directory there is one search. -/
theorem Climbs.unique {tried tried' : List String} {answer answer' : Option String}
    (h : r.Climbs specifier dir tried answer) (h' : r.Climbs specifier dir tried' answer') :
    tried = tried' ∧ answer = answer' := by
  induction h generalizing tried' answer' with
  | found h =>
    cases h' with
    | found h' => exact ⟨rfl, h.symm.trans h'⟩
    | missed h' => cases h.symm.trans h'
    | up _ h' => cases h.symm.trans h'
  | missed h =>
    cases h' with
    | found h' => cases h.symm.trans h'
    | missed => exact ⟨rfl, rfl⟩
    | up hdir => exact absurd rfl hdir
  | up hdir h _ ih =>
    cases h' with
    | found h' => cases h.symm.trans h'
    | missed => exact absurd rfl hdir
    | up _ _ hup =>
      obtain ⟨rfl, rfl⟩ := ih hup
      exact ⟨rfl, rfl⟩

/-- A search has one end. -/
theorem existsUnique_endsAt (r : Resolver) (specifier dir : String) :
    ∃! level, r.EndsAt specifier dir level := by
  have hlast : ∃ level, (r.loadPackage specifier (Path.above dir level)).isSome = true ∨
      level = Path.depth dir := ⟨_, .inr rfl⟩
  refine ⟨Nat.find hlast, ⟨Nat.find_min' hlast (.inr rfl), fun n hn => ?_, Nat.find_spec hlast⟩,
    fun level h => ?_⟩
  · have hgoes := Nat.find_min hlast hn
    rw [not_or, Bool.not_eq_true, Option.isSome_eq_false_iff, Option.isNone_iff_eq_none] at hgoes
    exact hgoes.1
  · refine ((Nat.find_eq_iff hlast).2 ⟨h.stops, fun n hn => ?_⟩).symm
    rw [h.nearer n hn, not_or]
    exact ⟨nofun, (hn.trans_le h.le).ne⟩

section

variable {level : Nat} (h : r.EndsAt specifier dir level)

include h

/-- From a directory below its end, a search looks into all directories up to there. -/
theorem EndsAt.climbs_above {start count : Nat} (hlevel : start + count = level) :
    r.Climbs specifier (Path.above dir start)
      ((List.range (count + 1)).map fun n => Path.above dir (start + n))
      (r.loadPackage specifier (Path.above dir level)) := by
  induction count generalizing start with
  | zero =>
    rw [Nat.add_zero] at hlevel
    subst hlevel
    cases hfound : r.loadPackage specifier (Path.above dir start) with
    | some name => exact .found hfound
    | none =>
      -- without the package, the end is the highest directory
      have htop : Path.above dir start = "" := by
        rcases h.stops with hsome | heq
        · rw [hfound] at hsome
          cases hsome
        · rw [heq, Path.above_depth]
      have hmissed : r.Climbs specifier "" [""] none := .missed (htop ▸ hfound)
      rw [← htop] at hmissed
      exact hmissed
  | succ count ih =>
    have hstart : start < level := by omega
    have hbelow : start < Path.depth dir := hstart.trans_le h.le
    have hnext : start + 1 + count = level := by omega
    have hup := ih hnext
    rw [← Path.dirname_above hbelow] at hup
    have hclimbs := Climbs.up (Path.above_ne hbelow) (h.nearer start hstart) hup
    rw [List.range_succ_eq_map, List.map_cons, List.map_map]
    refine Eq.mp ?_ hclimbs
    congr 2
    exact List.map_congr_left fun n _ => congrArg (Path.above dir) (by simp; omega)

/-- The answer is that of the directory in which the search ends. -/
theorem EndsAt.loadNearest_eq : r.loadNearest specifier dir =
    r.loadPackage specifier (Path.above dir level) := by
  have hsearch := findSome?_range (f := fun n => r.loadPackage specifier (Path.above dir n)) h.le
    h.nearer h.stops
  rwa [loadNearest, directoriesFrom_eq_map, List.findSome?_map, Function.comp_def]

end

/-- The search for a package from a directory upwards. -/
structure SearchesUp (r : Resolver) (specifier dir : String) : Prop where
  /-- It starts in the normalized directory. -/
  start : Path.above dir 0 = Path.normalize dir
  /-- The next directory up is cut off the path of the one before. -/
  up : ∀ level < Path.depth dir, Path.above dir level ≠ "" ∧
    Path.dirname (Path.above dir level) = Path.above dir (level + 1)
  /-- The highest directory has no path. -/
  top : Path.above dir (Path.depth dir) = ""
  /-- In each of them the package and the one with its types are tried, as files and directories. -/
  tries : ∃ types, TypesName specifier types ∧ ∀ dir,
    r.loadPackage specifier dir = (r.attempts specifier dir types).findSome? id
  /-- There is one directory in which it ends: the nearest one that has the package, or the highest
  one if none has it. -/
  ends : ∃! level, r.EndsAt specifier dir level
  /-- The search looks into all directories up to there, and into no others. -/
  climbs : ∀ {level}, r.EndsAt specifier dir level → ∀ tried answer,
    r.Climbs specifier (Path.normalize dir) tried answer ↔
      tried = (List.range (level + 1)).map (Path.above dir) ∧
        answer = r.loadNearest specifier dir
  /-- What it finds there is what a package is resolved to. -/
  answers : ∀ {level}, r.EndsAt specifier dir level →
    r.loadNearest specifier dir = r.loadPackage specifier (Path.above dir level)

/-- **The search for a package ends** at the nearest directory that has it, for any text that the
directory is given by and on any host. -/
theorem loadNearest_searchesUp (r : Resolver) (specifier dir : String) :
    r.SearchesUp specifier dir := by
  constructor
  case start => exact Path.above_zero dir
  case up => exact fun level h => ⟨Path.above_ne h, Path.dirname_above h⟩
  case top => exact Path.above_depth dir
  case tries => exact ⟨_, typesName_typesPackage specifier, r.loadPackage_eq specifier⟩
  case ends => exact existsUnique_endsAt r specifier dir
  case climbs =>
    intro level h tried answer
    have hclimbs := h.climbs_above (Nat.zero_add level)
    simp only [Nat.zero_add] at hclimbs
    rw [Path.above_zero, ← h.loadNearest_eq] at hclimbs
    constructor
    · exact fun hother => hother.unique hclimbs
    · intro ⟨htried, hanswer⟩
      rwa [htried, hanswer]
  case answers => exact fun h => h.loadNearest_eq

end Resolver

end ScriptHost
