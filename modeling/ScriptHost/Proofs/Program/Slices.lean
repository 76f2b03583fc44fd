import Mathlib.Data.List.TakeWhile
import ScriptHost.Program.Resolution
import ScriptHost.Proofs.Host.Segments
import ScriptHost.Proofs.Text.Slice
/-!
# Slices in resolution

Resolution cuts texts at positions in bytes: a directory off the front of a
path, the part for a star out of a specifier, an ending off a path. If any of
these positions were inside of a character or after the end, all of resolution
would fail. Here is resolution with cuts that may fail, and none of them does.

- `Path.checkedDirname`, `Resolver.checkedBetween`, `Resolver.checkedStem`: the three cuts.
- `Resolver.checkedResolve`: resolution, if no cut in it fails.
- `Resolver.directoriesFrom_eq`: the directories above one are reached by cutting.
- `Resolver.checkedResolve_eq`: no cut fails.
-/

namespace ScriptHost

open String (utf8Len)

/-! ## Directories -/

namespace Path

/-- The directory of a file, cut off at its last slash. -/
def checkedDirname (path : String) : Option String :=
  match Slice.lastIndex? '/' path.toList with
  | some last => Slice.cut? path 0 last
  | none => some ""

theorem splitLast_eq_none {c : Char} {text : String} (h : splitLast c text = none) :
    c ∉ text.toList := by
  intro hmem
  rw [splitLast] at h
  split at h
  · next hdrop =>
    simpa using List.dropWhile_eq_nil_iff.1 hdrop c (List.mem_reverse.2 hmem)
  · cases h

/-- A directory can be cut off any path. -/
theorem checkedDirname_eq (path : String) : checkedDirname path = some (dirname path) := by
  rw [checkedDirname, dirname]
  cases hsplit : splitLast '/' path with
  | none => simp [Slice.lastIndex?_eq_none_iff.2 (splitLast_eq_none hsplit)]
  | some parts =>
    obtain ⟨front, back⟩ := parts
    obtain ⟨htext, hback⟩ := splitLast_eq_some_iff.1 hsplit
    rw [htext, Slice.lastIndex?_append hback]
    show Slice.cut? path 0 (utf8Len front.toList) = some front
    rw [Slice.cut?_front htext, String.ofList_toList]

/-- What is cut off is shorter. -/
theorem length_lt_of_checkedDirname {path above : String} (hpath : path ≠ "")
    (h : checkedDirname path = some above) : above.length < path.length := by
  rw [checkedDirname_eq, dirname] at h
  cases h
  cases hsplit : splitLast '/' path with
  | none =>
    exact Nat.pos_of_ne_zero fun hzero => hpath (String.length_eq_zero_iff.1 hzero)
  | some parts =>
    obtain ⟨front, back⟩ := parts
    have hlength := congrArg List.length (splitLast_eq_some_iff.1 hsplit).1
    rw [List.length_append, List.length_cons, String.length_toList, String.length_toList] at hlength
    show front.length < path.length
    omega

end Path

namespace Resolver

/-! ## Searches that may fail -/

/-- The answer of a search, or of another one if the first has none; either may fail. -/
def orSearch {α : Type} (first second : Option (Option α)) : Option (Option α) := do
  match ← first with
  | some answer => return some answer
  | none => second

@[simp] theorem orSearch_some {α : Type} (a b : Option α) :
    orSearch (some a) (some b) = some (a.or b) := by
  cases a <;> rfl

/-! ## Files -/

/-- The path without an ending, cut off by its size. -/
def checkedStem (ending path : String) : Option String := do
  let last ← Slice.minus? path.utf8ByteSize ending.utf8ByteSize
  Slice.cut? path 0 last

/-- The file for which a path names the output, if no cut fails. -/
def checkedSourceOf (r : Resolver) (path : String) : Option (Option String) :=
  sourceEndings.findSomeM? fun (ending, sources) =>
    if Path.endsWithAny [ending] (Path.lowerAscii path) then do
      let stem ← checkedStem ending path
      return r.findEnding stem sources
    else return none

/-- The file that a path means, if no cut fails. -/
def checkedLoadFile (r : Resolver) (path : String) : Option (Option String) :=
  orSearch (some (if r.namesSource path then r.findFile path else none))
    (orSearch (r.checkedSourceOf path) (some (r.findEnding path r.endings)))

/-- The file that a directory means, if no cut fails. -/
def checkedLoadDirectory (r : Resolver) (path : String) : Option (Option String) :=
  let entries := ((r.host.read? (path ++ "/package.json")).map manifestEntries).getD []
  orSearch
    (entries.findSomeM? fun entry =>
      let target := Path.join path entry
      orSearch (r.checkedLoadFile target) (some (r.loadIndex target)))
    (some (r.loadIndex path))

/-- The file that a path means, as a file or as a directory, if no cut fails. -/
def checkedLoad (r : Resolver) (path : String) : Option (Option String) :=
  orSearch (r.checkedLoadFile path) (r.checkedLoadDirectory path)

/-- Letters of ASCII are as wide in either case. -/
theorem utf8Size_toLower (c : Char) : c.toLower.utf8Size = c.utf8Size := by
  by_cases h : c.toNat < 0x80
  · have key : ∀ n < 0x80, (Char.ofNat n).toLower.utf8Size = (Char.ofNat n).utf8Size := by
      decide +kernel
    have hc := key c.toNat h
    rwa [Char.ofNat_toNat] at hc
  · rw [toLower_of_not_ascii h]

theorem utf8Len_map_toLower (cs : List Char) : utf8Len (cs.map Char.toLower) = utf8Len cs := by
  induction cs with
  | nil => rfl
  | cons c cs ih =>
    rw [List.map_cons, String.utf8Len_cons, String.utf8Len_cons, ih, utf8Size_toLower]

/-- An ending in either case can be cut off. -/
theorem checkedStem_eq {ending path : String}
    (h : Path.endsWithAny [ending] (Path.lowerAscii path) = true) :
    checkedStem ending path = some (dropEnd ending.length path) := by
  obtain ⟨e, he, front, hpath⟩ := Path.endsWithAny_iff.1 h
  obtain rfl := List.mem_singleton.1 he
  rw [Path.lowerAscii, String.toList_ofList] at hpath
  -- the ending is that of the path in small letters, which are as wide as the path's own
  obtain ⟨before, last, htext, -, hlast⟩ := List.map_eq_append_iff.1 hpath.symm
  have hbytes : path.utf8ByteSize = utf8Len before + e.utf8ByteSize := by
    rw [← String.utf8Len_toList, htext, String.utf8Len_append, ← utf8Len_map_toLower last, hlast,
      String.utf8Len_toList]
  have hlength : path.length = before.length + e.length := by
    rw [← String.length_toList, htext, List.length_append, ← String.length_toList, ← hlast,
      List.length_map]
  rw [checkedStem, hbytes, Slice.minus?_add, Option.bind_eq_bind, Option.bind_some,
    Slice.cut?_front htext, dropEnd, hlength, Nat.add_sub_cancel, htext, List.take_left]

theorem checkedSourceOf_eq (r : Resolver) (path : String) :
    r.checkedSourceOf path = some (r.sourceOf path) := by
  rw [checkedSourceOf, sourceOf, ← Option.pure_def, ← List.findSomeM?_pure]
  congr 1
  funext ⟨ending, sources⟩
  dsimp only
  split
  · next h => rw [checkedStem_eq h, Option.bind_eq_bind, Option.bind_some]
  · rfl

theorem checkedLoadFile_eq (r : Resolver) (path : String) :
    r.checkedLoadFile path = some (r.loadFile path) := by
  rw [checkedLoadFile, checkedSourceOf_eq, orSearch_some, orSearch_some, loadFile, Option.or_assoc]

theorem checkedLoadDirectory_eq (r : Resolver) (path : String) :
    r.checkedLoadDirectory path = some (r.loadDirectory path) := by
  simp only [checkedLoadDirectory, checkedLoadFile_eq, orSearch_some]
  rw [← Option.pure_def, List.findSomeM?_pure, Option.pure_def, orSearch_some, loadDirectory]

theorem checkedLoad_eq (r : Resolver) (path : String) :
    r.checkedLoad path = some (r.load path) := by
  rw [checkedLoad, checkedLoadFile_eq, checkedLoadDirectory_eq, orSearch_some, load]

/-! ## Aliases -/

/-- The part of a text between a front and an end that do not overlap, cut out by their sizes. -/
def checkedBetween (front back text : String) : Option (Option String) :=
  if front.utf8ByteSize + back.utf8ByteSize ≤ text.utf8ByteSize && Path.startsWith front text
      && Path.endsWithAny [back] text then do
    let last ← Slice.minus? text.utf8ByteSize back.utf8ByteSize
    let captured ← Slice.cut? text front.utf8ByteSize last
    return some captured
  else return none

/-- The better of an alias found so far and another one, if no cut fails. -/
def checkedBetterAlias (specifier : String) (best : Option (Nat × String × List String))
    (entry : String × List String) : Option (Option (Nat × String × List String)) :=
  match splitFirst '*' entry.1 with
  | none => return best
  | some (front, back) => do
    match ← checkedBetween front back specifier with
    | none => return best
    | some captured =>
      match best with
      | some (longest, _, _) =>
        if front.utf8ByteSize ≥ longest then return some (front.utf8ByteSize, captured, entry.2)
        else return best
      | none => return some (front.utf8ByteSize, captured, entry.2)

/-- The alias that a specifier matches, if no cut fails for any of the aliases. -/
def checkedMatchAlias (paths : SortedMap (List String)) (specifier : String) :
    Option (Option (String × List String)) := do
  let best ← paths.entries.foldlM (checkedBetterAlias specifier) none
  match paths.get? specifier with
  | some places => return some ("", places)
  | none => return best.map (·.2)

/-- The file of the alias that a specifier matches, if no cut fails. -/
def checkedLoadAlias (r : Resolver) (specifier : String) : Option (Option String) := do
  match ← checkedMatchAlias r.options.paths specifier with
  | none => return none
  | some (captured, places) =>
    let base := Path.normalize (r.options.baseUrl.getD ".")
    places.findSomeM? fun place => r.checkedLoad (Path.join base (fillStar captured place))

/-- What is between two texts is what they leave of a third one. -/
theorem between_eq_some_iff {front back text part : String} :
    between front back text = some part ↔
      text.toList = front.toList ++ part.toList ++ back.toList := by
  simp only [between, ← String.length_toList]
  constructor
  · intro h
    split at h
    · next hends =>
      simp only [Bool.and_eq_true, List.isPrefixOf_iff_prefix, List.isSuffixOf_iff_suffix,
        decide_eq_true_eq] at hends
      obtain ⟨⟨hfront, hback⟩, hfit⟩ := hends
      obtain ⟨middle, htext⟩ := Slice.exists_middle hfront hback (.inr hfit)
      cases h
      rw [htext]
      simp [List.append_assoc]
    · cases h
  · intro htext
    rw [htext, if_pos]
    · simp [List.append_assoc]
    · simp only [Bool.and_eq_true, List.isPrefixOf_iff_prefix, List.isSuffixOf_iff_suffix,
        decide_eq_true_eq]
      refine ⟨⟨?_, List.suffix_append _ _⟩, ?_⟩
      · rw [List.append_assoc]
        exact List.prefix_append _ _
      · simp only [List.length_append]
        omega

/-- The sizes of a front and an end fit into a text that has both exactly if something is between
them. -/
theorem fits_iff {front back text : String} :
    (decide (front.utf8ByteSize + back.utf8ByteSize ≤ text.utf8ByteSize) &&
        Path.startsWith front text && Path.endsWithAny [back] text) = true ↔
      ∃ part, between front back text = some part := by
  simp only [Path.startsWith, Path.endsWithAny_iff, Bool.and_eq_true, decide_eq_true_eq,
    List.isPrefixOf_iff_prefix, List.mem_singleton, exists_eq_left, between_eq_some_iff]
  constructor
  · rintro ⟨⟨hfit, hfront⟩, hback⟩
    obtain ⟨middle, htext⟩ :=
      Slice.exists_middle hfront hback (.inl (by simpa only [String.utf8Len_toList] using hfit))
    exact ⟨String.ofList middle, by rw [htext, String.toList_ofList]⟩
  · rintro ⟨part, htext⟩
    refine ⟨⟨?_, ?_⟩, ?_⟩
    · rw [← String.utf8Len_toList text, htext]
      simp only [String.utf8Len_append, String.utf8Len_toList]
      omega
    · rw [htext, List.append_assoc]
      exact List.prefix_append _ _
    · rw [htext]
      exact List.suffix_append _ _

/-- What is between two texts can be cut out. -/
theorem checkedBetween_eq (front back text : String) :
    checkedBetween front back text = some (between front back text) := by
  rw [checkedBetween]
  cases hbetween : between front back text with
  | none =>
    rw [if_neg]
    · rfl
    · rw [fits_iff, hbetween]
      rintro ⟨part, hpart⟩
      cases hpart
  | some part =>
    have htext := between_eq_some_iff.1 hbetween
    have hbytes : text.utf8ByteSize =
        utf8Len (front.toList ++ part.toList) + back.utf8ByteSize := by
      rw [← String.utf8Len_toList, htext, String.utf8Len_append, String.utf8Len_toList back]
    rw [if_pos (fits_iff.2 ⟨part, hbetween⟩), hbytes, Slice.minus?_add, Option.bind_eq_bind,
      Option.bind_some, ← String.utf8Len_toList front, Slice.cut?_middle htext,
      String.ofList_toList]
    rfl

theorem checkedBetterAlias_eq (specifier : String) (best : Option (Nat × String × List String))
    (entry : String × List String) :
    checkedBetterAlias specifier best entry = some (betterAlias specifier best entry) := by
  rw [checkedBetterAlias, betterAlias, capture]
  cases splitFirst '*' entry.1 with
  | none => rfl
  | some ends =>
    obtain ⟨front, back⟩ := ends
    simp only [checkedBetween_eq, Option.bind_eq_bind, Option.bind_some]
    cases between front back specifier with
    | none => rfl
    | some captured =>
      cases best with
      | none => rfl
      | some best =>
        obtain ⟨longest, captured', places⟩ := best
        simp only [Option.bind_some, Option.pure_def]
        split <;> rfl

theorem checkedMatchAlias_eq (paths : SortedMap (List String)) (specifier : String) :
    checkedMatchAlias paths specifier = some (matchAlias paths specifier) := by
  have hfold : paths.entries.foldlM (checkedBetterAlias specifier) none =
      some (paths.entries.foldl (betterAlias specifier) none) := by
    rw [← Option.pure_def, ← List.foldlM_pure]
    congr 1
    funext best entry
    exact checkedBetterAlias_eq specifier best entry
  rw [checkedMatchAlias, hfold, matchAlias]
  cases paths.get? specifier <;> rfl

theorem checkedLoadAlias_eq (r : Resolver) (specifier : String) :
    r.checkedLoadAlias specifier = some (r.loadAlias specifier) := by
  rw [checkedLoadAlias, checkedMatchAlias_eq, loadAlias]
  cases matchAlias r.options.paths specifier with
  | none => rfl
  | some found =>
    obtain ⟨captured, places⟩ := found
    simp only [checkedLoad_eq, Option.bind_eq_bind, Option.bind_some]
    exact List.findSomeM?_pure

/-! ## Packages -/

/-- The file of a package in the packages of one directory, if no cut fails. -/
def checkedLoadPackage (r : Resolver) (specifier dir : String) : Option (Option String) :=
  let packages := if dir.isEmpty then "node_modules" else dir ++ "/node_modules"
  orSearch (r.checkedLoad (packages ++ "/" ++ specifier))
    (r.checkedLoad (packages ++ "/@types/" ++ typesPackage specifier))

theorem checkedLoadPackage_eq (r : Resolver) (specifier dir : String) :
    r.checkedLoadPackage specifier dir = some (r.loadPackage specifier dir) := by
  simp only [checkedLoadPackage, checkedLoad_eq, orSearch_some, loadPackage]

/-- A directory and those above it, each cut off the one before. -/
def checkedDirectories (dir : String) : Option (List String) :=
  if hdir : dir = "" then some [dir]
  else
    match hup : Path.checkedDirname dir with
    | none => none
    | some above =>
      have : above.length < dir.length := Path.length_lt_of_checkedDirname hdir hup
      (checkedDirectories above).map (dir :: ·)
termination_by dir.length

/-- The directories above one are those above its own directory. -/
theorem checkedDirectories_of_ne {dir : String} (h : dir ≠ "") :
    checkedDirectories dir = (checkedDirectories (Path.dirname dir)).map (dir :: ·) := by
  rw [checkedDirectories, dif_neg h]
  split
  · next hnone => cases (Path.checkedDirname_eq dir).symm.trans hnone
  · next above hup =>
    rw [Option.some.inj ((Path.checkedDirname_eq dir).symm.trans hup)]

/-- The directories above the one with the given segments, last one first. -/
theorem checkedDirectories_ancestors {segments : List (List Char)}
    (h : ∀ segment ∈ segments, '/' ∉ segment ∧ segment ≠ []) :
    checkedDirectories (String.ofList (Path.joinChars '/' segments.reverse)) =
      some (ancestors segments) := by
  induction segments with
  | nil =>
    rw [checkedDirectories]
    rfl
  | cons last rest ih =>
    obtain ⟨hslash, hlast⟩ := h last List.mem_cons_self
    have hne : String.ofList (Path.joinChars '/' (last :: rest).reverse) ≠ "" := by
      rw [Ne, ← String.toList_inj, String.toList_ofList, List.reverse_cons]
      exact Path.joinChars_concat_ne_nil hlast
    rw [checkedDirectories_of_ne hne, List.reverse_cons, Path.dirname_joinChars hslash,
      ih fun segment hmem => h segment (List.mem_cons_of_mem _ hmem), Option.map_some, ancestors,
      List.reverse_cons]

/-- The directories above a normalized one are reached by cutting. -/
theorem checkedDirectories_eq (dir : String) :
    checkedDirectories (Path.normalize dir) = some (directoriesFrom dir) := by
  rw [directoriesFrom, ← checkedDirectories_ancestors, List.reverse_reverse, Path.normalize]
  intro segment hmem
  obtain ⟨hsplit, hne⟩ := Path.mem_of_mem_resolveSegments (List.mem_reverse.1 hmem)
  exact ⟨Path.not_mem_of_mem_splitChars hsplit, hne⟩

/-- The file of a package in the nearest directory that has it, if no cut fails. -/
def checkedLoadNearest (r : Resolver) (specifier dir : String) : Option (Option String) := do
  let directories ← checkedDirectories (Path.normalize dir)
  directories.findSomeM? (r.checkedLoadPackage specifier)

theorem checkedLoadNearest_eq (r : Resolver) (specifier dir : String) :
    r.checkedLoadNearest specifier dir = some (r.loadNearest specifier dir) := by
  rw [checkedLoadNearest, checkedDirectories_eq, Option.bind_eq_bind, Option.bind_some]
  have hsearch : r.checkedLoadPackage specifier = fun dir => pure (r.loadPackage specifier dir) :=
    funext fun dir => checkedLoadPackage_eq r specifier dir
  rw [hsearch, List.findSomeM?_pure]
  rfl

/-! ## Specifiers -/

/-- What a specifier of a file refers to, if no cut fails. -/
def checkedResolve (r : Resolver) (modules : List String) (file specifier : String) :
    Option (Option Resolution) := do
  let dir ← Path.checkedDirname file
  if isPath specifier then
    return (← r.checkedLoad (Path.join dir specifier)).map .file
  else if modules.contains specifier then return some (.ambient specifier)
  else
    return (← orSearch (r.checkedLoadAlias specifier)
      (r.checkedLoadNearest specifier dir)).map .file

/-- **No cut fails.** Resolution with cuts that may fail always answers what resolution does. -/
theorem checkedResolve_eq (r : Resolver) (modules : List String) (file specifier : String) :
    r.checkedResolve modules file specifier = some (r.resolve modules file specifier) := by
  rw [checkedResolve, Path.checkedDirname_eq, resolve]
  simp only [checkedLoad_eq, checkedLoadAlias_eq, checkedLoadNearest_eq, orSearch_some,
    Option.bind_eq_bind, Option.bind_some, Option.pure_def]
  split
  · rfl
  · split <;> rfl

end Resolver

end ScriptHost
