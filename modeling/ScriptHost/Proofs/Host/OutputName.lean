import ScriptHost.Proofs.Host.Canonical
/-!
# Names of outputs

The output for a file with types has the name of the file but for its ending.
Two files whose outputs have one name are spelled alike but for case, or one of
them is a file without types that is passed through under its own name.

- `lowerCase_lowerAscii`: the case of letters of ASCII does not matter in lower case.
- `Path.splitLast_eq_some_iff`: a text is split at one place only.
- `Path.outputName_eq_some_iff`: which file has which output.
- `Path.outputName_clash`: which files have one output.
-/

namespace ScriptHost

/-! ## Letters of ASCII -/

/-- Only letters of ASCII are changed. -/
theorem toLower_of_not_ascii {c : Char} (h : ¬ c.toNat < 0x80) : c.toLower = c := by
  refine dif_neg ?_
  rintro ⟨-, hle⟩
  have hle : c.toNat ≤ 'Z'.toNat := hle
  exact h (Nat.lt_of_le_of_lt hle (by decide))

/-- A letter of ASCII counts like the small one. -/
theorem lowerChar_toLower_of_ascii {c : Char} (h : c.toNat < 0x80) :
    c.toLower.toNat < 0x80 ∧ lowerChar c.toLower = lowerChar c ∧
      isCased c.toLower = isCased c ∧ isCaseIgnorable c.toLower = isCaseIgnorable c := by
  have key : ∀ n < 0x80, (Char.ofNat n).toLower.toNat < 0x80 ∧
      lowerChar (Char.ofNat n).toLower = lowerChar (Char.ofNat n) ∧
      isCased (Char.ofNat n).toLower = isCased (Char.ofNat n) ∧
      isCaseIgnorable (Char.ofNat n).toLower = isCaseIgnorable (Char.ofNat n) := by
    decide +kernel
  have hc := key c.toNat h
  rwa [Char.ofNat_toNat] at hc

theorem isCased_toLower (c : Char) : isCased c.toLower = isCased c := by
  by_cases h : c.toNat < 0x80
  · exact (lowerChar_toLower_of_ascii h).2.2.1
  · rw [toLower_of_not_ascii h]

theorem isCaseIgnorable_toLower (c : Char) : isCaseIgnorable c.toLower = isCaseIgnorable c := by
  by_cases h : c.toNat < 0x80
  · exact (lowerChar_toLower_of_ascii h).2.2.2
  · rw [toLower_of_not_ascii h]

/-- Whether a word goes on does not depend on changes that keep what has case and what counts for
it. -/
theorem nextIsCased_map {f : Char → Char} (hcased : ∀ c, isCased (f c) = isCased c)
    (hignorable : ∀ c, isCaseIgnorable (f c) = isCaseIgnorable c) (cs : List Char) :
    nextIsCased (cs.map f) = nextIsCased cs := by
  have hcomp : isCaseIgnorable ∘ f = isCaseIgnorable := funext hignorable
  rw [nextIsCased, nextIsCased, List.dropWhile_map, hcomp]
  cases cs.dropWhile isCaseIgnorable with
  | nil => rfl
  | cons c cs => exact hcased c

theorem nextIsCased_map_toLower (cs : List Char) :
    nextIsCased (cs.map Char.toLower) = nextIsCased cs :=
  nextIsCased_map isCased_toLower isCaseIgnorable_toLower cs

theorem lowerChars_map_toLower (before cs : List Char) :
    lowerChars (before.map Char.toLower) (cs.map Char.toLower) = lowerChars before cs := by
  induction cs generalizing before with
  | nil => rfl
  | cons c cs ih =>
    rw [List.map_cons, lowerChars, lowerChars, nextIsCased_map_toLower, nextIsCased_map_toLower,
      ← List.map_cons, ih (c :: before)]
    by_cases h : c.toNat < 0x80
    · obtain ⟨hascii, hlower, -⟩ := lowerChar_toLower_of_ascii h
      have hsigma : ∀ d : Char, d.toNat < 0x80 → (d.toNat == 0x3a3) = false ∧
          (d.toNat == 0x130) = false := by
        intro d hd
        constructor <;> rw [beq_eq_false_iff_ne] <;> omega
      simp only [hsigma c h, hsigma c.toLower hascii, hlower, Bool.false_eq_true, if_false]
    · rw [toLower_of_not_ascii h]

/-- **Lower case is the same for both cases of the letters of ASCII.** -/
theorem lowerCase_lowerAscii (text : String) :
    lowerCase (Path.lowerAscii text) = lowerCase text := by
  rw [lowerCase, Path.lowerAscii, String.toList_ofList]
  exact congrArg String.ofList (lowerChars_map_toLower [] text.toList)

namespace Path

/-! ## The last part of a text -/

/-- The parts before and after the last occurrence of a character. -/
theorem splitLast_eq_some_iff {c : Char} {text front back : String} :
    splitLast c text = some (front, back) ↔
      text.toList = front.toList ++ c :: back.toList ∧ c ∉ back.toList := by
  rw [splitLast]
  constructor
  · intro h
    split at h
    · cases h
    · next d before hdrop =>
      obtain ⟨rfl, rfl⟩ := Prod.mk.inj (Option.some.inj h)
      have hsplit := List.takeWhile_append_dropWhile (p := (· != c)) (l := text.toList.reverse)
      have hd : d = c := by
        have hhead := List.head?_dropWhile_not (· != c) text.toList.reverse
        rw [hdrop] at hhead
        simpa using hhead
      rw [hdrop, hd] at hsplit
      simp only [String.toList_ofList]
      constructor
      · have htext := List.reverse_eq_iff.1 hsplit.symm
        rw [List.reverse_append, List.reverse_cons, List.append_assoc] at htext
        exact htext
      · rw [List.mem_reverse]
        intro hmem
        simpa using List.all_eq_true.1 List.all_takeWhile c hmem
  · rintro ⟨htext, hback⟩
    have hpass : ∀ d ∈ back.toList.reverse, (d != c) = true := by
      intro d hd
      rw [bne_iff_ne]
      rintro rfl
      exact hback (List.mem_reverse.1 hd)
    have hreverse : text.toList.reverse = back.toList.reverse ++ c :: front.toList.reverse := by
      rw [htext]
      simp
    rw [hreverse, List.dropWhile_append_of_pos hpass, List.takeWhile_append_of_pos hpass,
      List.dropWhile_cons_of_neg (by simp), List.takeWhile_cons_of_neg (by simp)]
    simp

/-! ## Which file has which output -/

/-- The endings of files with types, with those of their outputs. -/
def typedEndings : List (String × String) :=
  [("ts", "js"), ("tsx", "jsx"), ("mts", "mjs"), ("cts", "cjs")]

/-- A file with types has its output under its name but for the ending; one without types is its
own output, where these are allowed. -/
theorem outputName_eq_some_iff {path name : String} {allowJs : Bool} :
    outputName path allowJs = some name ↔ isDeclaration path = false ∧
      ∃ stem ending, splitLast '.' path = some (stem, ending) ∧
        ((∃ e ∈ typedEndings, lowerAscii ending = e.1 ∧ stem ++ "." ++ e.2 = name) ∨
          allowJs = true ∧ lowerAscii ending ∈ typedEndings.map (·.2) ∧ path = name) := by
  rw [outputName]
  cases isDeclaration path with
  | true => simp [failure]
  | false =>
    cases hsplit : splitLast '.' path with
    | none => simp
    | some parts =>
      obtain ⟨stem, ending⟩ := parts
      simp only [Bool.false_eq_true, if_false, Option.bind_eq_bind, Option.bind_some,
        Option.pure_def, Option.some.injEq, Prod.mk.injEq, and_assoc, exists_and_left,
        exists_eq_left']
      -- One case for each ending, and one for all others.
      cases allowJs <;> split <;> simp_all [typedEndings, String.append_assoc, failure]

/-- The ending of an output has no dot in it, and it tells that of the file. -/
theorem typedEndings_spec : ∀ e ∈ typedEndings, '.' ∉ e.2.toList ∧ '\\' ∉ e.2.toList ∧
    ∀ e' ∈ typedEndings, e.2 = e'.2 → e = e' := by
  decide

/-- The ending of an output is not that of a file with types. -/
theorem typedEndings_apart :
    ∀ e ∈ typedEndings, ∀ e' ∈ typedEndings, lowerAscii e.2 ≠ e'.1 := by
  decide

/-- The output for a file with types is split at the dot in front of its ending. -/
theorem splitLast_output {stem : String} {e : String × String} (he : e ∈ typedEndings) :
    splitLast '.' (stem ++ "." ++ e.2) = some (stem, e.2) := by
  refine splitLast_eq_some_iff.2 ⟨?_, (typedEndings_spec e he).1⟩
  simp

/-- Two texts with one front whose last parts differ in the case of letters of ASCII at most differ
in nothing else. -/
theorem lowerAscii_eq_of_splitLast {c : Char} {a b front back back' : String}
    (ha : splitLast c a = some (front, back)) (hb : splitLast c b = some (front, back'))
    (hback : lowerAscii back = lowerAscii back') : lowerAscii a = lowerAscii b := by
  rw [lowerAscii, lowerAscii, ← String.toList_inj, String.toList_ofList, String.toList_ofList]
    at hback ⊢
  rw [(splitLast_eq_some_iff.1 ha).1, (splitLast_eq_some_iff.1 hb).1]
  simp only [List.map_append, List.map_cons, hback]

/-- **Which files have one output.** They are spelled alike but for case, or files without types are
allowed and one of the two is such a file, under the name of the output for the other. -/
theorem outputName_clash {first second name : String} {allowJs : Bool}
    (hfirst : outputName first allowJs = some name)
    (hsecond : outputName second allowJs = some name) :
    lowerCase first = lowerCase second ∨ allowJs = true ∧
      (outputName first false = some second ∨ outputName second false = some first) := by
  obtain ⟨hdecl, stem, ending, hsplit, hkind⟩ := outputName_eq_some_iff.1 hfirst
  obtain ⟨hdecl', stem', ending', hsplit', hkind'⟩ := outputName_eq_some_iff.1 hsecond
  rcases hkind with ⟨e, he, hending, hname⟩ | ⟨hallowed, hscript, hown⟩
  · rcases hkind' with ⟨e', he', hending', hname'⟩ | ⟨hallowed, -, hown'⟩
    · -- Both have types: the output is split where both are, and its ending tells theirs.
      have hparts := (splitLast_output he).symm.trans
        ((hname.trans hname'.symm) ▸ splitLast_output he')
      obtain ⟨rfl, hsame⟩ := Prod.mk.inj (Option.some.inj hparts)
      obtain rfl := (typedEndings_spec e he).2.2 e' he' hsame
      have hascii := lowerAscii_eq_of_splitLast hsplit hsplit' (hending.trans hending'.symm)
      refine .inl ?_
      rw [← lowerCase_lowerAscii first, hascii, lowerCase_lowerAscii]
    · refine .inr ⟨hallowed, .inl ?_⟩
      rw [hown']
      exact outputName_eq_some_iff.2 ⟨hdecl, stem, ending, hsplit, .inl ⟨e, he, hending, hname⟩⟩
  · rcases hkind' with ⟨e', he', hending', hname'⟩ | ⟨-, -, hown'⟩
    · refine .inr ⟨hallowed, .inr ?_⟩
      rw [hown]
      exact outputName_eq_some_iff.2
        ⟨hdecl', stem', ending', hsplit', .inl ⟨e', he', hending', hname'⟩⟩
    · exact .inl (by rw [hown, hown'])

/-- What has types has the same output where files without types are allowed. -/
theorem outputName_of_false {path name : String} (h : outputName path false = some name)
    (allowJs : Bool) : outputName path allowJs = some name := by
  obtain ⟨hdecl, stem, ending, hsplit, htyped | ⟨hallowed, -⟩⟩ := outputName_eq_some_iff.1 h
  · exact outputName_eq_some_iff.2 ⟨hdecl, stem, ending, hsplit, .inl htyped⟩
  · cases hallowed

/-- What has no types is its own output. -/
theorem eq_of_outputName_false {path name : String} {allowJs : Bool}
    (h : outputName path allowJs = some name) (hscript : outputName path false = none) :
    name = path := by
  obtain ⟨hdecl, stem, ending, hsplit, htyped | ⟨-, -, hown⟩⟩ := outputName_eq_some_iff.1 h
  · have hsome : outputName path false = some name :=
      outputName_eq_some_iff.2 ⟨hdecl, stem, ending, hsplit, .inl htyped⟩
    cases hscript.symm.trans hsome
  · exact hown.symm

/-- The output for a file with types is no file with types. -/
theorem outputName_output {path name : String} (h : outputName path false = some name) :
    outputName name false = none := by
  obtain ⟨-, stem, ending, -, ⟨e, he, -, rfl⟩ | ⟨hallowed, -⟩⟩ := outputName_eq_some_iff.1 h
  · refine Option.eq_none_iff_forall_ne_some.2 fun other hother => ?_
    obtain ⟨-, stem', ending', hsplit, ⟨e', he', hending, -⟩ | ⟨hallowed, -⟩⟩ :=
      outputName_eq_some_iff.1 hother
    · obtain ⟨-, rfl⟩ := Prod.mk.inj (Option.some.inj ((splitLast_output he).symm.trans hsplit))
      exact typedEndings_apart e he e' he' hending
    · cases hallowed
  · cases hallowed

/-- The output for a file with slashes in its path has slashes. -/
theorem canonical_outputName {path name : String} {allowJs : Bool}
    (hpath : canonical path = path) (h : outputName path allowJs = some name) :
    canonical name = name := by
  obtain ⟨-, stem, ending, hsplit, ⟨e, he, -, rfl⟩ | ⟨-, -, rfl⟩⟩ := outputName_eq_some_iff.1 h
  · rw [canonical_eq_self_iff] at hpath ⊢
    rw [(splitLast_eq_some_iff.1 hsplit).1] at hpath
    have hstem : '\\' ∉ stem.toList := fun hmem => hpath (List.mem_append_left _ hmem)
    have hending : '\\' ∉ e.2.toList := (typedEndings_spec e he).2.1
    simp [hstem, hending]
  · exact hpath

/-! ## Separators -/

/-- A slash for a backslash. -/
def toSlash (c : Char) : Char := if c == '\\' then '/' else c

theorem toSlash_of_ne {c : Char} (h : c ≠ '\\') : toSlash c = c := if_neg (by simpa using h)

/-- What a slash and a backslash have in common keeps slashes for backslashes. -/
theorem apply_toSlash {α : Type} {f : Char → α} (h : f '/' = f '\\') (c : Char) :
    f (toSlash c) = f c := by
  by_cases hc : c = '\\'
  · subst hc
    exact h
  · rw [toSlash_of_ne hc]

/-- Characters are lowered around separators, whichever these are. -/
theorem lowerChars_map_toSlash (before cs : List Char) :
    lowerChars (before.map toSlash) (cs.map toSlash) = (lowerChars before cs).map toSlash := by
  have hnext := nextIsCased_map (apply_toSlash (f := isCased) (by decide))
    (apply_toSlash (f := isCaseIgnorable) (by decide))
  induction cs generalizing before with
  | nil => rfl
  | cons c cs ih =>
    rw [List.map_cons, lowerChars, lowerChars, hnext, hnext, ← List.map_cons, ih (c :: before),
      List.map_append]
    congr 1
    by_cases hc : c = '\\'
    · subst hc
      rfl
    · have hlow : lowerChar c ≠ '\\' := fun heq => hc (lowerChar_eq_separator_iff.1 heq)
      rw [toSlash_of_ne hc]
      split
      · split <;> decide
      · split
        · decide
        · rw [List.map_singleton, toSlash_of_ne hlow]

/-- Separators have no case. -/
theorem lowerCase_canonical (path : String) :
    lowerCase (canonical path) = canonical (lowerCase path) := by
  show String.ofList (lowerChars [] (String.ofList (path.toList.map toSlash)).toList) =
    String.ofList ((String.ofList (lowerChars [] path.toList)).toList.map toSlash)
  rw [String.toList_ofList, String.toList_ofList]
  exact congrArg String.ofList (lowerChars_map_toSlash [] path.toList)

/-! ## Declarations -/

/-- Separators are no letters. -/
theorem lowerAscii_canonical (path : String) :
    lowerAscii (canonical path) = canonical (lowerAscii path) := by
  simp only [lowerAscii, canonical, String.toList_ofList, List.map_map]
  refine congrArg String.ofList (List.map_congr_left fun c _ => ?_)
  have hlower : c.toLower = '\\' ↔ c = '\\' := by
    by_cases h : c.toNat < 0x80
    · exact toLower_eq_separator_iff h
    · rw [toLower_of_not_ascii h]
  by_cases hsep : c = '\\'
  · subst hsep
    decide
  · simp [hsep, hlower]

theorem endsWithAny_iff {endings : List String} {text : String} :
    endsWithAny endings text = true ↔ ∃ e ∈ endings, e.toList <:+ text.toList := by
  simp only [endsWithAny, List.any_eq_true, List.isSuffixOf_iff_suffix]

/-- A path ends as its last part does. -/
theorem endsWithAny_append {endings : List String} {ending : String}
    (h : endsWithAny endings (lowerAscii ending) = true) (path : String) :
    endsWithAny endings (lowerAscii (path ++ ending)) = true := by
  rw [endsWithAny_iff] at h ⊢
  obtain ⟨e, he, hsuffix⟩ := h
  refine ⟨e, he, hsuffix.trans ?_⟩
  simp [lowerAscii]

/-- Declarations have no output. -/
theorem outputName_of_isDeclaration {path : String} (h : isDeclaration path = true)
    (allowJs : Bool) : outputName path allowJs = none := by
  rw [outputName, if_pos h]
  rfl

/-- What ends like a declaration is one. -/
theorem isDeclaration_of_suffix {ending path : String} (h : ending.toList <:+ path.toList)
    (hending : isDeclaration ending = true) : isDeclaration path = true := by
  rw [isDeclaration, endsWithAny_iff] at hending ⊢
  obtain ⟨e, he, hsuffix⟩ := hending
  refine ⟨e, he, hsuffix.trans ?_⟩
  rw [lowerAscii, lowerAscii, String.toList_ofList, String.toList_ofList]
  exact h.map _

/-- A path ends alike with slashes in it. -/
theorem endsWithAny_canonical {endings : List String} {path : String}
    (hslash : ∀ e ∈ endings, canonical e = e) (h : endsWithAny endings (lowerAscii path) = true) :
    endsWithAny endings (lowerAscii (canonical path)) = true := by
  rw [endsWithAny_iff] at h ⊢
  obtain ⟨e, he, hsuffix⟩ := h
  refine ⟨e, he, ?_⟩
  rw [lowerAscii_canonical, ← hslash e he, canonical, canonical, String.toList_ofList,
    String.toList_ofList]
  exact hsuffix.map _

/-- A declaration is one with slashes in its path. -/
theorem isDeclaration_canonical {path : String} (h : isDeclaration path = true) :
    isDeclaration (canonical path) = true :=
  endsWithAny_canonical (by decide) h

end Path

end ScriptHost
