import Mathlib.Data.List.Basic
import ScriptHost.Check.Imports
/-!
# Imports for the effects of a file

An import declaration may name no member of the file that it leads to, which is
then imported for its effects alone. There is no member that could be missing,
but the file is still asked whether members can be taken from it. So a script
with types is reported, and no other file is.

- `Node.isBareImport`: an import declaration that names no member.
- `Program.checkMembers_bare`: what the check of its members reports.
- `Program.checkImports_bare`: what it adds to the errors of its file.
-/

namespace ScriptHost

/-! ## Declarations without members -/

/-- Whether an item is an import declaration that names no member. It may still give a name to the
module as a whole. -/
def Node.isBareImport (item : Node) : Bool :=
  (item.form matches .importDecl _)
    && (item.child 0).items.all fun specifier => (ImportedMember.ofImport specifier).isNone

/-- An import declaration without members takes none from the module of its specifier. -/
theorem Node.importedMembers_of_isBareImport {item : Node} (h : item.isBareImport = true) :
    item.importedMembers = some (item.child 1, []) ∧ item.specifier? = some (item.child 1) := by
  rw [isBareImport, Bool.and_eq_true] at h
  obtain ⟨hform, hnone⟩ := h
  have hmembers : (item.child 0).items.filterMap ImportedMember.ofImport = [] := by
    refine List.filterMap_eq_nil_iff.2 fun specifier hspecifier => ?_
    exact Option.isNone_iff_eq_none.1 (List.all_eq_true.1 hnone specifier hspecifier)
  cases hitem : item.form with
  | importDecl isTypeOnly =>
    constructor
    · simp only [importedMembers, hitem, hmembers]
    · simp only [specifier?, hitem]
  | _ => simp [hitem] at hform

/-- The file with other items. -/
def SourceFile.withItems (file : SourceFile) (items : List Node) : SourceFile :=
  { file with module := file.module.withChildren items }

theorem SourceFile.items_withItems (file : SourceFile) (items : List Node) :
    (file.withItems items).items = items := by
  rw [withItems, SourceFile.items]
  cases file.module with
  | mk form span children => rfl

namespace Program

/-- What the specifier of an import declaration refers to. -/
def importTarget? (p : Program) (file : SourceFile) (item : Node) : Option Resolution :=
  p.resolved file.name ((item.child 1).strValue?.getD "")

variable {p : Program} {file found : SourceFile} {before after : List Node} {item : Node}
  {target : String}

/-! ## What is reported -/

/-- **The check of no members** reports that the file is a script with types, if it is one. -/
theorem checkMembers_bare (hbare : item.isBareImport = true)
    (htarget : p.importTarget? file item = some (.file target))
    (hloaded : p.file? target = some found) :
    p.checkMembers file item =
      if found.isModule || found.isJavaScript || found.isDeclaration then []
      else [(ImportError.notAModule target).report file.name (item.child 1).span] := by
  obtain ⟨hmembers, -⟩ := Node.importedMembers_of_isBareImport hbare
  rw [importTarget?] at htarget
  have hcheck : p.checkMembers file item =
      if !isImportable found then
        [(ImportError.notAModule target).report file.name (item.child 1).span]
      else [] := by
    -- what the file exports does not matter, as no member is looked for
    simp only [checkMembers, hmembers, htarget, hloaded, Option.any_some, List.filterMap_nil,
      ite_self]
  rw [hcheck, isImportable]
  cases found.isModule || found.isJavaScript || found.isDeclaration <;> rfl

/-- A specifier that leads somewhere adds no error about specifiers. -/
theorem checkSpecifiers_bare (hitems : file.items = before ++ item :: after)
    (hbare : item.isBareImport = true)
    (htarget : p.importTarget? file item = some (.file target)) :
    p.checkSpecifiers file = p.checkSpecifiers (file.withItems (before ++ after)) := by
  obtain ⟨-, hspecifier⟩ := Node.importedMembers_of_isBareImport hbare
  rw [importTarget?] at htarget
  have hnodes : file.specifierNodes =
      before.filterMap Node.specifier? ++ item.child 1 :: after.filterMap Node.specifier? := by
    rw [SourceFile.specifierNodes, hitems, List.filterMap_append,
      List.filterMap_cons_some hspecifier]
  have hothers : (file.withItems (before ++ after)).specifierNodes =
      before.filterMap Node.specifier? ++ after.filterMap Node.specifier? := by
    rw [SourceFile.specifierNodes, SourceFile.items_withItems, List.filterMap_append]
  rw [checkSpecifiers, checkSpecifiers, hnodes, hothers, List.filterMap_append,
    List.filterMap_append]
  refine congrArg (_ ++ ·) (List.filterMap_cons_none ?_)
  simp only [htarget, Option.isNone_some, Bool.false_eq_true, if_false]

/-- **What an import without members adds** to the errors of its file, if its specifier leads to a
loaded file: that this file is not a module, if it is a script with types, and otherwise nothing.
All other errors are those of the file without the declaration, in their order. -/
theorem checkImports_bare (p : Program) {file found : SourceFile} {before after : List Node}
    {item : Node} {target : String} (hitems : file.items = before ++ item :: after)
    (hbare : item.isBareImport = true)
    (htarget : p.importTarget? file item = some (.file target))
    (hloaded : p.file? target = some found) :
    ∃ head tail, p.checkImports (file.withItems (before ++ after)) = head ++ tail ∧
      p.checkImports file = head ++
        (if found.isModule || found.isJavaScript || found.isDeclaration then []
          else [(ImportError.notAModule target).report file.name (item.child 1).span]) ++ tail := by
  refine ⟨p.checkSpecifiers file ++ before.flatMap (p.checkMembers file),
    after.flatMap (p.checkMembers file), ?_, ?_⟩
  · -- the checks of the other items know the file by its name alone
    have hmembers : p.checkMembers (file.withItems (before ++ after)) = p.checkMembers file := rfl
    rw [checkImports, SourceFile.items_withItems, hmembers,
      ← checkSpecifiers_bare hitems hbare htarget, List.flatMap_append, List.append_assoc]
  · rw [checkImports, hitems, List.flatMap_append, List.flatMap_cons,
      checkMembers_bare hbare htarget hloaded]
    simp only [List.append_assoc]

/-! ## Two programs -/

/-- A file that imports a script for its effects, and a member that a module lacks. -/
def effectFiles : VirtualFiles :=
  VirtualFiles.ofMaps
    (.ofList [
      ("a.ts", "import { x } from './module'; import './script'; import { y } from './module';"),
      ("module.ts", "export const z = 1;"),
      ("script.ts", "1;")]) ∅ {}

/-- The error about the script stands between those about the members. -/
theorem effectFiles_added : ∃ file first item last script head tail,
    file.items = [first] ++ item :: [last] ∧ item.isBareImport = true ∧
    (load effectFiles.host {} ["a.ts"]).importTarget? file item = some (.file "script.ts") ∧
    (load effectFiles.host {} ["a.ts"]).file? "script.ts" = some script ∧
    (load effectFiles.host {} ["a.ts"]).checkImports (file.withItems ([first] ++ [last])) =
      head ++ tail ∧
    (load effectFiles.host {} ["a.ts"]).checkImports file =
      head ++ [(ImportError.notAModule "script.ts").report file.name (item.child 1).span] ++ tail ∧
    (head ++ tail).map (·.code) = [.number 2305, .number 2305] := by
  have hfound : ((load effectFiles.host {} ["a.ts"]).file? "a.ts").any (fun file =>
      decide (file.items.length = 3 ∧ (file.items.getD 1 default).isBareImport = true ∧
        (load effectFiles.host {} ["a.ts"]).importTarget? file (file.items.getD 1 default) =
          some (.file "script.ts") ∧
        ((load effectFiles.host {} ["a.ts"]).checkImports
          (file.withItems (file.items.eraseIdx 1))).map (·.code) =
            [.number 2305, .number 2305])) = true := by
    decide +kernel
  have hscript : ((load effectFiles.host {} ["a.ts"]).file? "script.ts").any (fun script =>
      !(script.isModule || script.isJavaScript || script.isDeclaration)) = true := by
    decide +kernel
  obtain ⟨file, -, hfound⟩ := (Option.any_eq_true _ _).1 hfound
  obtain ⟨script, hloaded, hscript⟩ := (Option.any_eq_true _ _).1 hscript
  rw [Bool.not_eq_true'] at hscript
  obtain ⟨hlength, hbare, htarget, hcodes⟩ := of_decide_eq_true hfound
  obtain ⟨first, item, last, hitems⟩ := List.length_eq_three.1 hlength
  rw [hitems, List.getD_cons_succ, List.getD_cons_zero] at hbare htarget
  rw [hitems] at hcodes
  rw [← List.singleton_append] at hitems
  obtain ⟨head, tail, hothers, hall⟩ := checkImports_bare _ hitems hbare htarget hloaded
  rw [hscript, if_neg Bool.false_ne_true] at hall
  have hcodes' : (head ++ tail).map (·.code) = [.number 2305, .number 2305] := hothers ▸ hcodes
  exact ⟨file, first, item, last, script, head, tail, hitems, hbare, htarget, hloaded, hothers,
    hall, hcodes'⟩

/-- A file that imports a script for its effects. -/
def scriptFiles : VirtualFiles :=
  VirtualFiles.ofMaps (.ofList [("a.ts", "import './b';"), ("b.ts", "1;")]) ∅ {}

/-- An import of a loaded script for its effects is an error. -/
theorem scriptFiles_reported : ∃ file item script,
    file.items = [item] ∧ item.isBareImport = true ∧
    (load scriptFiles.host {} ["a.ts"]).importTarget? file item = some (.file "b.ts") ∧
    (load scriptFiles.host {} ["a.ts"]).file? "b.ts" = some script ∧
    (load scriptFiles.host {} ["a.ts"]).checkImports file =
      [(ImportError.notAModule "b.ts").report file.name (item.child 1).span] := by
  have hfound : ((load scriptFiles.host {} ["a.ts"]).file? "a.ts").any (fun file =>
      decide (file.items.length = 1 ∧ (file.items.getD 0 default).isBareImport = true ∧
        (load scriptFiles.host {} ["a.ts"]).importTarget? file (file.items.getD 0 default) =
          some (.file "b.ts") ∧
        (load scriptFiles.host {} ["a.ts"]).checkSpecifiers file = [])) = true := by
    decide +kernel
  have hscript : ((load scriptFiles.host {} ["a.ts"]).file? "b.ts").any (fun script =>
      !(script.isModule || script.isJavaScript || script.isDeclaration)) = true := by
    decide +kernel
  obtain ⟨file, -, hfound⟩ := (Option.any_eq_true _ _).1 hfound
  obtain ⟨script, hloaded, hscript⟩ := (Option.any_eq_true _ _).1 hscript
  rw [Bool.not_eq_true'] at hscript
  obtain ⟨hlength, hbare, htarget, hspecifiers⟩ := of_decide_eq_true hfound
  obtain ⟨item, hitems⟩ := List.length_eq_one_iff.1 hlength
  rw [hitems, List.getD_cons_zero] at hbare htarget
  refine ⟨file, item, script, hitems, hbare, htarget, hloaded, ?_⟩
  rw [checkImports, hspecifiers, hitems, List.flatMap_singleton, List.nil_append,
    checkMembers_bare hbare htarget hloaded, hscript, if_neg Bool.false_ne_true]

end Program

end ScriptHost
