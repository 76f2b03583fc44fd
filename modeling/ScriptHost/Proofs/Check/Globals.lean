import ScriptHost.Proofs.Check.Names
import ScriptHost.Proofs.Program.Complete
import ScriptHost.Proofs.Source.Declared
/-!
# Names that are declared for the whole program

A script declares its names for the whole program, and any file does so with
blocks of global declarations and with the name that it exports its namespace
as. It does not matter in which order the files were loaded: a name that one of
them declares in such a way is an error in none. A declaration in a block of
global ones that stands behind the word `export` is passed over.

- `GlobalForm`, `Node.DeclaresGlobally`: an item declares a name for the whole program.
- `Ambient.mem_globals_ofItem_iff`: what is found in one item.
- `Program.Loaded.declares_iff`: what is found in the files of a program.
- `Program.load_knowsGlobals`: which names are known, and which errors are left.
-/

namespace ScriptHost

/-! ## One item -/

/-- The forms in which an item declares a name for the whole program. -/
inductive GlobalForm where
  /-- An item of a script declares the name. -/
  | script
  /-- A declaration in a block of global ones. -/
  | block
  /-- Such a declaration behind the word `export`. -/
  | exported
  /-- The name is that of the namespace as which a module is exported. -/
  | namespaceExport
deriving DecidableEq

namespace Node

/-- A node with a name is an identifier. -/
theorem exists_of_identName? {id : Node} {name : String} (h : id.identName? = some name) :
    ∃ scope isOptional span parts, id = mk (.ident name scope isOptional) span parts := by
  unfold identName? at h
  split at h
  · cases h
    exact ⟨_, _, _, _, rfl⟩
  · cases h

/-- A block of global declarations, with its statements. -/
inductive IsGlobalBlock : Node → List Node → Prop where
  | mk {isDeclare : Bool} {span blockSpan : Span} {name : Node} {stmts : List Node}
    (hname : name.identName?.isSome = true) :
    IsGlobalBlock (mk (.moduleDecl isDeclare true) span [name, mk .moduleBlock blockSpan stmts])
      stmts

/-- An item of a file declares a name for the whole program. -/
inductive DeclaresGlobally (isScript : Bool) (item : Node) (name : String) : GlobalForm → Prop where
  | declared (hscript : isScript = true)
    (hform : ∀ isDeclare isGlobal, item.form ≠ .moduleDecl isDeclare isGlobal)
    (hdecl : item.Declares name) : DeclaresGlobally isScript item name .script
  | space (hscript : isScript = true) {isDeclare : Bool} {span : Span} {id body : Node}
    (hitem : item = mk (.moduleDecl isDeclare false) span [id, body])
    (hname : id.identName? = some name) : DeclaresGlobally isScript item name .script
  | block {stmts : List Node} (hblock : item.IsGlobalBlock stmts) {decl : Node}
    (hmem : decl ∈ stmts) (hdecl : decl.Declares name) : DeclaresGlobally isScript item name .block
  | exported {stmts : List Node} (hblock : item.IsGlobalBlock stmts) {stmt : Node}
    (hmem : stmt ∈ stmts) (hform : stmt.form = .exportDecl) (hdecl : (stmt.child 0).Declares name) :
    DeclaresGlobally isScript item name .exported
  | namespaceExport (hform : item.form = .exportNamespace)
    (hname : (item.child 0).identName? = some name) :
    DeclaresGlobally isScript item name .namespaceExport

end Node

namespace Ambient

variable {name : String}

theorem globals_foldl_append (a : Ambient) (more : List Ambient) :
    (more.foldl append a).globals = a.globals ++ more.flatMap globals := by
  induction more generalizing a with
  | nil => simp
  | cons b more ih =>
    rw [List.foldl_cons, ih, List.flatMap_cons, ← List.append_assoc]
    rfl

theorem mem_globals_block_iff {stmts : List Node} :
    name ∈ (stmts.filter Node.isDeclaration).flatMap Node.declaredNames ↔
      ∃ decl ∈ stmts, decl.Declares name := by
  rw [List.mem_flatMap]
  constructor
  · rintro ⟨decl, hmem, hname⟩
    exact ⟨decl, (List.mem_filter.1 hmem).1, Node.mem_declaredNames_iff.1 hname⟩
  · rintro ⟨decl, hmem, hdecl⟩
    exact ⟨decl, List.mem_filter.2 ⟨hmem, hdecl.isDeclaration⟩, Node.mem_declaredNames_iff.2 hdecl⟩

/-- What is found in a namespace or in a module that is declared by its name: the name of the
namespace, in a script, and what a block of global declarations declares. -/
theorem declaresGlobally_of_mem_ofModuleDecl {isScript : Bool} {item : Node}
    (h : name ∈ (ofModuleDecl isScript item).globals) :
    ∃ form, form ≠ .exported ∧ item.DeclaresGlobally isScript name form := by
  unfold ofModuleDecl at h
  split at h
  case h_2 => cases h
  case h_1 isDeclare isGlobal span id body =>
    split at h
    -- a module that is named by a text declares no name
    case h_1 => cases h
    case h_3 => cases h
    case h_2 text scope isOptional hid =>
      have hname : id.identName? = some text := by
        cases id
        cases hid
        rfl
      split_ifs at h with hglobal hbody hscript
      · obtain rfl := hglobal
        obtain ⟨form, blockSpan, stmts⟩ := body
        cases form <;> try cases hbody
        obtain ⟨decl, hmem, hdecl⟩ := mem_globals_block_iff.1 h
        refine ⟨.block, nofun, .block (.mk ?_) hmem hdecl⟩
        rw [hname, Option.isSome_some]
      · cases h
      · rw [Bool.not_eq_true] at hglobal
        obtain rfl := hglobal
        obtain rfl := List.mem_singleton.1 h
        exact ⟨.script, nofun, .space hscript rfl hname⟩
      · cases h

/-- **What is found in one item**: the names that it declares for the whole program, but for those
behind the word `export`. -/
theorem mem_globals_ofItem_iff {isScript : Bool} {item : Node} :
    name ∈ (ofItem isScript item).globals ↔
      ∃ form, form ≠ .exported ∧ item.DeclaresGlobally isScript name form := by
  constructor
  · intro h
    unfold ofItem at h
    split at h
    · exact declaresGlobally_of_mem_ofModuleDecl h
    · next hform => exact ⟨.namespaceExport, nofun, .namespaceExport hform (Option.mem_toList.1 h)⟩
    · next hnot _ =>
      split at h
      · next hscript =>
        have hdecl := Node.mem_declaredNames_iff.1 h
        exact ⟨.script, nofun, .declared (Bool.and_eq_true_iff.1 hscript).1 hnot hdecl⟩
      · cases h
  · rintro ⟨form, hform, hdeclares⟩
    cases hdeclares with
    | declared hscript hnot hdecl =>
      have hlisted := Node.mem_declaredNames_iff.2 hdecl
      unfold ofItem
      split
      · next heq => exact absurd heq (hnot _ _)
      · next heq =>
        have hdecl := hdecl.isDeclaration
        rw [Node.isDeclaration, heq] at hdecl
        cases hdecl
      · rwa [if_pos (Bool.and_eq_true_iff.2 ⟨hscript, hdecl.isDeclaration⟩)]
    | space hscript hitem hname =>
      obtain ⟨scope, isOptional, span, parts, rfl⟩ := Node.exists_of_identName? hname
      rw [hitem, hscript]
      exact List.mem_singleton.2 rfl
    | block hblock hmem hdecl =>
      obtain ⟨hsome⟩ := hblock
      obtain ⟨text, hname⟩ := Option.isSome_iff_exists.1 hsome
      obtain ⟨scope, isOptional, span, parts, rfl⟩ := Node.exists_of_identName? hname
      exact mem_globals_block_iff.2 ⟨_, hmem, hdecl⟩
    | exported => exact absurd rfl hform
    | namespaceExport hexport hname =>
      rw [ofItem, hexport]
      exact Option.mem_toList.2 hname

/-- What a file declares for the whole program is what its items declare. -/
theorem globals_ofFile (file : SourceFile) :
    (ofFile file).globals =
      file.items.flatMap fun item => (ofItem (!file.isModule) item).globals := by
  rw [ofFile, globals_foldl_append, List.nil_append, List.flatMap_map]

theorem globals_foldl_add (files : List SourceFile) :
    (files.foldl add {}).globals = files.flatMap fun file => (ofFile file).globals := by
  have hmap : files.foldl add {} = (files.map ofFile).foldl append {} := by
    rw [List.foldl_map]
    rfl
  rw [hmap, globals_foldl_append, List.nil_append, List.flatMap_map]

end Ambient

namespace Program

/-! ## Programs -/

/-- One of the files of a program declares a name for the whole program. -/
def DeclaresGlobally (p : Program) (name : String) (form : GlobalForm) : Prop :=
  ∃ file ∈ p.files, ∃ item ∈ file.items, item.DeclaresGlobally (!file.isModule) name form

/-- A name is known everywhere: it is built in, or one of the files declares it for the whole
program in a form that is found. -/
def Knows (p : Program) (name : String) : Prop :=
  name ∈ Ambient.builtin ∨ ∃ form, form ≠ .exported ∧ p.DeclaresGlobally name form

variable {p : Program} {name : String}

theorem not_knows_iff : ¬ p.Knows name ↔
    name ∉ Ambient.builtin ∧ ∀ form, p.DeclaresGlobally name form → form = .exported := by
  rw [Knows, not_or, not_exists]
  refine and_congr_right fun _ => forall_congr' fun form => ?_
  rw [not_and', not_not]

/-- **What is found in the files of a program**, in whatever order they were loaded. -/
theorem Loaded.declares_iff {c : Setting} (h : p.Loaded c) :
    p.ambient.declares name = true ↔ p.Knows name := by
  have hglobals : name ∈ p.ambient.globals ↔
      ∃ form, form ≠ .exported ∧ p.DeclaresGlobally name form := by
    -- each file adds its names to those before, so the order of the files is lost
    rw [h.holds.ambient, ← h.holds.files, Ambient.globals_foldl_add, List.mem_flatMap]
    simp only [Ambient.globals_ofFile, List.mem_flatMap, Ambient.mem_globals_ofItem_iff]
    constructor
    · rintro ⟨file, hfile, item, hitem, form, hform, hdeclares⟩
      exact ⟨form, hform, file, hfile, item, hitem, hdeclares⟩
    · rintro ⟨form, hform, file, hfile, item, hitem, hdeclares⟩
      exact ⟨file, hfile, item, hitem, form, hform, hdeclares⟩
  rw [Ambient.declares, Bool.or_eq_true, List.contains_iff_mem, List.contains_iff_mem, hglobals]
  rfl

/-- What a program knows about the names that its files declare for all of it. -/
structure KnowsGlobals (p : Program) : Prop where
  /-- The names that are declared for the whole program are those that are known. -/
  declares : ∀ name, p.ambient.declares name = true ↔ p.Knows name
  /-- No error of any file is about a name that a file declares in a form that is found. -/
  unreported : ∀ name form, p.DeclaresGlobally name form → form ≠ .exported →
    ∀ file (ident : Node), ident.identName? = some name →
      nameError file ident ∉ p.checkNames file
  /-- The errors of a file are about the variables that it reads and whose names are not known:
  such a name is not built in, and only behind the word `export` do files declare it for the whole
  program. -/
  reports : ∀ file (report : Report), report ∈ p.checkNames file ↔
    ∃ occ name, file.ReadsUnbound occ ∧ occ.node.identName? = some name ∧
      nameError file occ.node = report ∧ name ∉ Ambient.builtin ∧
        ∀ form, p.DeclaresGlobally name form → form = .exported

/-- **Global names are known everywhere.** Whatever the files, the roots and the options are, and
in whatever order the files were loaded, a name that one of them declares for the whole program is
an error in none, unless it is declared behind the word `export` only. -/
theorem load_knowsGlobals (v : VirtualFiles) (options : CompilerOptions) (roots : List String) :
    (load v.host options roots).KnowsGlobals := by
  have hs : (Setting.mk v.host options roots).host.Settled := v.host_settled
  have hloaded := loaded_load hs
  constructor
  case declares => exact fun name => hloaded.declares_iff
  case unreported =>
    intro name form hdeclares hform file ident hname hmem
    obtain ⟨occ, other, -, hother, hnot, hreport⟩ := mem_checkNames_iff_readsUnbound.1 hmem
    obtain rfl := name_eq_of_nameError_eq hother hname hreport
    have hknown := hloaded.declares_iff.2 (.inr ⟨form, hform, hdeclares⟩)
    exact Bool.eq_false_iff.1 hnot hknown
  case reports =>
    intro file report
    rw [mem_checkNames_iff_readsUnbound]
    refine exists_congr fun occ => exists_congr fun name => and_congr_right fun _ =>
      and_congr_right fun _ => ?_
    have hknown : (load v.host options roots).ambient.declares name = false ↔
        ¬ (load v.host options roots).Knows name := by
      rw [← Bool.not_eq_true]
      exact not_congr hloaded.declares_iff
    rw [hknown, not_knows_iff, and_comm]

/-- A script that reads two names, and a module that declares both in a block of global ones, one
of them behind the word `export`. -/
def globalFiles : VirtualFiles :=
  VirtualFiles.ofMaps
    (.ofList [
      ("a.ts", "x; y;"),
      ("b.ts", "export {}; declare global { export const x: number; const y: number; }")]) ∅ {}

/-- The files of the program, as they are loaded from both. -/
def globalProgram : Program := load globalFiles.host {} ["a.ts", "b.ts"]

/-- Whether an item is a block of global declarations that declares the name behind the word
`export`. -/
def exportsGlobally (name : String) : Node → Bool
  | .mk (.moduleDecl _ true) _ [id, .mk .moduleBlock _ stmts] =>
    id.identName?.isSome && stmts.any fun stmt =>
      (stmt.form matches .exportDecl) && (stmt.child 0).declaredNames.contains name
  | _ => false

theorem declaresGlobally_of_exportsGlobally {isScript : Bool} {item : Node}
    (h : exportsGlobally name item = true) : item.DeclaresGlobally isScript name .exported := by
  unfold exportsGlobally at h
  split at h
  · obtain ⟨hname, hstmt⟩ := Bool.and_eq_true_iff.1 h
    obtain ⟨stmt, hmem, hstmt⟩ := List.any_eq_true.1 hstmt
    obtain ⟨hform, hdecl⟩ := Bool.and_eq_true_iff.1 hstmt
    have hdecl := Node.mem_declaredNames_iff.1 (List.contains_iff_mem.1 hdecl)
    refine .exported (.mk hname) hmem ?_ hdecl
    split at hform
    · assumption
    · cases hform
  · cases h

/-- A name that is declared for the whole program behind the word `export` is not known, and who
reads it gets an error. -/
theorem globalProgram_reported :
    globalProgram.DeclaresGlobally "x" .exported ∧
      ∃ file ∈ globalProgram.files,
        (globalProgram.checkNames file).map (·.message.text) = ["Cannot find name 'x'."] := by
  have hfound : globalProgram.files.any (fun file => file.items.any (exportsGlobally "x"))
      = true := by
    decide +kernel
  have hreported : globalProgram.files.any (fun file => decide
      ((globalProgram.checkNames file).map (·.message.text) = ["Cannot find name 'x'."]))
        = true := by
    decide +kernel
  constructor
  · obtain ⟨file, hfile, hitem⟩ := List.any_eq_true.1 hfound
    obtain ⟨item, hitem, hexports⟩ := List.any_eq_true.1 hitem
    exact ⟨file, hfile, item, hitem, declaresGlobally_of_exportsGlobally hexports⟩
  · obtain ⟨file, hfile, hmessages⟩ := List.any_eq_true.1 hreported
    exact ⟨file, hfile, of_decide_eq_true hmessages⟩

end Program

end ScriptHost
