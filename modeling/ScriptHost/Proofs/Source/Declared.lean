import ScriptHost.Source.SourceFile
/-!
# Which names declarations introduce

A declaration of variables introduces the names that its patterns bind, however
deep these are nested, and every other declaration the one name that it gives to
what it declares.

- `Node.Binds`: a pattern binds a name.
- `Node.Declares`: a declaration introduces a name.
- `Node.mem_boundNames_iff`, `Node.mem_declaredNames_iff`: the names that are listed are these.
-/

namespace ScriptHost

namespace Node

variable {name : String}

/-! ## Patterns -/

/-- A pattern binds a name: it is the name, or a part of it that is bound to a part of the value
binds the name. -/
inductive Binds : Node → String → Prop where
  | ident {name : String} {scope : ScopeId} {isOptional : Bool} {span : Span} {parts : List Node} :
    Binds (mk (.ident name scope isOptional) span parts) name
  | array {name : String} {isOptional : Bool} {span : Span} {elements : Node} {rest : List Node}
    (h : Binds elements name) : Binds (mk (.arrayPat isOptional) span (elements :: rest)) name
  | object {name : String} {isOptional : Bool} {span : Span} {members : Node} {rest : List Node}
    (h : Binds members name) : Binds (mk (.objectPat isOptional) span (members :: rest)) name
  | member {name : String} {span : Span} {part : Node} {parts : List Node} (hmem : part ∈ parts)
    (h : Binds part name) : Binds (mk .list span parts) name
  | keyed {name : String} {span : Span} {key value : Node} (h : Binds value name) :
    Binds (mk .keyPat span [key, value]) name
  | shorthand {name : String} {span : Span} {ident : Node} {rest : List Node}
    (h : Binds ident name) : Binds (mk .shorthandPat span (ident :: rest)) name
  | rest {name : String} {span : Span} {pattern : Node} {rest : List Node}
    (h : Binds pattern name) : Binds (mk .restPat span (pattern :: rest)) name
  | withDefault {name : String} {span : Span} {pattern : Node} {rest : List Node}
    (h : Binds pattern name) : Binds (mk .assignPat span (pattern :: rest)) name

theorem mem_boundIdentsAll_iff {ident : Node} {patterns : List Node} :
    ident ∈ boundIdentsAll patterns ↔ ∃ pattern ∈ patterns, ident ∈ pattern.boundIdents := by
  induction patterns with
  | nil => simp [boundIdentsAll]
  | cons pattern patterns ih => simp [boundIdentsAll, ih]

/-- What holds of a node if it holds of its parts holds of every node. -/
theorem induction_parts {motive : Node → Prop}
    (mk : ∀ form span parts, (∀ part ∈ parts, motive part) → motive (mk form span parts)) :
    ∀ node, motive node
  | .mk form span parts => mk form span parts fun part hmem =>
      have : sizeOf part < sizeOf parts := List.sizeOf_lt_of_mem hmem
      induction_parts mk part
termination_by node => sizeOf node

/-- A name that is listed for a pattern is bound by it. -/
theorem binds_of_mem_boundIdents {ident pattern : Node} (hname : ident.identName? = some name)
    (h : ident ∈ pattern.boundIdents) : Binds pattern name := by
  induction pattern using induction_parts with
  | mk form span parts ih =>
    unfold boundIdents at h
    split at h
    case h_1 heq =>
      cases heq
      obtain rfl := List.mem_singleton.1 h
      cases hname
      exact .ident
    case h_2 heq => cases heq; exact .array (ih _ List.mem_cons_self h)
    case h_3 heq => cases heq; exact .object (ih _ List.mem_cons_self h)
    case h_4 heq =>
      cases heq
      obtain ⟨part, hmem, hpart⟩ := mem_boundIdentsAll_iff.1 h
      exact .member hmem (ih part hmem hpart)
    case h_5 heq => cases heq; exact .keyed (ih _ (List.mem_cons_of_mem _ List.mem_cons_self) h)
    case h_6 heq => cases heq; exact .shorthand (ih _ List.mem_cons_self h)
    case h_7 heq => cases heq; exact .rest (ih _ List.mem_cons_self h)
    case h_8 heq => cases heq; exact .withDefault (ih _ List.mem_cons_self h)
    case h_9 => cases h

/-- **The names that are listed for a pattern are those that it binds.** -/
theorem mem_boundNames_iff {pattern : Node} : name ∈ pattern.boundNames ↔ pattern.Binds name := by
  rw [boundNames, List.mem_filterMap]
  constructor
  · rintro ⟨ident, hmem, hname⟩
    exact binds_of_mem_boundIdents hname hmem
  · intro h
    induction h with
    | ident => exact ⟨_, List.mem_singleton.2 rfl, rfl⟩
    | member hmem _ ih =>
      obtain ⟨ident, hident, hname⟩ := ih
      refine ⟨ident, ?_, hname⟩
      rw [boundIdents]
      exact mem_boundIdentsAll_iff.2 ⟨_, hmem, hident⟩
    | array _ ih | object _ ih | keyed _ ih | shorthand _ ih | rest _ ih | withDefault _ ih =>
      simpa only [boundIdents] using ih

/-! ## Declarations -/

end Node

/-- Whether a form is that of a declaration of variables. -/
def Form.declaresVariables : Form → Bool
  | .varDecl .. | .usingDecl _ => true
  | _ => false

theorem Form.eq_of_declaresVariables {form : Form} (h : form.declaresVariables = true) :
    (∃ kind isDeclare, form = .varDecl kind isDeclare) ∨ ∃ isAwait, form = .usingDecl isAwait := by
  cases form with
  | varDecl kind isDeclare => exact .inl ⟨kind, isDeclare, rfl⟩
  | usingDecl isAwait => exact .inr ⟨isAwait, rfl⟩
  | _ => cases h

namespace Node

variable {name : String}

/-- A declaration introduces a name: one of its variables has a pattern that binds the name, or,
if it declares no variables, it gives the name to what it declares. -/
inductive Declares (decl : Node) (name : String) : Prop where
  | bound (hform : decl.form.declaresVariables = true) {declarator : Node}
    (hmem : declarator ∈ decl.children) (hbinds : (declarator.child 0).Binds name)
  | named (hdecl : decl.isDeclaration = true) (hform : decl.form.declaresVariables = false)
    (hname : (decl.child 0).identName? = some name)

/-! The names of a declaration go by its form: there are three kinds of forms. -/

theorem declaredNames_of_variables {decl : Node} (h : decl.form.declaresVariables = true) :
    decl.declaredNames = decl.children.flatMap fun d => (d.child 0).boundNames := by
  rw [declaredNames]
  rcases Form.eq_of_declaresVariables h with ⟨kind, isDeclare, hform⟩ | ⟨isAwait, hform⟩ <;>
    rw [hform]

theorem declaredNames_of_named {decl : Node} (hdecl : decl.isDeclaration = true)
    (hform : decl.form.declaresVariables = false) :
    decl.declaredNames = (decl.child 0).identName?.toList := by
  unfold isDeclaration at hdecl
  unfold declaredNames
  split at hdecl
  all_goals next heq => simp_all [Form.declaresVariables]

theorem declaredNames_of_not {decl : Node} (h : decl.isDeclaration = false) :
    decl.declaredNames = [] := by
  unfold declaredNames
  split
  all_goals first
    | rfl
    | next heq =>
      rw [isDeclaration, heq] at h
      cases h

theorem isDeclaration_of_variables {decl : Node} (h : decl.form.declaresVariables = true) :
    decl.isDeclaration = true := by
  rw [isDeclaration]
  rcases Form.eq_of_declaresVariables h with ⟨kind, isDeclare, hform⟩ | ⟨isAwait, hform⟩ <;>
    rw [hform]

/-- Only declarations introduce names. -/
theorem Declares.isDeclaration {decl : Node} (h : decl.Declares name) :
    decl.isDeclaration = true := by
  cases h with
  | bound hform _ _ => exact isDeclaration_of_variables hform
  | named hdecl _ _ => exact hdecl

/-- **The names that are listed for a declaration are those that it introduces.** -/
theorem mem_declaredNames_iff {decl : Node} :
    name ∈ decl.declaredNames ↔ decl.Declares name := by
  by_cases hvars : decl.form.declaresVariables = true
  · rw [declaredNames_of_variables hvars, List.mem_flatMap]
    constructor
    · rintro ⟨declarator, hmem, hname⟩
      exact .bound hvars hmem (mem_boundNames_iff.1 hname)
    · rintro (⟨-, hmem, hbinds⟩ | ⟨-, hform, -⟩)
      · exact ⟨_, hmem, mem_boundNames_iff.2 hbinds⟩
      · simp [hvars] at hform
  rw [Bool.not_eq_true] at hvars
  by_cases hdecl : decl.isDeclaration = true
  · rw [declaredNames_of_named hdecl hvars, Option.mem_toList]
    constructor
    · exact fun hname => .named hdecl hvars hname
    · rintro (⟨hform, -, -⟩ | ⟨-, -, hname⟩)
      · simp [hvars] at hform
      · exact hname
  · rw [declaredNames_of_not (Bool.not_eq_true _ ▸ hdecl)]
    exact iff_of_false List.not_mem_nil fun hdeclares => hdecl hdeclares.isDeclaration

end Node

end ScriptHost
