import ScriptHost.Helper.AsyncText
import ScriptHost.Helper.ClassText
import ScriptHost.Helper.DecoratorText
import ScriptHost.Helper.PrivateText
import ScriptHost.Helper.ValueText
import ScriptHost.Lower.Basic
import ScriptHost.Parser.Module
/-!
# Code of helpers

The functions that a compiled file may bring along, written in the language
itself.

- `Helper.text`: the text of a helper.
- `Helper.code`: its statements, with the names of helpers bound.
- `Node.withHelpers`: a module with the helpers that it needs.
-/

namespace ScriptHost

namespace Helper

/-- The text of a helper. -/
def text : Helper → String
  | arrayLikeToArray => arrayLikeToArrayText
  | arrayWithHoles => arrayWithHolesText
  | arrayWithoutHoles => arrayWithoutHolesText
  | assertThisInitialized => assertThisInitializedText
  | asyncGenerator => asyncGeneratorText
  | asyncGeneratorDelegate => asyncGeneratorDelegateText
  | asyncIterator => asyncIteratorText
  | asyncToGenerator => asyncToGeneratorText
  | awaitAsyncGenerator => awaitAsyncGeneratorText
  | awaitValue => awaitValueText
  | callSuper => callSuperText
  | checkPrivateRedeclaration => checkPrivateRedeclarationText
  | classApplyDescriptorDestructure => classApplyDescriptorDestructureText
  | classApplyDescriptorGet => classApplyDescriptorGetText
  | classApplyDescriptorSet => classApplyDescriptorSetText
  | classApplyDescriptorUpdate => classApplyDescriptorUpdateText
  | classCallCheck => classCallCheckText
  | classCheckPrivateStaticDescriptor => classCheckPrivateStaticDescriptorText
  | classExtractFieldDescriptor => classExtractFieldDescriptorText
  | classPrivateFieldGet => classPrivateFieldGetText
  | classPrivateFieldInit => classPrivateFieldInitText
  | classPrivateFieldSet => classPrivateFieldSetText
  | classPrivateFieldUpdate => classPrivateFieldUpdateText
  | classPrivateFieldDestructure => classPrivateFieldDestructureText
  | classPrivateMethodGet => classPrivateMethodGetText
  | classPrivateMethodInit => classPrivateMethodInitText
  | classStaticPrivateFieldGet => classStaticPrivateFieldGetText
  | classStaticPrivateFieldSet => classStaticPrivateFieldSetText
  | classStaticPrivateFieldUpdate => classStaticPrivateFieldUpdateText
  | classStaticPrivateFieldDestructure => classStaticPrivateFieldDestructureText
  | classStaticPrivateMethodGet => classStaticPrivateMethodGetText
  | classCheckPrivateStaticAccess => classCheckPrivateStaticAccessText
  | construct => constructText
  | createClass => createClassText
  | defineEnumerableProperties => defineEnumerablePropertiesText
  | defineProperty => definePropertyText
  | exportStar => exportStarText
  | assignAll => assignAllText
  | superGet => superGetText
  | getPrototypeOf => getPrototypeOfText
  | inherits => inheritsText
  | instanceOf => instanceOfText
  | interopRequireDefault => interopRequireDefaultText
  | interopRequireWildcard => interopRequireWildcardText
  | isNativeFunction => isNativeFunctionText
  | iterableToArray => iterableToArrayText
  | iterableToArrayLimit => iterableToArrayLimitText
  | nonIterableRest => nonIterableRestText
  | nonIterableSpread => nonIterableSpreadText
  | objectDestructuringEmpty => objectDestructuringEmptyText
  | objectSpread => objectSpreadText
  | objectSpreadProps => objectSpreadPropsText
  | objectWithoutProperties => objectWithoutPropertiesText
  | objectWithoutPropertiesLoose => objectWithoutPropertiesLooseText
  | possibleConstructorReturn => possibleConstructorReturnText
  | readOnlyError => readOnlyErrorText
  | superSet => superSetText
  | setPrototypeOf => setPrototypeOfText
  | slicedToArray => slicedToArrayText
  | superPropBase => superPropBaseText
  | taggedTemplateLiteral => taggedTemplateLiteralText
  | toArray => toArrayText
  | toConsumableArray => toConsumableArrayText
  | toPrimitive => toPrimitiveText
  | toPropertyKey => toPropertyKeyText
  | superUpdate => superUpdateText
  | typeOf => typeOfText
  | unsupportedIterableToArray => unsupportedIterableToArrayText
  | wrapAsyncGenerator => wrapAsyncGeneratorText
  | wrapNativeSuper => wrapNativeSuperText
  | writeOnlyError => writeOnlyErrorText
  | isNativeReflectConstruct => isNativeReflectConstructText
  | tsDecorate => tsDecorateText
  | tsGenerator => tsGeneratorText
  | tsMetadata => tsMetadataText
  | tsParam => tsParamText
  | tsValues => tsValuesText
  | applyDecorators => applyDecoratorsText
  | identity => identityText

/-! ## Statements -/

/-- The text with braces in the place of what stands for them. -/
def withBraces (text : String) : String :=
  text.map fun c => if c == '⟨' then '\x7b' else if c == '⟩' then '\x7d' else c

/-- A literal or node of a helper as a made one. -/
def asMade (n : Node) : Node :=
  match n with
  | .mk (.str value _) _ cs => .mk (.str value none) .synthetic cs
  | n => n.withSpan .synthetic

/-- The statements of a helper, before names are bound. -/
def statements (h : Helper) : List Node :=
  ((parseModule ⟨false, false, false⟩ (withBraces h.text)).module.rewrite asMade).children

/-- The helpers whose names occur in code. -/
def named (code : List Node) : List Helper :=
  let names := code.flatMap fun (s : Node) => s.collect fun n => n.identName?.toList
  all.filter fun h => names.contains h.name

/-- The helpers that one needs: those it calls, and what goes along with them. -/
def needs (h : Helper) : List Helper :=
  let called := named h.statements
  if h == classPrivateFieldUpdate then
    classApplyDescriptorGet :: classApplyDescriptorSet :: called
  else called

/-- Helpers with those that they need, at most `fuel` steps away. -/
def closure : Nat → List Helper → List Helper
  | 0, hs => hs
  | fuel + 1, hs =>
    let more := hs.flatMap needs
    closure fuel (all.filter fun h => hs.contains h || more.contains h)

/-- The number of steps that lead from a helper to any that it needs. -/
def depth : Nat := 5

/-! ## Names -/

/-- Computations that go through the code of a helper: the variables that were declared so far in
the functions around, with their scopes. -/
abbrev Binding := StateT (List (String × ScopeId)) Numbering

/-- Notes the name that a parameter or variable has. -/
def declareName (own : ScopeId) (n : Node) : Binding Unit :=
  match n.identName? with
  | some name => modify fun names => (name, own) :: names
  | none => return

mutual
/-- Binds the names of a helper to the parameters and variables of the functions around, whose
innermost one has the scope `own`; all others are names of the whole module. -/
def bind (own : ScopeId) : Node → Binding Node
  | .mk (.ident name _ o) sp cs => do
    return .mk (.ident name (((← get).lookup name).getD Scope.helpers) o) sp cs
  | .mk .fnExpr sp cs => bindFunction .fnExpr sp cs
  | .mk (.fnDecl d) sp cs => bindFunction (.fnDecl d) sp cs
  | .mk .param sp cs => do
    declareName own (cs.getD 1 .none)
    return .mk .param sp (← bindAll own cs)
  | .mk (.declarator d) sp cs => do
    declareName own (cs.getD 0 .none)
    return .mk (.declarator d) sp (← bindAll own cs)
  | .mk (.method .setter) sp [key, .mk form fsp [ds, .mk .list lsp ps, body, tps, result]] => do
    let key ← bind own key
    let ps ← bindParams own ps
    let body ← bind own body
    return .mk (.method .setter) sp [key, .mk form fsp [ds, .mk .list lsp ps, body, tps, result]]
  | .mk form sp cs => return .mk form sp (← bindAll own cs)
/-- Binds the names of a function with variables of its own. -/
def bindFunction (form : Form) (sp : Span) (cs : List Node) : Binding Node := do
  let around ← get
  let own ← (Numbering.fresh : Numbering ScopeId)
  let cs ← bindAll own cs
  set around
  return .mk form sp cs
/-- Binds the names of nodes. -/
def bindAll (own : ScopeId) : List Node → Binding (List Node)
  | [] => return []
  | c :: cs => do
    let c ← bind own c
    return c :: (← bindAll own cs)
/-- Binds the names of the parameters of a setter, which are no variables of a function. -/
def bindParams (own : ScopeId) : List Node → Binding (List Node)
  | [] => return []
  | .mk form sp cs :: ps => do
    let cs ← bindAll own cs
    return .mk form sp cs :: (← bindParams own ps)
end

/-- The statements of a helper with its names bound. -/
def code (h : Helper) : Lowering (List Node) :=
  modifyGet fun s =>
    let ((code, _), next) := ((bindAll Scope.helpers h.statements).run []).run s.nextScope
    (code, { s with nextScope := next })

end Helper

/-- The module with the helpers that were called, behind its directives. -/
def Node.withHelpers (module : Node) : Lowering Node := do
  let called := (← get).helpers
  let code ← (Helper.closure Helper.depth called).mapM Helper.code
  return module.withChildren (Node.prependStmts code.flatten module.children)

end ScriptHost
