import ScriptHost.Lower.Basic
/-!
# Newer spellings

Some newer syntax only leaves out what older editions have to write.

- `Node.lowerCatch`: `catch` with a variable.
- `Node.lowerNamespaceExport`: `export * as x` as an import and an export.
- `Node.lowerRegex`: patterns with newer features as calls of `RegExp`.
- `Node.lowerShorthand`: properties of object literals with a key and a value.
- `Node.lowerTemplate`: templates as texts that are joined.
- `Node.lowerTypeTests`: operators that know symbols.
-/

namespace ScriptHost

/-- Whether an operator tells whether two values are the same. -/
def BinaryOp.isEquality (op : BinaryOp) : Bool :=
  op == .eq || op == .ne || op == .strictEq || op == .strictNe

namespace Node

/-- A `catch` that names what it catches. -/
def lowerCatch (n : Node) : Lowering Node := do
  match n with
  | mk .catchClause sp [pattern, body] =>
    if pattern.isSome then return n
    else return mk .catchClause sp [← Lowering.fresh "e", body]
  | n => return n

/-! ## Exports of namespaces -/

/-- An export of another module as an object, taken from an import of that object. -/
def exportSpaces (specs : List Node) : Lowering (List Node × List Node) := do
  let spaces := specs.filter fun s => s.form matches .exportAs
  let vars ← spaces.mapM fun s => Lowering.fresh ("_" ++ ((s.child 0).nameText?.getD ""))
  let exports := (vars.zip spaces).map fun (var, s) =>
    let name := match s.child 0 with
      | mk (.ident text _ _) _ _ => propName text
      | name => name
    made (.exportSpecifier false) [var, name]
  return (vars.map fun var => made .importAll [var], exports)

/-- The items of a module without exports of other modules as objects. -/
def lowerNamespaceExport (item : Node) : Lowering (List Node) := do
  match item with
  | mk (.exportNamed t) sp [specs, source, attributes] =>
    if specs.items.any fun s => s.form matches .exportAs then
      let (imports, exports) ← exportSpaces specs.items
      let rest := specs.items.filter fun s => !(s.form matches .exportAs)
      return [mk (.importDecl false) sp [ofList imports, source, none],
          mk (.exportNamed false) sp [ofList exports, none, none]]
        ++ (if rest.isEmpty then []
            else [mk (.exportNamed t) sp [specs.withChildren rest, source, attributes]])
    else return [item]
  | item => return [item]

/-- The module without exports of other modules as objects. -/
def lowerNamespaceExports (module : Node) : Lowering Node := do
  return module.withChildren (← module.children.mapM lowerNamespaceExport).flatten

/-! ## Patterns -/

/-- What a pattern may hold that an edition does not know. -/
structure RegexFeatures where
  /-- The flags that the edition does not know. -/
  flags : List Char := []
  /-- Pieces of patterns that the edition does not know. -/
  pieces : List String := []

/-- Whether a text holds a piece of another one. -/
def holds (text piece : String) : Bool := (text.splitOn piece).length > 1

/-- A pattern as a call of `RegExp`, if it holds what an edition does not know. -/
def lowerRegex (features : RegexFeatures) (n : Node) : Node :=
  match n with
  | mk (.regex pattern flags) sp _ =>
    if features.flags.any flags.toList.contains || features.pieces.any (holds pattern) then
      let args := string pattern :: (if flags.isEmpty then [] else [string flags])
      (callOf (global "RegExp") args).withSpan sp
    else n
  | n => n

/-! ## Object literals -/

/-- A property of an object literal with a key and a value. -/
def lowerProperty (prop : Node) : Node :=
  match prop with
  | mk (.ident name scope _) sp _ =>
    mk .keyValue sp [mk (.name name) sp [], mk (.ident name scope false) sp []]
  | mk (.method .method) sp [key, f] => mk .keyValue sp [key, made .fnExpr [none, f]]
  | p => p

/-- An object literal whose properties have keys and values. -/
def lowerShorthand (n : Node) : Node :=
  match n with
  | mk .object sp props => mk .object sp (props.map lowerProperty)
  | n => n

/-! ## Templates -/

/-- A text to which the values and texts of a template are joined. -/
def joinTemplate (text : Node) : List Node → List Node → Node
  | mk (.quasi cooked raw) _ _ :: quasis, hole :: holes =>
    let next := cooked.getD raw
    joinTemplate (callOf (dot text "concat") (hole :: (if next.isEmpty then [] else [string next])))
      quasis holes
  | _, _ => text

/-- A template as a text to which others are joined. -/
def lowerTemplate (n : Node) : Node :=
  match n with
  | mk .template sp [mk .list _ (mk (.quasi cooked raw) _ _ :: quasis), holes] =>
    (joinTemplate (string (cooked.getD raw)) quasis holes.items).withSpan sp
  | n => n

/-! ## Operators -/

/-- Names of types that only values have that are no symbols. -/
def plainTypeNames : List String := ["undefined", "boolean", "number", "string", "function"]

/-- Whether an expression is the name of a type that no symbol has. -/
def isPlainTypeName (n : Node) : Bool :=
  (n.strValue?.map plainTypeNames.contains).getD false

/-- The type of a value, where a symbol may be an object in disguise. -/
def typeOfCall (sp : Span) (e : Node) : Lowering Node := do
  let call := (← Lowering.callHelper .typeOf [e]).withSpan sp
  match e.identId? with
  | some (_, scope) =>
    if scope == Scope.unresolved then
      let test := made (.binary .strictEq) [made (.unary .typeOf) [e], string "undefined"]
      return mk .cond sp [test, string "undefined", call]
    else return call
  | Option.none => return call

mutual
/-- The tree with operators that know symbols in the place of `typeof` and `instanceof`. -/
def lowerTypeTests : Node → Lowering Node
  | mk (.binary .instanceOf) sp [left, right] => do
    let left ← left.lowerTypeTests
    let right ← right.lowerTypeTests
    return (← Lowering.callHelper .instanceOf [left, right]).withSpan sp
  | mk (.binary op) sp [mk (.unary .typeOf) lsp [left], right] => do
    if right.isPlainTypeName && op.isEquality then
      return mk (.binary op) sp [mk (.unary .typeOf) lsp [← left.lowerTypeTests], right]
    else
      let left ← left.lowerTypeTests
      return mk (.binary op) sp [← typeOfCall lsp left, ← right.lowerTypeTests]
  | mk (.binary op) sp [left, mk (.unary .typeOf) rsp [right]] => do
    let left ← left.lowerTypeTests
    let right ← right.lowerTypeTests
    if left.isPlainTypeName && op.isEquality then
      return mk (.binary op) sp [left, mk (.unary .typeOf) rsp [right]]
    else return mk (.binary op) sp [left, ← typeOfCall rsp right]
  | mk (.unary .typeOf) sp [e] => do typeOfCall sp (← e.lowerTypeTests)
  | mk form sp cs => return mk form sp (← lowerTypeTestsAll cs)
/-- Nodes with operators that know symbols. -/
def lowerTypeTestsAll : List Node → Lowering (List Node)
  | [] => return []
  | c :: cs => do
    let c ← c.lowerTypeTests
    return c :: (← lowerTypeTestsAll cs)
end

end Node

end ScriptHost
