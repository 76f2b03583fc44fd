import ScriptHost.CommonJS.Links
import ScriptHost.Lower.Basic
import ScriptHost.Options.Basic
/-!
# Modules that require each other

Imports become calls of `require` whose values are kept in variables, and
exports become properties of `exports` that read the exported variables. A
variable that was imported is read through the object of its module.

- `Node.readImports`: the tree with imported variables read through objects.
- `Node.toCommonJS`: the module with `require` and `exports`.
-/

namespace ScriptHost

/-- The variables that are read through the objects of other modules: the variable of the object
and, unless it is the object itself, the name of a property. -/
abbrev ImportMap := List (VarId × Node × Option String)

namespace ImportMap

/-- The expression that reads an imported variable. -/
def read? (imports : ImportMap) (n : Node) : Option Node := do
  let (object, name) ← imports.lookup (← n.identId?)
  match name with
  | none => return object.withSpan n.span
  | some name =>
    let key := if isIdentText name then Node.propName name
      else Node.made .computed [Node.string name]
    return .mk .member n.span [object, key]

/-- Whether an expression reads a property of another module. -/
def isProperty (imports : ImportMap) (n : Node) : Bool :=
  match n.identId?.bind fun id => imports.lookup id with
  | some (_, some _) => true
  | _ => false

end ImportMap

namespace Node

/-- `(0, callee)`, which calls a function without an object. -/
def detached (callee : Node) : Node := made .seq [nat 0, callee]

/-! ## Reading imports -/

mutual
/-- Reads imported variables through objects; `this` at the top of a module is nothing. -/
def readImportsIn (imports : ImportMap) (role : Role) (atTop : Bool) : Node → Node
  | mk (.ident name scope o) sp cs =>
    let n := mk (.ident name scope o) sp cs
    if role.isValue then (imports.read? n).getD n else n
  | mk .this sp cs => if atTop then undefined.withSpan sp else mk .this sp cs
  | mk .object sp props => mk .object sp (readImportsInProps imports atTop props)
  | mk .call sp (callee :: rest) =>
    let read := callee.readImportsIn imports .value atTop
    mk .call sp ((if imports.isProperty callee then read.detached else read)
      :: readImportsFrom imports .call .value 1 atTop rest)
  | mk .tagged sp (tag :: rest) =>
    let read := tag.readImportsIn imports .value atTop
    mk .tagged sp ((if imports.isProperty tag then read.detached else read)
      :: readImportsFrom imports .tagged .value 1 atTop rest)
  | mk (.func a g) sp cs => mk (.func a g) sp (readImportsFrom imports (.func a g) role 0 false cs)
  | mk (.constructor mods) sp cs =>
    mk (.constructor mods) sp (readImportsFrom imports (.constructor mods) role 0 false cs)
  | mk (.classField mods) sp cs =>
    mk (.classField mods) sp (readImportsFrom imports (.classField mods) role 0 false cs)
  | mk .staticBlock sp cs =>
    mk .staticBlock sp (readImportsFrom imports .staticBlock role 0 false cs)
  | mk form sp cs => mk form sp (readImportsFrom imports form role 0 atTop cs)
/-- Reads imported variables in the parts of a node from the one with the given number on. -/
def readImportsFrom (imports : ImportMap) (form : Form) (own : Role) (i : Nat) (atTop : Bool) :
    List Node → List Node
  | [] => []
  | c :: cs =>
    c.readImportsIn imports (form.childRole own i) atTop
      :: readImportsFrom imports form own (i + 1) atTop cs
/-- Reads imported variables in the properties of an object literal. -/
def readImportsInProps (imports : ImportMap) (atTop : Bool) : List Node → List Node
  | [] => []
  | c :: cs =>
    (match imports.read? c with
      | some read => mk .keyValue c.span [propName (c.identName?.getD ""), read]
      | Option.none => c.readImportsIn imports .value atTop) :: readImportsInProps imports atTop cs
end

/-! ## Dynamic imports -/

/-- A function without parameters that answers the value of an expression. -/
def thunk (hasArrows : Bool) (params : List Node) (value : Node) : Node :=
  if hasArrows then made (.arrow false false) [ofList params, value, none, none]
  else made .fnExpr [none, funcOf params [returnOf value] false false]

end Node

/-- How a module is to be linked to others. -/
structure LinkOptions where
  /-- Modules of other kinds are told apart by a mark. -/
  interop : Bool
  /-- Variables that do not change may be declared so. -/
  hasConst : Bool
  /-- Functions may be written as arrows. -/
  hasArrows : Bool

namespace LinkOptions

/-- How the modules of a program are linked. -/
def ofOptions (o : CompilerOptions) : LinkOptions :=
  let isOld := o.target.isBelow .es2015
  ⟨o.esModuleInterop, !isOld, !isOld⟩

/-- The kind of the declarations of variables that do not change. -/
def varKind (o : LinkOptions) : VarKind := if o.hasConst then .const else .var

end LinkOptions

namespace Node

/-- `require(args)`. -/
def requireOf (args : List Node) : Node := callOf (global "require") args

/-- The promise of a module that a dynamic import stands for. -/
def importLater (o : LinkOptions) (sp : Span) (args : List Node) : Lowering Node := do
  let fixed := args.head?.bind strValue?
  let path ← Lowering.fresh "p"
  let required := match fixed with
    | some name => requireOf (string name :: args.drop 1)
    | Option.none => requireOf [path]
  let value ← if o.interop then Lowering.callPureHelper .interopRequireWildcard [required]
    else pure required
  let start := callOf (dot (global "Promise") "resolve") (if fixed.isSome then [] else args)
  return (callOf (dot start "then")
    [thunk o.hasArrows (if fixed.isSome then [] else [path]) value]).withSpan sp

/-- A node in the place of one that only works in modules of the newer kind. -/
def requireParts (o : LinkOptions) (n : Node) : Lowering Node :=
  match n with
  | mk .call sp [mk .importRef _ _, _, args] => importLater o sp args.items
  | mk .member sp [mk .importMeta _ _, mk (.name "url") _ _] =>
    let path := callOf (dot (requireOf [string "url"]) "pathToFileURL") [global "__filename"]
    return (callOf (dot path "toString") []).withSpan sp
  | n => return n

/-! ## Statements -/

/-- The statement of an item of a module, if anything is left of it. -/
def plainItem (o : LinkOptions) (defaultVar item : Node) : Option Node :=
  match item with
  | mk .exportDecl _ [decl] => some decl
  | mk .exportDefaultDecl sp [mk form _ [name, rest]] =>
    let name := if name.isNone then defaultVar else name
    some (mk (if form matches .classExpr then .classDecl false else .fnDecl false) sp [name, rest])
  | mk .exportDefault sp [e] => some ((declare o.varKind [(defaultVar, e)]).withSpan sp)
  | mk .empty _ _ => Option.none
  | item => if item.isModuleItem then Option.none else some item

/-- `function() { return value; }`. -/
def getter (value : Node) : Node := made .fnExpr [none, funcOf [] [returnOf value] false false]

/-- `Object.defineProperty(object, key, { members })`. -/
def defineOn (object key : Node) (members : List (String × Node)) : Node :=
  callOf (dot (global "Object") "defineProperty")
    [object, key, made .object (members.map fun (name, v) => made .keyValue [propName name, v])]

/-- The key of an exported name. -/
def exportKey (name : String) : Node := if isIdentText name then propName name else string name

/-- The statements that export variables. -/
def exportCode (exports : List Exported) : Lowering (List Node) := do
  let sorted := exports.mergeSort fun a b => a.name ≤ b.name
  let object := global "exports"
  match sorted with
  | [] => return []
  | [e] =>
    return [stmt (defineOn object ((string e.name).withSpan e.span)
      [("enumerable", made (.bool true) []), ("get", e.value.getter)])]
  | _ =>
    let define ← Lowering.fresh "_export"
    let target ← Lowering.fresh "target"
    let all ← Lowering.fresh "all"
    let name ← Lowering.fresh "name"
    let body := stmt (defineOn target name
      [("enumerable", made (.bool true) []), ("get", index all name)])
    let loop := made .forIn [declare .var [(name, none)], all, body]
    let props := sorted.map fun e =>
      made .keyValue [(exportKey e.name).withSpan e.span, e.value.getter]
    return [made (.fnDecl false) [define, funcOf [target, all] [loop] false false],
      stmt (callOf define [object, made .object props])]

/-- The name of the variable that keeps another module: that of its file without its ending. -/
def moduleVarName (source : String) : String :=
  let file := (source.splitOn "/").getLastD ""
  let without (count : Nat) : String := String.ofList (file.toList.take (file.length - count))
  madeName (if Path.endsWithAny [".js"] file then without 3
    else if Path.endsWithAny [".mjs"] file then without 4 else file)

/-- Links a module to another one: the statement, the variables that are read through it and the
names that it exports. -/
def linkCode (o : LinkOptions) (source : Node) (links : List Link) :
    Lowering (Node × ImportMap × List Exported) := do
  let var ← Lowering.fresh (moduleVarName (source.strValue?.getD ""))
  let imports := links.filterMap fun link =>
    match link with
    | .named id exported => some (id, var, some exported)
    | .default id => some (id, var, some "default")
    | .all id => some (id, var, Option.none)
    | _ => Option.none
  let exports := links.filterMap fun link =>
    match link with
    | .reexport exported name span =>
      let key := if isIdentText exported then propName exported
        else made .computed [string exported]
      some ⟨name, span, memberOf var key⟩
    | .reexportAll name span => some ⟨name, span, var⟩
    | _ => Option.none
  let value := requireOf [string (source.strValue?.getD "")]
  let value ← if links.contains .star then Lowering.callHelper .exportStar [value, global "exports"]
    else pure value
  let isDefault := links.any Link.isDefault
  let wantsAll := links.any Link.isAll || (isDefault && links.any Link.isNamed)
  let value ←
    if o.interop && wantsAll then Lowering.callPureHelper .interopRequireWildcard [value]
    else if o.interop && isDefault then Lowering.callPureHelper .interopRequireDefault [value]
    else pure value
  let code := if links.any Link.needsObject then declare o.varKind [(var, value)] else stmt value
  return (code, imports, exports)

/-- The module with `require` and `exports` in the place of imports and exports. -/
def toCommonJS (o : LinkOptions) (module : Node) : Lowering Node := do
  let items := module.children
  let defaultVar ← Lowering.fresh "_default"
  let links := ModuleLinks.ofItems defaultVar items
  let linked ← links.sources.mapM fun (_, source, ls) => linkCode o source ls
  let imports := linked.flatMap (·.2.1)
  let exports ← exportCode (links.exports ++ linked.flatMap (·.2.2))
  let mark := stmt (defineOn (global "exports") (string "__esModule")
    [("value", made (.bool true) [])])
  let marks := if o.interop && items.any isModuleItem then [mark] else []
  let isStrict (n : Node) : Bool := (n.child 0).strValue? == some "use strict"
  let directives := items.takeWhile isDirective
  let strict := (directives.filter isStrict).headD (stmt (string "use strict"))
  let body := (items.dropWhile isDirective).filterMap (plainItem o defaultVar)
  let body ← (exports ++ linked.map (·.1) ++ body).mapM (rewriteM (requireParts o))
  let body := readImportsFrom imports module.form .value 0 true (marks ++ body)
  return module.withChildren (directives.filter (!isStrict ·) ++ strict :: body)

end Node

end ScriptHost
