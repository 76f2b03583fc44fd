import ScriptHost.Lower.Basic
/-!
# Types as values

Decorators may ask what type a member was declared with. A type is gone when
code runs, so it is answered with the constructor that its values come closest
to.

- `RunType`: what a type is when code runs.
- `Node.runType`: what a written type is.
- `RunType.expr`: the expression for it.
-/

namespace ScriptHost

/-- What a type is when code runs. -/
inductive RunType where
  /-- A type whose values are all missing. -/
  | nothing
  /-- A constructor that is always there. -/
  | builtIn (name : String)
  /-- Something with a name, which may be missing or no value at all. -/
  | named (id : VarId) (path : List String)
deriving BEq, DecidableEq, Repr, Inhabited

namespace RunType

/-- What is answered where nothing better is known. -/
def object : RunType := .builtIn "Object"

/-- What a type is whose values are those of several types: what all of them are, if that is always
there. -/
def join (types : List RunType) : RunType :=
  match types with
  | [] => object
  | [only] => only
  | first :: rest =>
    if rest.all (· == first) && (first matches .builtIn _) then first else object

/-- Whether something with a name is missing. -/
def missing (e : Node) : Node :=
  Node.made (.binary .strictEq) [Node.made (.unary .typeOf) [e], Node.string "undefined"]

/-- The tests that some part on the way to a property is missing, and the property. -/
def reach (tests : List Node) (object : Node) : List String → List Node × Node
  | [] => (tests, object)
  | name :: path =>
    let inner := Node.dot object name
    reach (tests ++ [missing inner]) inner path

/-- The expression for what a type is. -/
def expr : RunType → Node
  | nothing => Node.undefined
  | builtIn name => Node.global name
  | named (name, scope) path =>
    let start := Node.var name scope
    match reach [missing start] start path with
    | ([], value) => value
    | (test :: tests, value) =>
      let test := tests.foldl (fun t u => Node.made (.binary .or) [t, u]) test
      Node.made .cond [test, Node.global "Object", value]

/-- What the types with a name of their own are. -/
def ofKeyword (text : String) : RunType :=
  match text with
  | "void" | "undefined" | "null" | "never" => .nothing
  | "boolean" => .builtIn "Boolean"
  | "string" => .builtIn "String"
  | "number" => .builtIn "Number"
  | "bigint" => .named ("BigInt", Scope.unresolved) []
  | "symbol" => .builtIn "Symbol"
  | _ => object

end RunType

/-- What is known of the types with a name: the class that asks, and what enumerations are. -/
structure TypeContext where
  self : Option VarId := none
  enums : List (VarId × RunType) := []
deriving Inhabited

namespace Node

/-- What a literal is a value of. -/
def literalType (literal : Node) : RunType :=
  match literal.form with
  | .bool _ => .builtIn "Boolean"
  | .str .. | .template | .templateType => .builtIn "String"
  | .num .. | .unary _ => .builtIn "Number"
  | .bigint _ => .ofKeyword "bigint"
  | .null => .nothing
  | _ => .object

/-- The variable that a name with dots starts at, and the names behind it. -/
def entityPath : Node → Option (VarId × List String)
  | mk (.ident name scope _) _ _ => some ((name, scope), [])
  | mk .qualified _ [left, name] => do
    let (id, path) ← left.entityPath
    return (id, path ++ name.nameText?.toList)
  | _ => Option.none

/-- What a type with a name is. -/
def entityType (self : Option VarId) (name : Node) : RunType :=
  match name.entityPath with
  | some (id, path) => if path.isEmpty && self == some id then .object else .named id path
  | Option.none => .object

/-- Whether no value has a type; such a type adds nothing to others. -/
def isNeverType : Node → Bool
  | mk (.typeKeyword text) _ _ => text == "never"
  | mk .parenType _ [mk (.typeKeyword text) _ _] => text == "never"
  | _ => false

mutual
/-- What a written type is when code runs. -/
def runType (self : Option VarId) : Node → RunType
  | mk (.typeKeyword text) _ _ => .ofKeyword text
  | mk .typeAnn _ [type] => type.runType self
  | mk .parenType _ [type] => type.runType self
  | mk .optionalType _ [type] => type.runType self
  | mk .fnType _ _ | mk (.ctorType _) _ _ => .builtIn "Function"
  | mk .arrayType _ _ | mk .tupleType _ _ => .builtIn "Array"
  | mk (.typePredicate _) _ _ => .builtIn "Boolean"
  | mk .litType _ [literal] => literal.literalType
  | mk .unionType _ types => .join (runTypes self types)
  | mk .intersectionType _ types => .join (runTypes self types)
  | mk .condType _ [_, _, yes, no] =>
    .join ((if yes.isNeverType then [] else [yes.runType self])
      ++ (if no.isNeverType then [] else [no.runType self]))
  | mk .typeRef _ (name :: _) => name.entityType self
  | _ => .object
/-- What written types are when code runs. -/
def runTypes (self : Option VarId) : List Node → List RunType
  | [] => []
  | t :: ts => if t.isNeverType then runTypes self ts else t.runType self :: runTypes self ts
end

/-- What the values of an enumeration are. -/
def enumType (members : List Node) : RunType :=
  let isText (m : Node) : Bool :=
    ((m.child 1).form matches .str ..) || (m.child 1).form == .template
  if members.isEmpty || !members.any isText then .builtIn "Number"
  else if members.all isText then .builtIn "String"
  else .object

/-- What the enumerations of a module are. -/
def enumTypes (module : Node) : List (VarId × RunType) :=
  module.collect fun n =>
    match n with
    | mk (.enumDecl ..) _ [name, members] =>
      (name.identId?.map fun id => (id, enumType members.items)).toList
    | _ => []

/-- What the annotation of a field is. Fields alone are told what enumerations are. -/
def fieldRunType (c : TypeContext) (ann : Node) : RunType :=
  match ann with
  | mk .typeAnn _ [mk .typeRef sp (name :: args)] =>
    match name.identId?.bind fun id => c.enums.lookup id with
    | some type => type
    | Option.none => (mk .typeRef sp (name :: args)).runType c.self
  | ann => ann.runType c.self

/-- The type that a pattern is declared with. -/
def patternType : Node → Node
  | mk (.ident ..) _ [type] => type
  | mk (.arrayPat _) _ [_, type] => type
  | mk (.objectPat _) _ [_, type] => type
  | mk .restPat _ [_, type] => type
  | mk .assignPat _ [target, _] => target.patternType
  | _ => none

end Node

end ScriptHost
