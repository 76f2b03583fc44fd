import ScriptHost.Decimal.Shortest
import ScriptHost.Lower.Hoist
/-!
# Copies of objects

`...` inside of an object literal copies properties into it, and inside of a
pattern it takes the properties that are left over.

- `Node.lowerObjectSpread`: an object literal as calls that copy properties.
- `Node.lowerObjectRest`: declarations, functions and assignments without such patterns.
-/

namespace ScriptHost

/-! ## Literals -/

/-- A part of an object literal that is being made by calls. -/
structure ObjectDraft where
  /-- The object that calls made so far. -/
  object : Option Node := none
  /-- The objects whose properties are still to be copied into it. -/
  sources : List Node := []
  /-- The properties that are still to be added to it. -/
  pending : List Node := []

namespace ObjectDraft

/-- Copies the properties of the objects that are still to be copied. -/
def copy (d : ObjectDraft) : Lowering ObjectDraft := do
  if d.sources.isEmpty then return d
  else
    let object := d.object.getD (Node.made .object [])
    return { d with object := some (← Lowering.callHelper .objectSpread (object :: d.sources))
                    sources := [] }

/-- Adds the properties that are still to be added. -/
def flush (d : ObjectDraft) : Lowering ObjectDraft := do
  let d ← d.copy
  match d.object with
  | none => return { object := some (Node.made .object d.pending) }
  | some object =>
    if d.pending.isEmpty then return d
    else return { object := some (← Lowering.callHelper .objectSpreadProps
      [object, Node.made .object d.pending]) }

/-- Adds a part of an object literal. -/
def add (d : ObjectDraft) (prop : Node) : Lowering ObjectDraft := do
  match prop with
  | .mk .spread _ [source] =>
    let d ← if d.pending.isEmpty then pure d else d.flush
    return { d with sources := d.sources ++ [source] }
  | prop => return { d with pending := d.pending ++ [prop] }

end ObjectDraft

namespace Node

/-- An object literal as calls that copy properties. -/
def lowerObjectSpread (n : Node) : Lowering Node := do
  match n with
  | mk .object sp props =>
    if props.any fun p => p.form matches .spread then
      let d ← props.foldlM ObjectDraft.add {}
      let d ← d.flush
      return (d.object.getD n).withSpan sp
    else return n
  | n => return n

/-! ## Patterns -/

/-- Whether a pattern takes the properties that are left over. -/
def hasObjectRest (pattern : Node) : Bool :=
  pattern.any fun n =>
    match n with
    | mk (.objectPat _) _ (props :: _) => props.items.any fun p => (p.form matches .restPat)
    | _ => false

/-- The key of a property of a pattern as an expression; that of a number is its text. -/
def keyText (prop : Node) : Node :=
  match prop with
  | mk .keyPat _ [mk .computed _ [e], _] => e
  | mk .keyPat _ [mk (.num v _) _ _, _] => string (convertedNumberText v)
  | mk .keyPat _ [key, _] => string (key.nameText?.getD "")
  | mk .shorthandPat _ (id :: _) => string (id.identName?.getD "")
  | p => p

/-- `source` without the properties that a pattern takes. -/
def withoutTaken (source : Node) (props : List Node) : Lowering Node := do
  let keys := props.map keyText
  if keys.isEmpty then
    let source ← Lowering.callHelper .objectDestructuringEmpty [source]
    Lowering.callHelper .assignAll [made .object [], source]
  else
    let list := made .array keys
    let isPlain (key : Node) : Bool := key.form matches .str .. | .num ..
    let list ← if keys.all isPlain then pure list
      else pure (callOf (dot list "map") [← Lowering.helper .toPropertyKey])
    Lowering.callHelper .objectWithoutProperties [source, list]

/-- What a pattern that takes what is left over is split into. -/
structure RestSplit where
  /-- The variables for keys that are declared in front. -/
  keys : List (Node × Node) := []
  /-- The pattern without what is left over. -/
  pattern : Node
  /-- The variables for what is left over. -/
  rests : List (Node × Node) := []
deriving Inhabited

/-- The key of a property that is computed only once, with the variable that keeps it, and the
property of an object. -/
def fixedKey (object key : Node) : Lowering (List (Node × Node) × Node × Node) := do
  match key with
  | mk .computed ksp [e] =>
    if e.form matches .str .. | .num .. | .ident .. then return ([], key, memberOf object key)
    else
      let var ← Lowering.freshFor e "key"
      let key := mk .computed ksp [var]
      return ([(var, e)], key, memberOf object key)
  | mk (.name text) _ _ => return ([], key, dot object text)
  | key => return ([], key, index object key)

mutual
/-- A pattern for the value of an expression, split. -/
def splitRest (source : Node) : Node → Lowering RestSplit
  | mk .assignPat sp [target, value] => do
    let s ← splitRest source target
    return { s with pattern := mk .assignPat sp [s.pattern, value] }
  | mk (.arrayPat o) sp (mk .list lsp elems :: ann) => do
    let split ← splitElements source 0 elems
    return { keys := split.flatMap (·.keys), rests := split.flatMap (·.rests)
             pattern := mk (.arrayPat o) sp (mk .list lsp (split.map (·.pattern)) :: ann) }
  | mk (.objectPat o) sp (mk .list lsp props :: ann) => do
    let split ← splitProps source props
    let patterns := split.map (·.pattern)
    let taken := patterns.filter fun p => !(p.form matches .restPat)
    let rests ← (patterns.filter fun p => (p.form matches .restPat)).mapM fun p => do
      return (p.child 0, ← withoutTaken source taken)
    return { keys := split.flatMap (·.keys), rests := split.flatMap (·.rests) ++ rests
             pattern := mk (.objectPat o) sp (mk .list lsp taken :: ann) }
  | pattern => return { pattern }
/-- The elements of a pattern from the one with the given number on, split. -/
def splitElements (source : Node) (i : Nat) : List Node → Lowering (List RestSplit)
  | [] => return []
  | elem :: elems => do
    let first ← splitRest (index source (nat i)) elem
    return first :: (← splitElements source (i + 1) elems)
/-- The properties of a pattern, split. -/
def splitProps (source : Node) : List Node → Lowering (List RestSplit)
  | [] => return []
  | mk .keyPat sp [key, value] :: props => do
    let (keys, key, member) ← fixedKey source key
    let s ← splitRest member value
    let first := { s with keys := keys ++ s.keys, pattern := mk .keyPat sp [key, s.pattern] }
    return first :: (← splitProps source props)
  | p :: props => return { pattern := p } :: (← splitProps source props)
end

/-- Whether a pattern takes nothing. -/
def isEmptyPattern (pattern : Node) : Bool :=
  match pattern with
  | mk (.objectPat _) _ (props :: _) => props.items.isEmpty
  | _ => false

/-- What a pattern that takes what is left over declares. -/
def restDeclarations (source pattern : Node) : Lowering (List (Node × Node)) := do
  let s ← splitRest source pattern
  return s.keys ++ (if s.pattern.isEmptyPattern then [] else [(s.pattern, source)]) ++ s.rests

/-- What takes everything of an object, if a pattern is nothing but that. -/
def takesAll? (pattern : Node) : Option Node :=
  match pattern with
  | mk (.objectPat _) _ (mk .list _ [mk .restPat _ (target :: _)] :: _) => some target
  | _ => Option.none

/-- A declared variable as ones without such patterns. -/
def lowerRestDeclarator (decl : Node) : Lowering (List Node) := do
  match decl with
  | mk (.declarator d) sp [pattern, init] =>
    if pattern.hasObjectRest && init.isSome then
      let made (p : Node × Node) : Node := mk (.declarator d) sp [p.1, p.2]
      match pattern.takesAll? with
      | some target => return [made (target, ← withoutTaken init [])]
      | Option.none =>
        if init.form matches .ident .. then
          return (← restDeclarations init pattern).map made
        else
          let var ← Lowering.freshFor init "_ref"
          return made (var, init) :: (← restDeclarations var pattern).map made
    else return [decl]
  | decl => return [decl]

/-- Parameters without such patterns, and what the body declares for them. -/
def lowerRestParams (params : List Node) : Lowering (List Node × List (Node × Node)) := do
  let split ← params.mapM fun p => do
    let (wrap, pattern) : (Node → Node) × Node := match p with
      | mk .param sp [ds, pattern] => (fun q => mk .param sp [ds, q], pattern)
      | pattern => (id, pattern)
    if !pattern.hasObjectRest then return (p, [])
    else
      let var ← Lowering.fresh "_param"
      match pattern with
      | mk .assignPat sp [target, value] =>
        return (wrap (mk .assignPat sp [var, value]), ← restDeclarations var target)
      | mk .restPat sp (target :: ann) =>
        return (wrap (mk .restPat sp (var :: ann)), ← restDeclarations var target)
      | pattern => return (wrap var, ← restDeclarations var pattern)
  return (split.map (·.1), split.flatMap (·.2))

/-- A body with variables declared in front. -/
def declareFront (kind : VarKind) (vars : List (Node × Node)) (body : Node) : Node :=
  if vars.isEmpty then body
  else
    match body with
    | mk .block sp stmts => mk .block sp (prependStmts [declare kind vars] stmts)
    | e => blockOf [declare kind vars, returnOf e]

/-- A loop's body with variables declared in front, for a target that takes what is left over. -/
def lowerRestLoop (left body : Node) : Lowering (Node × Node) := do
  let stmts := if body.form matches .block then body.children else [body]
  match left with
  | mk (.varDecl kind d) sp [mk (.declarator b) bsp [pattern, init]] =>
    let var ← Lowering.fresh "_ref"
    let inner := declare kind (← restDeclarations var pattern)
    return (mk (.varDecl kind d) sp [mk (.declarator b) bsp [var, init]], blockOf (inner :: stmts))
  | pattern =>
    let var ← Lowering.fresh "_ref"
    let sets := (← restDeclarations var pattern).map fun (p, v) => assignTo p v
    return (declare .var [(var, none)], blockOf (stmt (made .seq sets) :: stmts))

/-- A node without patterns that take the properties that are left over. -/
def lowerObjectRest (n : Node) : Hoisting Node := do
  match n with
  | mk (.varDecl kind d) sp decls =>
    return mk (.varDecl kind d) sp (← decls.mapM fun d => lowerRestDeclarator d).flatten
  | mk (.func a g) sp (ds :: mk .list psp params :: body :: rest) =>
    let (params, vars) ← lowerRestParams params
    return mk (.func a g) sp (ds :: mk .list psp params :: body.declareFront .var vars :: rest)
  | mk (.constructor mods) sp [key, mk .list psp params, body] =>
    let (params, vars) ← lowerRestParams params
    return mk (.constructor mods) sp [key, mk .list psp params, body.declareFront .var vars]
  | mk (.arrow a g) sp (mk .list psp params :: body :: rest) =>
    let (params, vars) ← lowerRestParams params
    return mk (.arrow a g) sp (mk .list psp params :: body.declareFront .var vars :: rest)
  | mk .catchClause sp [pattern, body] =>
    if pattern.hasObjectRest then
      let var ← Lowering.fresh "_param"
      let vars ← restDeclarations var pattern
      return mk .catchClause sp [var, body.declareFront .lexical vars]
    else return n
  | mk (.forOf isAwait) sp [left, values, body] =>
    if left.hasObjectRest then
      let (left, body) ← lowerRestLoop left body
      return mk (.forOf isAwait) sp [left, values, body]
    else return n
  | mk .forIn sp [left, values, body] =>
    if left.hasObjectRest then
      let (left, body) ← lowerRestLoop left body
      return mk .forIn sp [left, values, body]
    else return n
  | mk (.assign .plain) sp [target, value] =>
    if target.hasObjectRest then
      let var ← Hoisting.keep value "_tmp"
      let s ← splitRest var target
      let taken := if s.pattern.isEmptyPattern then [] else [assignTo s.pattern var]
      let sets := (s.keys ++ s.rests).map fun (p, v) => assignTo p v
      return mk .seq sp (assignTo var value :: sets ++ taken ++ [var])
    else return n
  | n => return n

end Node

end ScriptHost
