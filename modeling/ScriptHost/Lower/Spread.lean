import ScriptHost.Lower.Hoist
/-!
# Lists with spread items

The items of an array literal or of a call may be spread from a value. Such a
list becomes one array that is joined from pieces.

- `Node.joinItems`: the array of items some of which are spread.
- `Node.lowerSpread`: array literals and calls without spread items.
- `Node.lowerTagged`: templates with a tag as calls.
-/

namespace ScriptHost

namespace Node

/-! ## Spread items -/

/-- Whether an item is spread. -/
def isSpread (item : Node) : Bool := item.form matches .spread

/-- The pieces of a list: spread values, and arrays of the items between them. -/
def spreadPieces (plain : List Node) : List Node → Lowering (List Node)
  | [] => return if plain.isEmpty then [] else [made .array plain]
  | mk .spread _ [source] :: items => do
    let value ← Lowering.callHelper .toConsumableArray [source]
    let rest ← spreadPieces [] items
    return (if plain.isEmpty then [] else [made .array plain]) ++ value :: rest
  | item :: items => spreadPieces (plain ++ [item]) items

/-- The array of items some of which are spread. -/
def joinItems (items : List Node) : Lowering Node := do
  match ← spreadPieces [] items with
  | [] => return made .array []
  | [piece] => return piece
  | first :: rest => return callOf (dot first "concat") rest

/-- Array literals and calls without spread items. -/
def lowerSpread (n : Node) : Hoisting Node := do
  match n with
  | mk .array sp items =>
    if items.any isSpread then return (← joinItems items).withSpan sp else return n
  | mk .call sp [callee, targs, mk .list lsp args] =>
    if !args.any isSpread then return n
    else
      let list ← match args with
        | [mk .spread _ [mk (.ident "arguments" scope o) isp cs]] =>
          pure (mk (.ident "arguments" scope o) isp cs)
        | args => joinItems args
      let (f, this) ← match callee with
        | mk .member msp [mk .superRef ssp cs, key] =>
          pure (mk .member msp [mk .superRef ssp cs, key], made .this [])
        | mk .member msp [object, key] =>
          if object.form matches .this then pure (mk .member msp [object, key], object)
          else
            let var ← Hoisting.keep object "_instance"
            pure (mk .member msp [assignTo var object, key], var)
        | mk (.ident name scope o) isp cs => pure (mk (.ident name scope o) isp cs, undefined)
        | f => pure (f, made .this [])
      if callee.form matches .superRef then
        return mk .call sp [callee, targs, mk .list lsp args]
      else return mk .call sp [dot f "apply", targs, mk .list lsp [this, list]]
  | mk .new sp [callee, _, mk .list _ args] =>
    if args.any isSpread then
      return (← Lowering.callHelper .construct [callee, ← joinItems args]).withSpan sp
    else return n
  | n => return n

/-! ## Templates with a tag -/

/-- A template with a tag as a call, and the function that makes its texts. -/
def splitTagged (sp : Span) (tag quasis : Node) (holes : List Node) : Lowering (Node × Node) := do
  let texts := quasis.items.map fun q =>
    match q with
    | mk (.quasi cooked raw) _ _ =>
      ((cooked.map string).getD undefined, string raw, cooked == some raw)
    | q => (q, q, true)
  let cooked := made .array (texts.map (·.1))
  let raw := made .array (texts.map (·.2.1))
  let args := if texts.all (·.2.2) then [cooked] else [cooked, raw]
  let f ← Lowering.fresh "_templateObject"
  let data ← Lowering.fresh "data"
  let body :=
    [declare .var [(data, ← Lowering.callHelper .taggedTemplateLiteral args)],
     stmt (assignTo f (made .fnExpr [none, funcOf [] [returnOf data] false false])),
     returnOf data]
  let call := mk .call sp [tag, none, ofList (callOf f [] :: holes)]
  return (call, made (.fnDecl false) [f, funcOf [] body false false])

/-- A template with a tag as a call; the functions that make texts are collected. -/
def lowerTaggedIn (n : Node) : StateT (List Node) Lowering Node := do
  match n with
  | mk .tagged sp [tag, _, mk .template _ [quasis, holes]] =>
    let (call, f) ← splitTagged sp tag quasis holes.items
    modify fun fs => fs ++ [f]
    return call
  | n => return n

/-- The module without templates with a tag. -/
def lowerTagged (module : Node) : Lowering Node := do
  let (module, functions) ← (module.rewriteM lowerTaggedIn).run []
  return module.withChildren (prependStmts functions module.children)

end Node

end ScriptHost
