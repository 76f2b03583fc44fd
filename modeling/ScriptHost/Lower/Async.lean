import ScriptHost.Lower.Capture
/-!
# Asynchronous functions

An asynchronous function becomes a generator that a helper runs: each `await`
is a `yield` to the helper.

- `Node.awaitsAsYields`: the body of an asynchronous function as that of a generator.
- `Node.lowerAsync`: the tree without asynchronous functions.
-/

namespace ScriptHost

namespace Node

/-! ## Bodies -/

mutual
/-- The body of an asynchronous function as that of a generator. -/
def awaitsAsYields (isGenerator : Bool) : Node → Lowering Node
  | mk .await sp [e] => do
    let e ← e.awaitsAsYields isGenerator
    let e ← if isGenerator then Lowering.callHelper .awaitAsyncGenerator [e] else pure e
    return mk (.yield false) sp [e]
  | mk (.yield true) sp [e] => do
    let e ← e.awaitsAsYields isGenerator
    if isGenerator then
      let values ← Lowering.callHelper .asyncIterator [e]
      let awaits ← Lowering.helper .awaitAsyncGenerator
      return mk (.yield true) sp
        [← Lowering.callHelper .asyncGeneratorDelegate [values, awaits]]
    else return mk (.yield true) sp [e]
  | mk (.func a g) sp cs => return mk (.func a g) sp cs
  | mk (.arrow a g) sp cs => return mk (.arrow a g) sp cs
  | mk .staticBlock sp cs => return mk .staticBlock sp cs
  | mk form sp cs => return mk form sp (← awaitsAsYieldsAll isGenerator cs)
/-- Parts of the body of an asynchronous function as those of a generator. -/
def awaitsAsYieldsAll (isGenerator : Bool) : List Node → Lowering (List Node)
  | [] => return []
  | c :: cs => do
    let c ← c.awaitsAsYields isGenerator
    return c :: (← awaitsAsYieldsAll isGenerator cs)
end

/-- The helper that runs the generator that an asynchronous function becomes. -/
def asyncRunner (isGenerator : Bool) : Helper :=
  if isGenerator then .wrapAsyncGenerator else .asyncToGenerator

/-- The function that runs an asynchronous function with the given span, parameters and body. -/
def runAsync (isGenerator : Bool) (sp : Span) (params body : Node) : Lowering Node := do
  let params ← params.awaitsAsYields isGenerator
  let body ← body.awaitsAsYields isGenerator
  let generator := mk .fnExpr sp
    [none, mk (.func false true) sp [ofList [], params, body, none, none]]
  Lowering.callHelper (asyncRunner isGenerator) [generator]

/-- Parameters that only count: those up to the first with a default. -/
def countedParams (params : Node) : Lowering (List Node) :=
  let isPlain (p : Node) : Bool :=
    !((p.child 1).form matches .assignPat) && !((p.child 1).form matches .restPat)
  (params.items.takeWhile isPlain).mapM fun p => do
    return made .param [ofList [], ← Lowering.fresh ((p.child 1).identName?.getD "_")]

/-- `return runner.apply(this, arguments);`. -/
def applyToAll (runner : Node) : Node :=
  returnOf (callOf (dot runner "apply") [made .this [], global "arguments"])

/-- A function without decorators that is nothing but its parameters and body. -/
def plainFunc (params : List Node) (body : List Node) : Node :=
  made (.func false false) [ofList [], ofList params, blockOf body, none, none]

/-! ## Functions -/

end Node

/-- The statements that asynchronous functions put in front of the statement that they are part
of, and those that they put behind it. -/
structure AsyncBeside where
  before : List Node := []
  after : List Node := []
deriving Inhabited

/-- Computations that take asynchronous functions out of a statement. -/
abbrev TakingAsync := StateT AsyncBeside Lowering

namespace Node

/-- A declaration of an asynchronous function as one of a plain function; what runs it is declared
behind. -/
def splitAsyncDecl (name f : Node) : TakingAsync Node := do
  match f with
  | mk (.func _ isGenerator) sp (_ :: params :: body :: _) =>
    let runner ← if name.isNone then Lowering.fresh "_ref"
      else Lowering.fresh (madeName (name.identName?.getD ""))
    let counted ← countedParams params
    let run ← runAsync isGenerator sp params body
    let inner := made (.fnDecl false)
      [runner, plainFunc [] [stmt (assignTo runner run), applyToAll runner]]
    modify fun b => { b with after := b.after ++ [inner] }
    return plainFunc counted [applyToAll runner]
  | f => return f

/-- An asynchronous function as an expression. One that has a name, or parameters that count, is
made together with what runs it; `called` is the name under which it knows itself. -/
def asyncFunction (called : Option String) (name f : Node) : Lowering Node := do
  match f with
  | mk (.func _ isGenerator) sp (_ :: params :: body :: _) =>
    let counted ← countedParams params
    let run ← runAsync isGenerator sp params body
    if name.isNone && called.isNone && counted.isEmpty then return run.withSpan .pureMark
    let runner ← Lowering.fresh ((name.identName?.map madeName).getD "_ref")
    let keep := declare .var [(runner, run)]
    let inner := plainFunc counted [applyToAll runner]
    let code ←
      if name.isSome then pure [keep, made (.fnDecl false) [name, inner], returnOf name]
      else do
        let own ← match called with
          | some text => Lowering.fresh text
          | Option.none => pure none
        pure [keep, returnOf (made .fnExpr [own, inner])]
    return (callOf (made .fnExpr [none, plainFunc [] code]) []).withSpan .pureMark
  | f => return made .fnExpr [name, f]

/-- The code of a method, made ready to move into the function that runs it if it is
asynchronous, with the declarations of what it takes along. -/
def readyMethod (f : Node) : Lowering (Node × List Node) := do
  match f with
  | mk (.func true isGenerator) sp (ds :: params :: body :: rest) =>
    let (body, captured) ← captureAll false body
    return (mk (.func true isGenerator) sp (ds :: params :: body :: rest), ← captured.declarations)
  | f => return (f, [])

/-- Whether code uses `this`, outside of functions in it. -/
def usesThis (n : Node) : Bool :=
  n.anyOutside (·.form matches .func ..) (·.form matches .this)

/-- The body of an asynchronous method as that of a plain one, with declarations in front. -/
def asyncMethod (decls : List Node) (f : Node) : Lowering Node := do
  match f with
  | mk (.func true isGenerator) sp (ds :: params :: body :: _) =>
    let run ← runAsync isGenerator sp (ofList []) body
    let call := if body.usesThis then callOf (dot run "call") [made .this []] else callOf run []
    return mk (.func false false) sp [ds, params, blockOf (decls ++ [returnOf call]), none, none]
  | f => return f

/-- An asynchronous function that is called where it is made, if the expression is one: its name,
and the rest of it. -/
def calledAtOnce? : Node → Option (Node × Node)
  | mk .paren _ [e] => e.calledAtOnce?
  | mk .fnExpr _ [name, mk (.func true g) sp cs] => some (name, mk (.func true g) sp cs)
  | _ => Option.none

/-- An expression for an asynchronous function that is called where it is made. -/
def runAtOnce (name f : Node) : Lowering Node := do
  match f with
  | mk (.func _ isGenerator) sp (_ :: params :: body :: _) =>
    if name.isNone then runAsync isGenerator sp params body
    else return (← asyncFunction Option.none name f).withSpan .synthetic
  | f => return f

/-- An arrow function that is asynchronous as a function, with what it takes from around it
declared in front of the statement that it is part of. -/
def readyArrow (n : Node) : TakingAsync Node := do
  match n with
  | mk (.arrow true g) sp [params, body, _, _] =>
    let ((params, body), captured) ← (do
      let params ← takeAlong false false params
      return (params, ← takeAlong false false body) : Capturing (Node × Node)).run {}
    let decls ← captured.declarations
    modify fun b => { b with before := b.before ++ decls }
    let f := mk (.func true g) sp [ofList [], ofList params.asParams, body.asBody, none, none]
    return mk .fnExpr sp [none, f]
  | mk .paren sp [e] => return mk .paren sp [e]
  | n => return n

/-- An expression in parentheses with the innermost one rewritten. -/
def insideParens (f : Node → TakingAsync Node) : Node → TakingAsync Node
  | mk .paren sp [e] => return mk .paren sp [← e.insideParens f]
  | e => f e

/-- Statements without asynchronous functions, with what belongs beside each of them. -/
def takeAsyncEach (rec : Node → TakingAsync Node) : List Node → TakingAsync (List Node)
  | [] => return []
  | s :: ss => do
    let outer ← get
    set ({} : AsyncBeside)
    let s ← rec s
    let inner ← get
    set outer
    return inner.before ++ s :: inner.after ++ (← takeAsyncEach rec ss)

/-- A node without asynchronous functions, given how its parts are rewritten. -/
def takeAsync (rec : Node → TakingAsync Node) (n : Node) : TakingAsync Node := do
  match n with
  | mk .block sp stmts => return mk .block sp (← takeAsyncEach rec stmts)
  | mk (.module shebang) sp stmts => return mk (.module shebang) sp (← takeAsyncEach rec stmts)
  | mk .case sp [test, mk .list lsp stmts] =>
    return mk .case sp [← rec test, mk .list lsp (← takeAsyncEach rec stmts)]
  | mk (.method kind) sp [key, f] =>
    let key ← rec key
    return mk (.method kind) sp [key, ← asyncMethod [] (← rec f)]
  | mk (.classMethod kind mods) sp [key, f] =>
    let key ← rec key
    let (f, decls) ← f.readyMethod
    return mk (.classMethod kind mods) sp [key, ← asyncMethod decls (← rec f)]
  | mk (.fnDecl d) _ [name, mk (.func true g) fsp cs] =>
    let f ← (mk (.func true g) fsp cs).mapChildrenM rec
    return made (.fnDecl d) [name, ← splitAsyncDecl name f]
  | mk .exportDefaultDecl sp [mk .fnExpr esp [name, mk (.func true g) fsp cs]] =>
    let f ← (mk (.func true g) fsp cs).mapChildrenM rec
    return mk .exportDefaultDecl sp [mk .fnExpr esp [name, ← splitAsyncDecl name f]]
  | mk (.declarator d) sp [pattern, init] =>
    let pattern ← rec pattern
    match ← init.readyArrow with
    | mk .fnExpr _ [name, mk (.func true g) fsp cs] =>
      let f ← (mk (.func true g) fsp cs).mapChildrenM rec
      return mk (.declarator d) sp [pattern, ← asyncFunction pattern.identName? name f]
    | init => return mk (.declarator d) sp [pattern, ← rec init]
  | mk .call sp [callee, targs, args] =>
    let ready ← callee.insideParens readyArrow
    match ready.calledAtOnce? with
    | some (name, f) =>
      let f ← f.mapChildrenM rec
      let callee ← runAtOnce name f
      return mk .call sp [callee, targs, ← rec args]
    | Option.none => return mk .call sp [← rec callee, targs, ← rec args]
  | n =>
    match ← n.readyArrow with
    | mk .fnExpr _ [name, mk (.func true g) fsp cs] =>
      let f ← (mk (.func true g) fsp cs).mapChildrenM rec
      asyncFunction Option.none name f
    | n => n.mapChildrenM rec

/-- The module without asynchronous functions. What an arrow takes from around it makes its code
at most four times as deep. -/
def lowerAsync (module : Node) : Lowering Node := do
  return (← (visitWith takeAsync (4 * module.height + 4) module).run {}).1

end Node

end ScriptHost
