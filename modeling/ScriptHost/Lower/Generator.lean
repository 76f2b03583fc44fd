import ScriptHost.Lower.StepValue
/-!
# Generators

A generator becomes a function that answers an object which runs its code step
by step. Its variables belong to the function around the steps.

- `Exit`: where a `break` or `continue` leads to.
- `Node.wayOut`: a statement that hands nothing out, with the ways out of it as answers.
- `Node.stmtSteps`: the steps of a statement.
- `Node.lowerGenerator`: a generator as a plain function.
-/

namespace ScriptHost

/-- A statement that `break` or `continue` may leave. -/
structure Exit where
  labels : List String := []
  /-- Whether a `break` without a label means the statement. -/
  isPlain : Bool := true
  breakTo : Label
  continueTo : Option Label := none
deriving Inhabited

namespace Exit

/-- The place that a `break` leads to. -/
def breakPlace (exits : List Exit) (label : Node) : Option Label :=
  match label.nameText? with
  | some text => (exits.find? (·.labels.contains text)).map (·.breakTo)
  | none => (exits.find? (·.isPlain)).map (·.breakTo)

/-- The place that a `continue` leads to. -/
def continuePlace (exits : List Exit) (label : Node) : Option Label :=
  match label.nameText? with
  | some text => (exits.find? (·.labels.contains text)).bind (·.continueTo)
  | none => exits.findSome? (·.continueTo)

end Exit

/-- What plain statements around, which are no steps of their own, do with the ways out. -/
structure Inner where
  /-- Whether one of them ends a `break` without a label. -/
  breaks : Bool := false
  /-- Whether one of them goes on at a `continue` without a label. -/
  continues : Bool := false
  labels : List String := []

/-- Whether a `break` or `continue` stays inside, where one without a label may do so. -/
def Inner.keeps (inner : Inner) (plain : Bool) (label : Node) : Bool :=
  match label.nameText? with
  | some text => inner.labels.contains text
  | none => plain

namespace Node

/-! ## Variables -/

/-- The assignments of a declaration, and its variables. -/
def splitDecl (decls : List Node) : List Node × List Node :=
  let sets := decls.filterMap fun (d : Node) =>
    if (d.child 1).isNone then Option.none else some (assignTo (d.child 0) (d.child 1))
  (sets, decls.map fun (d : Node) => d.child 0)

/-! ## Statements that hand nothing out -/

mutual
/-- A statement that hands nothing out, with the ways out of it as answers. -/
def wayOut (exits : List Exit) (inner : Inner) : Node → Stepping Node
  | mk (.func a g) sp cs => return mk (.func a g) sp cs
  | mk (.arrow a g) sp cs => return mk (.arrow a g) sp cs
  | mk .return _ [value] => return Step.answer .leave value.toOption
  | mk .break sp [label] =>
    match if inner.keeps inner.breaks label then Option.none else Exit.breakPlace exits label with
    | some l => return Step.answer .jump (some (Step.placeMark l))
    | Option.none => return mk .break sp [label]
  | mk .continue sp [label] =>
    match if inner.keeps inner.continues label then Option.none
      else Exit.continuePlace exits label with
    | some l => return Step.answer .jump (some (Step.placeMark l))
    | Option.none => return mk .continue sp [label]
  | mk (.varDecl _ _) sp decls => do
    let (sets, vars) := splitDecl decls
    Stepping.declare vars
    match joinExprs sets with
    | some e => return stmt e
    | Option.none => return mk .empty sp []
  | mk .forStmt sp (mk (.varDecl _ _) _ decls :: rest) => do
    let (sets, vars) := splitDecl decls
    Stepping.declare vars
    let inner := { inner with breaks := true, continues := true }
    return mk .forStmt sp (((joinExprs sets).getD none) :: (← waysOut exits inner rest))
  | mk .forIn sp (mk (.varDecl _ _) _ decls :: rest) => do
    let (_, vars) := splitDecl decls
    Stepping.declare vars
    let inner := { inner with breaks := true, continues := true }
    return mk .forIn sp (vars.headD none :: (← waysOut exits inner rest))
  | mk .labeled sp [label, body] => do
    let inner := { inner with labels := label.nameText?.toList ++ inner.labels }
    return mk .labeled sp [label, ← wayOut exits inner body]
  | mk form sp cs => do
    let inner := match form with
      | .whileStmt | .doWhile | .forStmt | .forIn =>
        { inner with breaks := true, continues := true }
      | .switch => { inner with breaks := true }
      | _ => inner
    return mk form sp (← waysOut exits inner cs)
/-- Statements that hand nothing out, with the ways out of them as answers. -/
def waysOut (exits : List Exit) (inner : Inner) : List Node → Stepping (List Node)
  | [] => return []
  | c :: cs => do
    let c ← wayOut exits inner c
    return c :: (← waysOut exits inner cs)
end

/-- Writes down a statement with expressions that need no more steps. -/
def writeStmt (s : Node) : Stepping Unit :=
  Stepping.emit (if s.form matches .empty then .idle else .run s)

/-- Writes down a statement that hands nothing out. -/
def plainStep (exits : List Exit) (s : Node) : Stepping Unit := do
  writeStmt (← wayOut exits {} s)

/-! ## Statements that hand values out -/

/-- Writes down expressions that are evaluated for their effects. Those in front of one that hands
something out are a statement of their own; `pending` are those still to be written down. -/
def effectSteps (pending : List Node) (es : List Node) : Stepping Unit := do
  ((joinExprs (← seqSteps pending es)).map Stepping.effect).getD (pure ())

/-- Writes down that variables are declared and set. -/
def declSteps (decls : List Node) : Stepping Unit := do
  let (sets, vars) := splitDecl decls
  Stepping.declare vars
  effectSteps [] sets

/-- Writes down what comes before the first round of a loop. -/
def initSteps (init : Node) : Stepping Unit := do
  match init with
  | mk (.varDecl _ _) _ decls => declSteps decls
  | e => if e.isSome then Stepping.effect (← e.valueSteps)

/-- Writes down a jump out of a loop whose test fails. -/
def testSteps (test : Node) (done : Label) : Stepping Unit := do
  if test.isSome then Stepping.emit (.jumpIf (negated (← test.valueSteps)) done)

/-- Writes down a choice among cases, if there are any. -/
def choiceStep (subject : Node) (cases : List Node) : Stepping Unit := do
  if !cases.isEmpty then Stepping.emit (.run (made .switch [subject, ofList cases]))

/-- Writes down the choices among cases by their tests. Those in front of a test that hands
something out are a choice of their own; `pending` are those still to be written down. -/
def choiceSteps (subject : Node) (pending : List Node) : List (Node × Label) → Stepping Unit
  | [] => choiceStep subject pending
  | (test, place) :: tests => do
    let pending ←
      if test.hasYield then do
        choiceStep subject pending
        pure []
      else pure pending
    let jump := Step.answer .jump (some (Step.placeMark place))
    choiceSteps subject
      (pending ++ [made .case [← test.valueSteps, ofList [jump]]]) tests

/-- Writes down the jumps to the cases of a `switch`, and answers their places. -/
def caseSteps (subject : Node) (done : Label) (cases : List Node) : Stepping (List Label) := do
  let places ← cases.mapM fun _ => Stepping.label
  let placed := (cases.map fun (c : Node) => c.child 0).zip places
  choiceSteps subject [] (placed.filter (·.1.isSome))
  let other := placed.find? (·.1.isNone)
  Stepping.emit (.jump ((other.map (·.2)).getD done))
  return places

mutual
/-- Writes down the steps of a statement behind the given labels. A block that is the body of
another statement, as `isBody` tells, is no statement of its own. -/
def stmtSteps (exits : List Exit) (labels : List String) (isBody : Bool) (s : Node) :
    Stepping Unit :=
  match s with
  | mk .return _ [value] => do
    let value ← value.valueSteps
    Stepping.emit (.leave value.toOption)
  | mk .throw _ [error] => do Stepping.emit (.raise (← error.valueSteps))
  | mk .break sp [label] =>
    match Exit.breakPlace exits label with
    | some l => Stepping.emit (.jump l)
    | Option.none => Stepping.emit (.run (mk .break sp [label]))
  | mk .continue sp [label] =>
    match Exit.continuePlace exits label with
    | some l => Stepping.emit (.jump l)
    | Option.none => Stepping.emit (.run (mk .continue sp [label]))
  | mk (.varDecl _ _) _ decls => do
    if s.hasYield then declSteps decls else plainStep exits s
  | mk .block _ stmts =>
    if isBody || s.hasYield then stmtsSteps exits stmts else plainStep exits s
  | mk .ifStmt _ [test, yes, no] => do
    if !yes.hasYield && !no.hasYield then
      let test ← test.valueSteps
      let yes ← wayOut exits {} yes
      let no ← wayOut exits {} no
      Stepping.emit (.run (made .ifStmt [test, yes, no]))
    else
      let done ← Stepping.label
      let other ← Stepping.label
      testSteps test (if no.isNone then done else other)
      stmtSteps exits [] true yes
      if no.isSome then
        Stepping.emit (.jump done)
        Stepping.emit (.mark other)
        stmtSteps exits [] true no
      Stepping.emit (.mark done)
  | mk .whileStmt _ [test, body] => do
    if !s.hasYield then plainStep exits s
    else
      let start ← Stepping.label
      let done ← Stepping.label
      Stepping.emit (.mark start)
      testSteps test done
      stmtSteps ({ labels, breakTo := done, continueTo := some start } :: exits) [] true body
      Stepping.emit (.jump start)
      Stepping.emit (.mark done)
  | mk .doWhile _ [body, test] => do
    if !s.hasYield then plainStep exits s
    else
      let again ← Stepping.label
      let start ← Stepping.label
      let done ← Stepping.label
      Stepping.emit (.mark start)
      stmtSteps ({ labels, breakTo := done, continueTo := some again } :: exits) [] true body
      Stepping.emit (.mark again)
      Stepping.emit (.jumpIf (← test.valueSteps) start)
      Stepping.emit (.mark done)
  | mk .forStmt _ [init, test, update, body] => do
    if !s.hasYield then plainStep exits s
    else
      let start ← Stepping.label
      let again ← Stepping.label
      let done ← Stepping.label
      initSteps init
      Stepping.emit (.mark start)
      testSteps test done
      stmtSteps ({ labels, breakTo := done, continueTo := some again } :: exits) [] true body
      Stepping.emit (.mark again)
      if update.isSome then Stepping.effect (← update.valueSteps)
      Stepping.emit (.jump start)
      Stepping.emit (.mark done)
  | mk .forIn _ [left, right, body] => do
    if !s.hasYield then plainStep exits s
    else
      let object ← Stepping.newResult
      let keys ← Stepping.newResult
      let key ← Stepping.newResult
      let i ← Stepping.newVar "_i"
      Stepping.effect (assignTo object (← right.valueSteps))
      Stepping.effect (assignTo keys (made .array []))
      Stepping.emit
        (.run (made .forIn [key, object, stmt (callOf (dot keys "push") [key])]))
      Stepping.effect (assignTo i (nat 0))
      let start ← Stepping.label
      let again ← Stepping.label
      let done ← Stepping.label
      Stepping.emit (.mark start)
      testSteps (made (.binary .lt) [i, dot keys "length"]) done
      Stepping.effect (assignTo key (index keys i))
      testSteps (made (.binary .isIn) [key, object]) again
      let target ← match left with
        | mk (.varDecl _ _) _ decls => do
          let (_, vars) := splitDecl decls
          Stepping.declare vars
          pure (vars.headD none)
        | target => target.valueSteps
      Stepping.effect (assignTo target key)
      stmtSteps ({ labels, breakTo := done, continueTo := some again } :: exits) [] true body
      Stepping.emit (.mark again)
      Stepping.effect (made (.update .increment false) [i])
      Stepping.emit (.jump start)
      Stepping.emit (.mark done)
  | mk .switch sp [subject, mk .list lsp cases] => do
    if !anyList hasYield cases then
      let cases ← wayOut exits { breaks := true } (mk .list lsp cases)
      Stepping.emit (.run (mk .switch sp [← subject.valueSteps, cases]))
    else
      let done ← Stepping.label
      let subject ← Stepping.keep (← subject.valueSteps)
      let places ← caseSteps subject done cases
      casesSteps ({ labels, breakTo := done } :: exits) places cases
      Stepping.emit (.mark done)
  | mk .labeled _ [label, body] => do
    if !s.hasYield then plainStep exits s
    else
      let labels := label.nameText?.toList ++ labels
      match body.form with
      | .whileStmt | .doWhile | .forStmt | .forIn | .switch | .labeled =>
        stmtSteps exits labels false body
      | _ =>
        let done ← Stepping.label
        stmtSteps ({ labels, isPlain := false, breakTo := done } :: exits) [] true body
        Stepping.emit (.mark done)
  | mk .tryStmt _ [block, handler, final] => do
    if !s.hasYield then plainStep exits s
    else
      let start ← Stepping.label
      let stop ← Stepping.label
      let caught ← if handler.isSome then some <$> Stepping.label else pure Option.none
      let last ← if final.isSome then some <$> Stepping.label else pure Option.none
      Stepping.emit (.mark start)
      Stepping.emit (.protect ⟨start, caught, last, stop⟩)
      Stepping.emit .idle
      stmtSteps exits [] true block
      caught.forM fun l => do
        Stepping.emit (.jump stop)
        Stepping.emit (.mark l)
      handlerSteps exits handler
      last.forM fun l => do
        Stepping.emit (.jump stop)
        Stepping.emit (.mark l)
      stmtSteps exits [] true final
      Stepping.emit .unprotect
      Stepping.emit (if final.isSome then .endFinal else .jump stop)
      Stepping.emit (.mark stop)
      Stepping.emit .idle
  | mk .absent _ _ => return
  | mk form sp cs => do
    if s.hasYield then writeStmt (mk form sp (← valuesSteps cs)) else plainStep exits s
/-- Writes down the steps of statements. -/
def stmtsSteps (exits : List Exit) : List Node → Stepping Unit
  | [] => return
  | s :: ss => do
    stmtSteps exits [] false s
    stmtsSteps exits ss
/-- Writes down the steps of the cases of a `switch`, each from its place on. -/
def casesSteps (exits : List Exit) (places : List Label) : List Node → Stepping Unit
  | mk .case _ [_, mk .list _ stmts] :: cases => do
    Stepping.emit (.mark (places.headD 0))
    stmtsSteps exits stmts
    casesSteps exits places.tail cases
  | _ => return
/-- Writes down the steps of what catches an error. -/
def handlerSteps (exits : List Exit) : Node → Stepping Unit
  | mk .catchClause _ [param, body] => do
    let error ← Stepping.sent
    if param.isSome then
      Stepping.declare [param]
      Stepping.effect (assignTo param error)
    Stepping.emit .idle
    stmtSteps exits [] true body
  | _ => return
end

/-! ## Functions -/

/-- Variables, each once. -/
def distinctVars (vars : List Node) : List Node :=
  vars.foldl (fun vs v => if vs.any (·.identId? == v.identId?) then vs else vs ++ [v]) []

/-- The statements of a generator as those of a function that answers it. -/
def generatorCode (stmts : List Node) : Lowering (List Node) := do
  let isFunction (s : Node) : Bool := s.form matches .fnDecl _
  let (code, captured) ←
    captureAll true (blockOf (stmts.filter fun s => !isFunction s && !s.isDirective))
  let state ← Lowering.fresh "_state"
  let (_, s) ← (stmtsSteps [] code.children).run { state }
  let run := funcOf [state] (Step.code state s.steps) false false
  let answer ← Lowering.callHelper .tsGenerator [made .this [], made .fnExpr [none, run]]
  return stmts.filter isDirective ++ declareVars (distinctVars s.vars) ++ (← captured.declarations)
    ++ stmts.filter isFunction ++ [returnOf answer]

/-- A generator as a plain function. -/
def lowerGenerator (n : Node) : Lowering Node := do
  match n with
  | mk (.func a true) sp (ds :: params :: body :: rest) =>
    if body.form matches .block then
      let code ← generatorCode body.children
      return mk (.func a false) sp (ds :: params :: body.withChildren code :: rest)
    else return n
  | n => return n

end Node

end ScriptHost
