import ScriptHost.Parser.Declaration
/-!
# Statements

The rules for statements and blocks. A statement that starts with a word is
first taken for an expression where it can be one; a declaration or a label
shows only after the word.
-/

namespace ScriptHost

namespace Parse

/-- Reads an expression where `in` is an operator. -/
def exprWithIn (p : Descend) : Parse Node := within ({ · with includeIn := true }) (p .expr)

/-- Reads an expression in parentheses. -/
def parenExpr (p : Descend) : Parse Node := do
  expect "("
  let e ← exprWithIn p
  expect ")"
  return e

/-- Reads a statement that declares nothing. -/
def subStatement (p : Descend) : Parse Node := p (.statement false)

/-- Reads a block. -/
def block (p : Descend) : Parse Node := do
  let start ← pos
  expect "\x7b"
  let stmts ← within ({ · with usingAllowed := true, atTop := false })
    (itemsUntilBrace (p (.statement true)))
  node start .block stmts

/-- Reads the body of a loop. -/
def loopBody (p : Descend) : Parse Node :=
  within ({ · with breakAllowed := true, continueAllowed := true }) (subStatement p)

/-! ## Simple statements -/

/-- Reads `break` or `continue`. -/
def jump (isBreak : Bool) : Parse Node := do
  let start ← pos
  let _ ← bump
  let label ←
    if ← eatSemi then pure .none
    else do
      let l ← ident true true
      expectSemi
      pure l
  let span ← spanFrom start
  let here ← place
  let labels := (← get).labels
  let known := match label.identName? with
    | some l => labels.contains l
    | none => true
  if isBreak then
    if !known then note span .breakTarget
    else if !here.breakAllowed then note span .breakOutside
    return .mk .break span [label]
  else
    if !here.continueAllowed then note span .continueTarget
    else if !known then note span .continueLabel
    return .mk .continue span [label]

/-- Reads `if`. -/
def ifStatement (p : Descend) : Parse Node := do
  let start ← pos
  let _ ← bump
  let test ← parenExpr p
  let yes ← subStatement p
  let no ← if ← eat "else" then subStatement p else pure .none
  node start .ifStmt [test, yes, no]

/-- Reads `return`. -/
def returnStatement (p : Descend) : Parse Node := do
  let start ← pos
  let _ ← bump
  let e ← if ← isSemi then pure .none else exprWithIn p
  expectSemi
  unless (← place).inFunction do note (← spanFrom start) .returnNotAllowed
  node start .return [e]

/-- Reads `throw`. -/
def throwStatement (p : Descend) : Parse Node := do
  let start ← pos
  let _ ← bump
  if ← lineBreak then fail .lineBreakInThrow
  let e ← exprWithIn p
  expectSemi
  node start .throw [e]

/-- Reads `switch`. -/
def switchStatement (p : Descend) : Parse Node := do
  let start ← pos
  let _ ← bump
  let subject ← parenExpr p
  expect "\x7b"
  let (cases, _) ← within ({ · with breakAllowed := true }) do
    repeatUntil (([] : List Node), false) fun (acc, hasDefault) => do
      unless ← isOneOf ["case", "default"] do return .inr (acc, hasDefault)
      let caseStart ← pos
      let isCase ← is "case"
      let _ ← bump
      let test ←
        if isCase then exprWithIn p
        else do
          if hasDefault then fail .multipleDefaults
          pure .none
      expect ":"
      let body ← repeatUntil [] fun body => do
        if (← atEnd) || (← isOneOf ["case", "default", "\x7d"]) then return .inr body
        return .inl (body ++ [← p (.statement true)])
      let c ← node caseStart .case [test, .ofList body]
      return .inl (acc ++ [c], hasDefault || !isCase)
  expect "\x7d"
  node start .switch [subject, .ofList cases]

/-- Reads a `catch` clause if it is there. -/
def catchClause (p : Descend) : Parse Node := do
  let start ← pos
  unless ← eat "catch" do return .none
  let param ←
    if ← eat "(" then do
      let pat ← binding p false
      let annStart ← pos
      let pat ←
        if ← (typed <&&> eat ":") then do
          let t ← inType (p .type)
          let ann ← node annStart .typeAnn [t]
          pure (pat.withTypeAnn ann)
        else pure pat
      expect ")"
      pure pat
    else pure .none
  let body ← p .block
  node start .catchClause [param, body]

/-- Reads a `finally` block if it is there. -/
def finallyBlock (p : Descend) : Parse Node := do
  if ← eat "finally" then p .block else return .none

/-- Reads `try`. -/
def tryStatement (p : Descend) : Parse Node := do
  let start ← pos
  let _ ← bump
  let body ← p .block
  let catchStart ← pos
  let handler ← catchClause p
  let finalizer ← finallyBlock p
  if handler.isNone && finalizer.isNone then note (.at_ catchStart) .expectedSemicolon
  node start .tryStmt [body, handler, finalizer]

/-- Reads `with`. -/
def withStatement (p : Descend) : Parse Node := do
  let start ← pos
  if ← typed then noteHere .withNotSupported
  noteStrict (← currentSpan) .withInStrict
  let _ ← bump
  let object ← parenExpr p
  let body ← within ({ · with inFunction := true }) (subStatement p)
  node start .withStmt [object, body]

/-! ## Loops -/

/-- Reads `while`. -/
def whileStatement (p : Descend) : Parse Node := do
  let start ← pos
  let _ ← bump
  let test ← parenExpr p
  let body ← loopBody p
  node start .whileStmt [test, body]

/-- Reads `do`. -/
def doStatement (p : Descend) : Parse Node := do
  let start ← pos
  let _ ← bump
  let body ← loopBody p
  expect "while"
  let test ← parenExpr p
  let _ ← eatSemi
  node start .doWhile [body, test]

/-- Whether a token may follow `let` in a declaration. -/
def followsLet (t : Token) : Bool :=
  match t with
  | .punct "[" => true
  | .punct "\x7b" => true
  | .keyword w => ["let", "yield", "await"].contains w
  | .ident _ => true
  | _ => false

/-- Whether a declaration that starts with `let` stands here. -/
def atLet : Parse Bool := do
  unless ← is "let" do return false
  return ((← ahead).map (followsLet ·.token)).getD false

/-- The head of a loop. -/
inductive LoopHead where
  | counted (init test update : Node)
  | over (form : Form) (left right : Node)

/-- Passes a semicolon that no line end replaces. -/
def expectPlainSemi : Parse Unit := expect ";"

/-- Reads the head of a loop that counts after its first part. -/
def countedHead (p : Descend) (init : Node) : Parse LoopHead := do
  let test ←
    if ← eat ";" then pure .none
    else do
      let e ← exprWithIn p
      expectPlainSemi
      pure e
  let update ← if ← is ")" then pure .none else exprWithIn p
  return .counted init test update

/-- Reads the head of a loop over something after its first part. -/
def overHead (p : Descend) (left : Node) (isAwait : Bool) : Parse LoopHead := do
  let keyword ← bump
  if keyword.is "of" then
    let right ← assignWithIn p
    return .over (.forOf isAwait) left right
  if left.form matches .usingDecl _ then note left.span .usingInForIn
  let right ← exprWithIn p
  return .over .forIn left right

/-- Notes what a declaration in the head of a loop over something must not have. -/
def checkLoopDecl (decl : Node) : Parse Unit := do
  match decl.children with
  | [d] =>
    let name := d.child 0
    if (d.child 1).isSome then note name.span .loopInitializer
    if (← typed) && name.patternAnn.isSome then note name.span .loopTypeAnn
  | ds => for d in ds.drop 1 do note (d.child 0).span .tooManyLoopVars

/-- The kind of resource that an expression at the head of a loop turns out to declare. -/
def usingMark (e : Node) : Option Bool :=
  match e with
  | .mk (.ident "using" _ _) _ _ => some false
  | .mk .await _ [.mk (.ident "using" _ _) _ _] => some true
  | _ => none

/-- Reads the head of a loop. -/
def loopHead (p : Descend) (isAwait : Bool) : Parse LoopHead := do
  if (← isOneOf ["const", "var"]) || (← atLet) then
    let decl ← varDecl p true
    if ← isOneOf ["of", "in"] then
      checkLoopDecl decl
      return ← overHead p decl isAwait
    expectPlainSemi
    return ← countedHead p decl
  if ← eat ";" then return ← countedHead p .none
  let start ← pos
  let init ← within ({ · with includeIn := false }) (p .expr)
  if ← typed then
    if let some isAwaitUsing := usingMark init then
      if ← (notM (is "of") <&&> (aheadIs "of" <||> aheadIs "in")) then
        let name ← bindingIdent false
        let d ← node start (.declarator false) [name, .none]
        let decl ← node start (.usingDecl isAwaitUsing) [d]
        unless ← is "of" do noteHere .usingInForIn
        return ← overHead p decl isAwait
  if ← isOneOf ["of", "in"] then
    let isIn ← is "in"
    let pat ← toPattern .assignment init
    if (← typed) && isIn then
      match pat.form with
      | .arrayPat _ | .objectPat _ | .invalidPat => note pat.span .loopPattern
      | _ => pure ()
    return ← overHead p pat isAwait
  expectPlainSemi
  countedHead p init

/-- Reads `for`. -/
def forStatement (p : Descend) : Parse Node := do
  let start ← pos
  let _ ← bump
  let awaitStart ← pos
  let isAwait ← eat "await"
  let awaitSpan ← spanFrom awaitStart
  expect "("
  let head ← within (fun here => { here with
      loopInit := true, awaitLoopInit := here.awaitLoopInit || isAwait }) (loopHead p isAwait)
  expect ")"
  let body ← loopBody p
  match head with
  | .counted init test update =>
    if isAwait then failAt awaitSpan .awaitForNotOf
    node start .forStmt [init, test, update, body]
  | .over form left right =>
    if isAwait && form == .forIn then failAt awaitSpan .awaitForNotOf
    node start form [left, right, body]

/-! ## Labels, resources and expressions -/

/-- Reads a statement after its label. -/
def labelled (p : Descend) (label : Node) : Parse Node :=
  within ({ · with breakAllowed := true, usingAllowed := false }) do
    let name := label.identName?.getD ""
    let seen := (← get).labels.contains name
    modify fun s => { s with labels := s.labels ++ [name] }
    let body ←
      if ← is "function" then do
        let f ← functionDecl p [] none
        match (f.child 1).form with
        | .func isAsync isGenerator =>
          if isAsync || isGenerator then note (f.child 1).span .labelledGeneratorOrAsync
        | _ => pure ()
        pure f
      else subStatement p
    if seen then note label.span (.duplicateLabel name)
    modify fun s => { s with labels := s.labels.erase name }
    node label.span.lo .labeled [label, body]

/-- Reads a declaration of resources if one starts here. -/
def usingDecl? (p : Descend) (start : Pos) (isAwait : Bool) : Parse (Option Node) := do
  let _ ← current
  if ← lineBreakAhead then return none
  unless ← aheadIsIdent do return none
  let keywordSpan ← currentSpan
  let _ ← bump
  let vars ← repeatUntil [] fun acc => do
    if ← isSemi then
      note (← prevSpan) .trailingComma
      return .inr acc
    let v ← declarator p false .var
    if ← eat "," then return .inl (acc ++ [v])
    return .inr (acc ++ [v])
  unless ← typed do note (← spanFrom start) .usingNotEnabled
  unless (← place).usingAllowed do note (← spanFrom start) .usingNotAllowed
  for v in vars do
    unless (v.child 0).form matches .ident .. do note keywordSpan .usingPattern
    if (v.child 1).isNone then note (← spanFrom start) .usingWithoutInit
  expectSemi
  return some (← node start (.usingDecl isAwait) vars)

/-- Reads a statement that starts with an expression. -/
def expressionStatement (p : Descend) (start : Pos) (decorators : List Node) : Parse Node := do
  let e ← exprWithIn p
  if e.form matches .ident .. then
    if ← eat ":" then return ← labelled p e
    if e.identName? == some "interface" && (← lineBreak) then
      noteStrict e.span (.reservedInStrict "interface")
      let _ ← eatSemi
      return ← node start .exprStmt [e]
    if ← typed then
      if let some d ← declAfterIdent? p decorators e then return d
      match e.identName? with
      | some name =>
        if name == "enum" || name == "interface" then noteStrict e.span (.reservedInStrict name)
      | none => pure ()
  if ← eatSemi then return ← node start .exprStmt [e]
  if ← isBinaryOp then
    noteHere .expectedSemicolon
    let e ← p (.binaryTail e 0)
    return ← node start .exprStmt [e]
  fail .expectedSemiOrEnd

/-- Reads a statement that stands in place of one that only belongs to `try`. -/
def strayHandler (p : Descend) (withCatch : Bool) : Parse Node := do
  let span ← currentSpan
  note span .expectedSemicolon
  if withCatch then
    let _ ← orError (catchClause p)
  let _ ← orError (finallyBlock p)
  return .mk .exprStmt span [.mk .invalid span []]

/-! ## Statements -/

/-- Whether a word and another one on the same line stand here. -/
def wordThenWord (w : String) : Parse Bool := do
  unless (← typed) && (← is w) do return false
  return ← (aheadIsWord <&&> notM lineBreakAhead)

/-- Reads a statement after its decorators. -/
def statementAfter (p : Descend) (start : Pos) (declares : Bool) (decorators : List Node) :
    Parse Node := do
  if ← (typed <&&> is "const" <&&> aheadIs "enum") then
    let _ ← bump
    let _ ← bump
    return ← enumTail p start true
  let t ← required
  match t.token with
  | .keyword "await" =>
    if ← (pure declares <&&> aheadIs "using") then
      let awaitStart ← pos
      let _ ← bump
      if let some d ← usingDecl? p start true then return d
      let e ← awaitTail p awaitStart
      let e ← within ({ · with includeIn := true }) (p (.binaryTail e 0))
      let _ ← eatSemi
      return ← node start .exprStmt [e]
  | .keyword "break" => return ← jump true
  | .keyword "continue" => return ← jump false
  | .keyword "debugger" =>
    let _ ← bump
    expectSemi
    return ← node start .debugger []
  | .keyword "do" => return ← doStatement p
  | .keyword "for" => return ← forStatement p
  | .keyword "function" =>
    unless declares do noteHere .declarationNotAllowed
    return ← functionDecl p decorators none
  | .keyword "class" =>
    unless declares do noteHere .declarationNotAllowed
    return ← classDecl p start decorators false
  | .keyword "if" => return ← ifStatement p
  | .keyword "return" => return ← returnStatement p
  | .keyword "switch" => return ← switchStatement p
  | .keyword "throw" => return ← throwStatement p
  | .keyword "catch" => return ← strayHandler p true
  | .keyword "finally" => return ← strayHandler p false
  | .keyword "try" => return ← tryStatement p
  | .keyword "with" => return ← withStatement p
  | .keyword "while" => return ← whileStatement p
  | .keyword "var" => return ← varDecl p false
  | .keyword "const" => if declares then return ← varDecl p false
  | .keyword "let" => if declares && (← atLet) then return ← varDecl p false
  | .ident "using" =>
    if declares then
      if let some d ← usingDecl? p start false then return d
  | .ident "interface" =>
    if ← wordThenWord "interface" then
      let _ ← bump
      return ← interfaceTail p t.span.lo
  | .ident "type" =>
    if ← wordThenWord "type" then
      let _ ← bump
      return ← aliasTail p t.span.lo
  | .ident "enum" =>
    if ← wordThenWord "enum" then
      let _ ← bump
      return ← enumTail p t.span.lo false
  | .punct "\x7b" => return ← within ({ · with usingAllowed := true }) (p .block)
  | .punct ";" =>
    let _ ← bump
    return ← node start .empty []
  | _ => pure ()
  if ← (is "async" <&&> aheadIs "function" <&&> notM lineBreakAhead) then
    let _ ← bump
    return ← functionDecl p decorators (some t.span.lo)
  expressionStatement p start decorators

/-- Reads a statement with the decorators in front of it. -/
def statement (p : Descend) (declares : Bool) : Parse Node := do
  let start ← pos
  let decorators ← decorators p true
  if ← isOneOf ["import", "export"] then
    if ← (is "import" <&&> (aheadIs "(" <||> aheadIs ".")) then
      let e ← p .expr
      let _ ← eatSemi
      return ← node start .exprStmt [e]
    fail .notTopLevel
  within ({ · with expectsColon := false, usingAllowed := true })
    (statementAfter p start declares decorators)

end Parse

end ScriptHost
