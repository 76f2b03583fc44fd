import ScriptHost.Parser.Statement
/-!
# Imports and exports

The rules for what a module asks of other modules and offers them. In typed
texts the word `type` may stand before a name or be the name itself.
-/

namespace ScriptHost

namespace Parse

/-! ## Sources -/

/-- Reads the string that names another module. -/
def moduleSource : Parse Node := do
  let t ← required
  match t.token with
  | .str .. => literal
  | _ => unexpected "a string literal"

/-- Reads the attributes of an import if they are there. -/
def importAttributes (p : Descend) : Parse Node := do
  let _ ← current
  if (← typed) && !(← lineBreak) then
    if ← (eat "assert" <||> eat "with") then return ← p .object
  return .none

/-- Reads `from` with the module and its attributes. -/
def fromClause (p : Descend) : Parse (Node × Node) := do
  expect "from"
  let source ← moduleSource
  let attributes ← importAttributes p
  expectSemi
  return (source, attributes)

/-- Whether the current token may stand after a modifier `type`: any word. -/
def reservedImport (name : Node) : Parse Unit := do
  if isReserved (name.identName?.getD "") then failAt name.span .reservedWordInImport

/-! ## Imports -/

/-- Reads an imported name after a word `type` that another word follows. -/
def importAfterType (start : Pos) (typeWord : Node) (isTypeOnly : Bool) :
    Parse (Node ⊕ Node) := do
  let name ← anyIdent
  let noteType : Parse Unit := do if isTypeOnly then note typeWord.span .typeOnImportSpecifier
  if name.identName? != some "as" then
    noteType
    return .inr name
  unless ← isWord do
    reservedImport name
    noteType
    return .inl (← node start (.importNamed true) [name, .none])
  let second ← bindingIdent false
  if second.identName? == some "as" then
    if ← isWord then
      let local_ ← bindingIdent false
      noteType
      return .inl (← node start (.importNamed true) [local_, name])
    return .inl (.mk (.importNamed false) ⟨start, second.span.hi⟩ [second, typeWord])
  return .inl (.mk (.importNamed false) ⟨start, typeWord.span.hi⟩ [second, typeWord])

/-- Reads a name in the braces of an import. -/
def importSpecifier (isTypeOnly : Bool) : Parse Node := do
  let start ← pos
  let first ← exportName
  match first.form with
  | .str value _ =>
    if ← eat "as" then
      let local_ ← bindingIdent false
      return .mk (.importNamed false) ⟨start, local_.span.hi⟩ [local_, first]
    failAt first.span (.importBindingIsString value)
  | _ =>
    let (name, typed) ←
      if (← typed) && first.identName? == some "type" && (← isWord) then
        match ← importAfterType start first isTypeOnly with
        | .inl whole => return whole
        | .inr name => pure (name, true)
      else pure (first, false)
    if ← eat "as" then
      let local_ ← bindingIdent false
      return .mk (.importNamed typed) ⟨start, local_.span.hi⟩ [local_, name]
    reservedImport name
    node start (.importNamed typed) [name, .none]

/-- Reads a name that an import binds. -/
def importedName : Parse Node :=
  within ({ · with inAsync := false, inGenerator := false }) (bindingIdent false)

/-- Reads `= …` of an import that gives a module or namespace another name. -/
def importEqualsTail (start : Pos) (id : Node) (isExport isTypeOnly : Bool) : Parse Node := do
  expect "="
  let target ←
    if ← (is "require" <&&> aheadIs "(") then do
      let refStart ← pos
      let _ ← bump
      expect "("
      let source ← moduleSource
      expect ")"
      node refStart .externalRef [source]
    else entityName false
  expectSemi
  node start (.importEquals isExport isTypeOnly) [id, target]

/-- Reads what an import binds after the default name. -/
def importRest (isTypeOnly : Bool) : Parse (List Node) := do
  let start ← pos
  if ← eat "*" then
    expect "as"
    let local_ ← importedName
    return [← node start .importAll [local_]]
  if ← eat "\x7b" then
    let names ← repeatUntil [] fun acc => do
      if (← atEnd) || (← is "\x7d") then return .inr acc
      let s ← importSpecifier isTypeOnly
      unless ← is "\x7d" do expect ","
      return .inl (acc ++ [s])
    expect "\x7d"
    return names
  return []

/-- Reads an import. -/
def importItem (p : Descend) : Parse Node := do
  let start ← pos
  if ← (aheadIs "." <||> aheadIs "(") then
    let e ← p .expr
    let _ ← eatSemi
    return ← node start .exprStmt [e]
  let _ ← bump
  if ← isString then
    let source ← literal
    let attributes ← importAttributes p
    expectSemi
    return ← node start (.importDecl false) [.ofList [], source, attributes]
  let mut isTypeOnly := false
  let mut specifiers : List Node := []
  if ← isIdent then
    let first ← importedName
    let mut local_ := first
    let mut binds := true
    if (← typed) && first.identName? == some "type" then
      if ← isOneOf ["*", "\x7b"] then
        isTypeOnly := true
        binds := false
      else if ← isIdent then
        if ← (notM (is "from") <||> aheadIs "from") then
          isTypeOnly := true
          local_ ← importedName
        else if ← aheadIs "=" then
          isTypeOnly := true
          local_ ← anyIdent
    if binds then
      if (← typed) && (← is "=") then return ← importEqualsTail start local_ false isTypeOnly
      unless ← is "from" do expect ","
      specifiers := [.mk .importDefault local_.span [local_]]
  let rest ← importRest isTypeOnly
  let (source, attributes) ← fromClause p
  node start (.importDecl isTypeOnly) [.ofList (specifiers ++ rest), source, attributes]

/-! ## Exports -/

/-- Reads an exported name after a word `type` that another word follows. -/
def exportAfterType (start : Pos) (typeWord : Node) (isTypeOnly : Bool) :
    Parse (Node ⊕ Node) := do
  let name ← anyIdent
  let noteType : Parse Unit := do if isTypeOnly then note typeWord.span .typeOnExportSpecifier
  let short : Span := ⟨start, typeWord.span.hi⟩
  if name.identName? != some "as" then
    noteType
    return .inr name
  unless ← isWord do
    noteType
    return .inl (← node start (.exportSpecifier true) [name, .none])
  let second ← anyIdent
  if second.identName? == some "as" then
    if ← isWord then
      let exported ← anyIdent
      noteType
      return .inl (.mk (.exportSpecifier true) short [name, exported])
    return .inl (.mk (.exportSpecifier false) short [typeWord, second])
  return .inl (.mk (.exportSpecifier false) short [typeWord, second])

/-- Reads a name in the braces of an export. -/
def exportSpecifier (isTypeOnly : Bool) : Parse Node := do
  let start ← pos
  let first ← exportName
  let (name, typed) ←
    if (← typed) && first.identName? == some "type" && (← isWord) then
      match ← exportAfterType start first isTypeOnly with
      | .inl whole => return whole
      | .inr name => pure (name, true)
    else pure (first, false)
  let exported ← if ← eat "as" then exportName else pure .none
  node start (.exportSpecifier typed) [name, exported]

/-- Reads the names of an export from the opening brace on. -/
def exportNames (p : Descend) (start : Pos) (isTypeOnly : Bool) : Parse Node := do
  expect "\x7b"
  let names ← repeatUntil [] fun acc => do
    if (← atEnd) || (← is "\x7d") then return .inr acc
    let s ← exportSpecifier isTypeOnly
    unless ← is "\x7d" do expect ","
    return .inl (acc ++ [s])
  expect "\x7d"
  let (source, attributes) ←
    if ← is "from" then fromClause p
    else do
      for s in names do
        let name := s.child 0
        match name.form with
        | .str .. => note name.span .exportBindingIsString
        | .ident w _ _ => if isReserved w then note name.span (.exportExpectsFrom w)
        | _ => pure ()
      let _ ← eatSemi
      pure (.none, .none)
  node start (.exportNamed isTypeOnly) [.ofList names, source, attributes]

/-- Reads `export *`, whose star is passed, or else the names of an export. -/
def exportStar (p : Descend) (start specStart : Pos) (isTypeOnly : Bool) : Parse Node := do
  if ← is "from" then
    let (source, attributes) ← fromClause p
    return ← node start (.exportAll isTypeOnly) [source, attributes]
  if ← eat "as" then
    let name ← exportName
    let spec ← node specStart .exportAs [name]
    let (source, attributes) ← fromClause p
    return ← node start (.exportNamed isTypeOnly) [.ofList [spec], source, attributes]
  exportNames p start isTypeOnly

/-- Reads decorators after `export`, which must not stand before it too. -/
def lateDecorators (p : Descend) (decorators : List Node) : Parse (List Node) := do
  unless ← is "@" do return decorators
  let here ← pos
  let after ← p .decorators
  unless decorators.isEmpty do failAt (← spanFrom here) .decoratorBeforeAndAfterExport
  return after.items

/-- Reads an export after `default`. -/
def exportDefault (p : Descend) (start : Pos) (decorators : List Node) : Parse Node := do
  let decorators ← lateDecorators p decorators
  let wrap (d : Node) : Parse Node := node start .exportDefaultDecl [d]
  if ← typed then
    if ← (is "abstract" <&&> aheadIs "class" <&&> notM lineBreakAhead) then
      let classStart ← pos
      let _ ← bump
      let (name, body) ← namedClass p classStart decorators false true
      return ← wrap (.mk .classExpr body.span [name, body])
    if ← (is "interface" <&&> notM lineBreakAhead) then
      let here ← pos
      let _ ← bump
      return ← wrap (← interfaceTail p here)
  if ← is "class" then
    let classStart ← pos
    let (name, body) ← namedClass p classStart decorators false false
    return ← wrap (.mk .classExpr body.span [name, body])
  if ← (is "async" <&&> aheadIs "function" <&&> notM lineBreakAhead) then
    let here ← pos
    let _ ← bump
    let (name, f) ← namedFunction p decorators (some here) false false
    return ← wrap (.mk .fnExpr f.span [name, f])
  if ← is "function" then
    let (name, f) ← namedFunction p decorators none false false
    return ← wrap (.mk .fnExpr f.span [name, f])
  let e ← assignWithIn p
  expectSemi
  node start .exportDefault [e]

/-- Reads an exported declaration if one starts here. -/
def exportedDecl? (p : Descend) (decorators : List Node) : Parse (Option Node) := do
  let here ← pos
  if ← is "class" then return some (← classDecl p here decorators false)
  if ← (is "async" <&&> aheadIs "function" <&&> notM lineBreakAhead) then
    let _ ← bump
    return some (← functionDecl p decorators (some here))
  if ← is "function" then return some (← functionDecl p decorators none)
  if ← (typed <&&> is "const" <&&> aheadIs "enum") then
    let _ ← bump
    let _ ← bump
    return some (← enumTail p here true)
  if (← isOneOf ["var", "const"]) || (← atLet) then return some (← varDecl p false)
  return none

/-- Reads an export that only typed texts have, if one starts after `export`. -/
def typedExport? (p : Descend) (start : Pos) (decorators : List Node) : Parse (Option Node) := do
  let after ← pos
  if ← eat "declare" then
    if let some d ← declared? p after decorators then
      return some (← node start .exportDecl [d])
  if let some w := (← current).bind (·.token.word?) then
    let found ← attempt do
      let here ← pos
      typedDecl? p here decorators w true
    if let some d := found then return some (← node start .exportDecl [d])
  if ← eat "import" then
    let isTypeOnly ← is "type" <&&> aheadIsIdent
    if isTypeOnly then
      let _ ← bump
    let id ← anyIdent
    return some (← importEqualsTail start id true isTypeOnly)
  if ← eat "=" then
    let e ← p .expr
    expectSemi
    return some (← node start .exportAssign [e])
  if ← eat "as" then
    expect "namespace"
    let id ← ident false false
    expectSemi
    return some (← node start .exportNamespace [id])
  return none

/-- Reads an export. -/
def exportItem (p : Descend) (decorators : List Node) : Parse Node := do
  let start ← pos
  let _ ← bump
  let _ ← required
  if ← typed then
    if let some item ← typedExport? p start decorators then return item
  let specStart ← pos
  let isTypeOnly ← if ← typed then eat "type" else pure false
  unless isTypeOnly do
    if ← eat "default" then return ← exportDefault p start decorators
  let decorators ← lateDecorators p decorators
  unless isTypeOnly do
    if let some d ← exportedDecl? p decorators then
      return ← node start .exportDecl [d]
  if ← eat "*" then return ← exportStar p start specStart isTypeOnly
  exportNames p start isTypeOnly

/-- Reads an item of a module. -/
def moduleItem (p : Descend) : Parse Node := do
  let start ← pos
  let decorators ← decorators p true
  if ← isOneOf ["import", "export"] then
    unless (← place).atTop do fail .notTopLevel
    if ← is "import" then return ← importItem p
    return ← exportItem p decorators
  within ({ · with expectsColon := false, usingAllowed := true })
    (statementAfter p start true decorators)

end Parse

end ScriptHost
