import ScriptHost.Printer.Expression
/-!
# Writing statements and the items of a module

- `Print.declaration`: a declaration without the end of its line.
- `Print.statement`: a statement without the end of its line.
- `Print.item`: an import or export without the end of its line.
-/

namespace ScriptHost

namespace Print

/-- Writes the word and the variables of a declaration. -/
def declarators (p : Node → Print Unit) (n : Node) : Print Unit := do
  nodeStart n
  match n.form with
  | .varDecl kind isDeclare =>
    modifier isDeclare "declare"
    write (kind.text ++ " ")
  | .usingDecl isAwait => write (if isAwait then "await using " else "using ")
  | _ => pure ()
  sequence .commas n.span p n.children

/-- Writes the body of a namespace after its name; names of nested ones come after dots. -/
def namespaceBody (p : Node → Print Unit) : Nat → Node → Print Unit
  | 0, _ => pure ()
  | fuel + 1, body =>
    match body with
    | .mk (.nestedNamespace ..) _ [name, inner] => do
      write "."
      p name
      namespaceBody p fuel inner
    | .mk .moduleBlock _ stmts => do
      write " "
      between "\x7b" "\x7d" (sequence .lines .synthetic p stmts)
    | _ => pure ()

/-- Writes a declaration. -/
def declaration (p : Node → Print Unit) (n : Node) : Print Unit := do
  nodeStart n
  match n with
  | .mk (.varDecl ..) _ _ => do
    declarators p n
    write ";"
  | .mk (.usingDecl _) _ _ => do
    declarators p n
    write ";"
  | .mk (.fnDecl isDeclare) _ [name, f] => do
    modifier isDeclare "declare"
    modifier (isAsync f) "async"
    write (if isGenerator f then "function* " else "function ")
    plainName p name
    functionTail p f
  | .mk (.classDecl isDeclare) _ [name, body] => classWhole p true isDeclare name body
  | .mk (.interfaceDecl isDeclare) _ [name, tparams, bases, members] => do
    modifier isDeclare "declare"
    write "interface "
    p name
    optional p tparams
    unless bases.items.isEmpty do
      write " extends "
      sequence .commas n.span p bases.items
    write " "
    typeMembers p members.items
  | .mk (.typeAlias isDeclare) _ [name, tparams, t] => do
    modifier isDeclare "declare"
    write "type "
    p name
    optional p tparams
    write " = "
    p t
    write ";"
  | .mk (.enumDecl isDeclare isConst) _ [name, members] => do
    modifier isDeclare "declare"
    modifier isConst "const"
    write "enum "
    p name
    write " "
    between "\x7b" "\x7d" (sequence .commaLines n.span p members.items)
  | .mk (.moduleDecl isDeclare isGlobal) _ [name, body] => do
    modifier isDeclare "declare"
    unless isGlobal do
      write (if name.form matches .str .. then "module " else "namespace ")
    p name
    namespaceBody p (body.height + 1) body
  | _ => pure ()

/-- Writes what a loop goes over: the variables or the pattern before `in` or `of`. -/
def loopTarget (p : Node → Print Unit) (n : Node) : Print Unit :=
  match n.form with
  | .varDecl .. | .usingDecl _ => declarators p n
  | _ => p n

/-- Writes `word argument;`. -/
def simple (p : Node → Print Unit) (word : String) (arg : Node) : Print Unit := do
  write word
  optional (fun a => do write " "; p a) arg
  write ";"

/-- Writes a statement. -/
def statement (p : Node → Print Unit) (n : Node) : Print Unit :=
  match n with
  | .mk .block _ _ => block p n
  | .mk .empty _ _ => write ";"
  | .mk .debugger _ _ => write "debugger;"
  | .mk .withStmt _ [object, body] => do
    write "with "
    between "(" ")" (p object)
    p body
  | .mk .return _ [value] => simple p "return" value
  | .mk .throw _ [value] => simple p "throw" value
  | .mk .break _ [label] => simple (plainName p) "break" label
  | .mk .continue _ [label] => simple (plainName p) "continue" label
  | .mk .labeled _ [label, body] => do
    plainName p label
    write ": "
    p body
  | .mk .ifStmt _ [test, yes, no] => do
    write "if "
    between "(" ")" (p test)
    write " "
    p yes
    if no.isSome then
      if yes.form matches .block then write " "
      write "else "
      p no
  | .mk .switch _ [subject, cases] => do
    write "switch"
    between "(" ")" (p subject)
    between "\x7b" "\x7d" (sequence .lines n.span p cases.items)
  | .mk .case _ [test, stmts] => do
    if test.isSome then
      write "case "
      p test
    else write "default"
    write ":"
    unless stmts.items.isEmpty do
      line
      deeper (stmts.items.forM fun s => do p s; line)
  | .mk .tryStmt _ [body, handler, finalizer] => do
    write "try "
    block p body
    optional (fun h => do write " "; p h) handler
    optional (fun f => do write " finally"; block p f) finalizer
  | .mk .catchClause _ [param, body] => do
    write "catch "
    optional (fun x => between "(" ")" (p x)) param
    write " "
    block p body
  | .mk .whileStmt _ [test, body] => do
    write "while"
    between "(" ")" (p test)
    p body
  | .mk .doWhile _ [body, test] => do
    write "do "
    p body
    write "while "
    between "(" ")" (p test)
    if (← get).target.isBelow .es2015 then write ";"
  | .mk .forStmt _ [init, test, update, body] => do
    write "for"
    between "(" ")" do
      optional (loopTarget p) init
      write ";"
      optional (fun e => do write " "; p e) test
      write ";"
      optional (fun e => do write " "; p e) update
    p body
  | .mk .forIn _ [left, right, body] => do
    write "for"
    between "(" ")" do
      loopTarget p left
      write " in "
      p right
    p body
  | .mk (.forOf isAwait) _ [left, right, body] => do
    write (if isAwait then "for await " else "for ")
    between "(" ")" do
      loopTarget p left
      write " of "
      p right
    p body
  | .mk .exprStmt _ [e] => do
    p e
    write ";"
  | .mk (.declarator _) _ [pat, init] => do
    p pat
    initializer p init
  | .mk .enumMember _ [name, init] => do
    p name
    initializer p init
  | _ => declaration p n

/-! ## Imports and exports -/

/-- Writes `a as b`, or only `a` if there is no other name. -/
def renamed (p : Node → Print Unit) (name other : Node) : Print Unit := do
  plainName p name
  optional (fun o => do write " as "; plainName p o) other

/-- Writes the string that names a module, and the attributes of the import. -/
def fromModule (p : Node → Print Unit) (source attributes : Node) : Print Unit := do
  plainName p source
  optional (fun a => do write " with "; p a) attributes
  write ";"

/-- Whether an import or export specifier stands between braces. -/
def isNamed (n : Node) : Bool :=
  match n.form with
  | .importNamed _ | .exportSpecifier _ => true
  | _ => false

/-- Writes specifiers with commas between them. -/
def bareSpecifiers (p : Node → Print Unit) : List Node → Print Unit
  | [] => pure ()
  | [s] => p s
  | s :: ss => do
    p s
    write ", "
    bareSpecifiers p ss

/-- Writes specifiers, those with names of their own between braces; `whole` is the span of what they
are part of. -/
def specifiers (p : Node → Print Unit) (whole : Span) (specs : List Node) : Print Unit := do
  let named := specs.filter isNamed
  bareSpecifiers p (specs.filter (!isNamed ·))
  unless named.isEmpty do
    if named.length != specs.length then write ", "
    between "\x7b" "\x7d" (sequence .padded whole p named)

/-- Writes an import, an export or a part of one. -/
def item (p : Node → Print Unit) (n : Node) : Print Unit :=
  match n with
  | .mk (.importDecl isTypeOnly) _ [specs, source, attributes] => do
    write "import "
    modifier isTypeOnly "type"
    unless specs.items.isEmpty do
      specifiers p n.span specs.items
      write " from "
    fromModule p source attributes
  | .mk .importDefault _ [name] => plainName p name
  | .mk .importAll _ [name] => do
    write "* as "
    plainName p name
  | .mk (.importNamed isTypeOnly) _ [name, imported] => do
    modifier isTypeOnly "type"
    if imported.isSome then renamed p imported name else plainName p name
  | .mk .exportDecl _ [decl] => do
    match decl with
    | .mk (.classDecl isDeclare) _ [name, body] =>
      decorators p (body.child 0)
      write "export "
      nodeStart decl
      classWhole p false isDeclare name body
    | _ =>
      write "export "
      declaration p decl
  | .mk (.exportNamed isTypeOnly) _ [specs, source, attributes] => do
    write "export "
    modifier isTypeOnly "type"
    if specs.items.isEmpty then write "\x7b \x7d" else specifiers p n.span specs.items
    if source.isSome then
      write " from "
      fromModule p source attributes
    else write ";"
  | .mk (.exportSpecifier isTypeOnly) _ [name, exported] => do
    modifier isTypeOnly "type"
    renamed p name exported
  | .mk .exportAs _ [name] => do
    write "* as "
    plainName p name
  | .mk .exportDefaultDecl _ [decl] => do
    write "export default "
    match decl.form with
    | .interfaceDecl _ => declaration p decl
    | _ => p decl
  | .mk .exportDefault _ [e] => do
    write "export default "
    p e
    write ";"
  | .mk (.exportAll isTypeOnly) _ [source, attributes] => do
    write "export "
    modifier isTypeOnly "type"
    write "* from "
    fromModule p source attributes
  | .mk (.importEquals isExport isTypeOnly) _ [name, target] => do
    modifier isExport "export"
    write "import "
    modifier isTypeOnly "type"
    p name
    write " = "
    p target
    write ";"
  | .mk .externalRef _ [source] => do
    write "require"
    between "(" ")" (p source)
  | .mk .exportAssign _ [e] => do
    write "export = "
    p e
  | .mk .exportNamespace _ [name] => do
    write "export = "
    p name
  | _ => pure ()

end Print

end ScriptHost
