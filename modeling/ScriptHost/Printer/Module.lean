import ScriptHost.Printer.Statement
/-!
# Writing modules

- `Node.print?`: the text of a module, with its comments.
-/

namespace ScriptHost

namespace Print

/-- The layout of a node: whether it ends a line of its own, and what writes it. -/
inductive Layout where
  | name | type | expression | markup | pattern | member | statement | item | whole
deriving BEq, DecidableEq, Repr, Inhabited

/-- The layout of the nodes of a form. -/
def layout : Form → Layout
  | .ident .. | .name _ | .privateName .. | .computed => .name
  | .str .. | .num .. | .bigint _ | .bool _ | .null | .regex .. | .template | .quasi .. | .this
  | .superRef | .invalid | .array | .object | .spread | .fnExpr | .arrow .. | .classExpr
  | .unary _ | .update .. | .binary _ | .assign _ | .cond | .seq | .call | .new | .member
  | .optMember _ | .optCall _ | .paren | .await | .yield _ | .tagged | .newTarget | .importMeta
  | .importRef | .asType | .satisfies | .asConst | .nonNull | .typeAssertion | .instantiation =>
    .expression
  | .keyValue | .assignProp | .method _ => .member
  | .jsxElement | .jsxOpening _ | .jsxClosing | .jsxAttr | .jsxText _ | .jsxContainer | .jsxEmpty
  | .jsxSpreadChild | .jsxFragment | .jsxMember | .jsxNamespaced => .markup
  | .arrayPat _ | .objectPat _ | .invalidPat | .keyPat | .shorthandPat | .restPat | .assignPat
  | .param | .paramProp _ | .decorator => .pattern
  | .constructor _ | .classMethod .. | .classField _ | .accessorField _ | .staticBlock
  | .emptyMember | .indexSignature _ => .member
  | .block | .empty | .debugger | .withStmt | .return | .labeled | .break | .continue | .ifStmt
  | .switch | .throw | .tryStmt | .whileStmt | .doWhile | .forStmt | .forIn | .forOf _
  | .exprStmt | .varDecl .. | .usingDecl _ | .fnDecl _ | .classDecl _ | .interfaceDecl _
  | .typeAlias _ | .enumDecl .. | .moduleDecl .. => .statement
  | .importDecl _ | .exportDecl | .exportNamed _ | .exportDefaultDecl | .exportDefault
  | .exportAll _ | .importEquals .. | .exportAssign | .exportNamespace => .item
  | .case | .catchClause | .declarator _ | .enumMember => .whole
  | .importDefault | .importAll | .importNamed _ | .exportSpecifier _ | .exportAs
  | .externalRef => .whole
  | _ => .type

/-- Writes a name. -/
def nameOf (p : Node → Print Unit) (n : Node) : Print Unit :=
  match n with
  | .mk (.ident name _ isOptional) _ children => do
    write name
    if isOptional then write "?"
    children.forM (typeAnn p)
  | .mk (.name text) _ _ => write text
  | .mk (.privateName text _) _ _ => write ("#" ++ text)
  | .mk .computed _ [e] => between "[" "]" (p e)
  | _ => pure ()

/-- Writes a node in terms of its parts. -/
def nodeWith (p : Node → Print Unit) (n : Node) : Print Unit := do
  unless n.form matches .computed do nodeStart n
  match layout n.form with
  | .name =>
    nameOf p n
    if n.form matches .ident .. then commentsAfter n.span.hi true
  | .type => typePart p n
  | .expression =>
    expression p n
    commentsAfter n.span.hi true
  | .markup => markupPart p n
  | .pattern =>
    pattern p n
    if n.form matches .decorator then line else commentsAfter n.span.hi true
  | .member =>
    objectProperty p n
    classMember p n
  | .statement =>
    statement p n
    unless n.form matches .block do
      commentsAfter n.span.hi true
      line
  | .item =>
    item p n
    commentsAfter n.span.hi true
    line
  | .whole =>
    statement p n
    item p n

/-- Writes a node whose parts nest no deeper than the given depth. -/
def nodeWithin : Nat → Node → Print Unit
  | 0, _ => pure ()
  | depth + 1, n => nodeWith (nodeWithin depth) n

/-- Writes the items of a module. -/
def module (n : Node) : Print Unit := do
  commentsBefore n.span.lo
  if let .module (some shebang) := n.form then
    write ("#!" ++ shebang)
    line
  n.children.forM fun item => do
    nodeWithin n.height item
    commentsAfter item.span.hi true
  commentsAfter n.span.hi true

end Print

/-- The text of a module in an edition of the language, with its comments. A module that kept a
refused pattern has none. -/
def Node.print? (target : Target) (comments : Comments) (module : Node) : Option String :=
  if module.any (·.form == .invalidPat) then .none
  else some ((Print.module module).run { target, comments }).2.text

end ScriptHost
