import ScriptHost.Printer.Function
/-!
# Writing expressions
-/

namespace ScriptHost

namespace Print

/-- Writes arguments in parentheses; `whole` is the span of the call. -/
def arguments (p : Node → Print Unit) (whole : Span) (args : List Node) : Print Unit :=
  between "(" ")" (sequence .commas whole p args)

/-- Writes the access to a property. -/
def property (p : Node → Print Unit) (object prop : Node) : Print Unit := do
  match object with
  | .mk (.num value raw) _ _ =>
    commentsBefore object.span.lo
    if prop.form matches .computed then number value raw else numberBeforeDot value raw
  | _ => p object
  unless prop.form matches .computed do write "."
  p prop

/-- Whether a blank keeps an operator apart from its operand. -/
def needsBlank (op : UnaryOp) (operand : Node) : Bool :=
  match op, operand with
  | .typeOf, _ | .void, _ | .delete, _ => true
  | .plus, .mk (.unary .plus) _ _ => true
  | .plus, .mk (.update .increment true) _ _ => true
  | .minus, .mk (.unary .minus) _ _ => true
  | .minus, .mk (.update .decrement true) _ _ => true
  | .minus, .mk (.num value _) _ _ => signBit value
  | _, _ => false

/-- Writes the properties of an object literal. An empty one has lines if comments stand at its
end. -/
def properties (p : Node → Print Unit) (span : Span) (props : List Node) : Print Unit := do
  if !props.isEmpty || (← hasInnerComments span) then
    sequence .commaLines span (plainName p) props

/-- Writes the target of an assignment: comments after it do not belong to it. -/
def target (p : Node → Print Unit) (n : Node) : Print Unit :=
  match n with
  | .mk .member _ [object, prop] => do
    nodeStart n
    property p object prop
  | .mk (.arrayPat _) _ _ | .mk (.objectPat _) _ _ => do
    nodeStart n
    pattern p n
  | n => plainName p n

/-- Writes a property of an object literal. -/
def objectProperty (p : Node → Print Unit) (n : Node) : Print Unit :=
  match n with
  | .mk .keyValue _ [key, value] => do
    plainName p key
    write ": "
    p value
  | .mk .assignProp _ [key, value] => do
    plainName p key
    write " = "
    p value
  | .mk (.method .method) _ [key, f] => do
    modifier (isAsync f) "async"
    if isGenerator f then write "*"
    plainName p key
    write " "
    functionTail p f
  | .mk (.method .getter) _ [key, f] => do
    write "get "
    plainName p key
    write " ()"
    typeAnn p (f.child 4)
    write " "
    block p (f.child 2)
  | .mk (.method .setter) _ [key, f] => do
    write "set "
    plainName p key
    write " "
    params p f.span (f.child 1)
    block p (f.child 2)
  | _ => pure ()

/-- Writes the beginning of a function expression up to its name. -/
def functionHead (f : Node) : Print Unit := do
  modifier (isAsync f) "async"
  write "function"
  if isGenerator f then write "*"

/-- Writes an expression. -/
def expression (p : Node → Print Unit) (n : Node) : Print Unit :=
  match n with
  | .mk .this _ _ => write "this"
  | .mk .superRef _ _ => write "super"
  | .mk .null _ _ => write "null"
  | .mk .invalid _ _ => write "<invalid>"
  | .mk (.bool value) _ _ => write (if value then "true" else "false")
  | .mk (.str value raw) _ _ => string value raw
  | .mk (.num value raw) _ _ => number value raw
  | .mk (.bigint digits) _ _ => write digits
  | .mk (.regex pattern flags) _ _ => write ("/" ++ pattern ++ "/" ++ flags)
  | .mk .template _ [pieces, holes] => template p pieces.items holes.items
  | .mk (.quasi _ raw) _ _ => write raw
  | .mk .array _ elems => do
    write "["
    unless elems.isEmpty do sequence .commaLines n.span (optional p) elems
    if (elems.getLast?.map Node.isNone).getD false then
      write ","
      line
    write "]"
  | .mk .object _ props => between "\x7b" "\x7d" (properties p n.span props)
  | .mk .spread _ [e] => do
    write "..."
    p e
  | .mk .fnExpr _ [name, f] => do
    functionHead f
    optional (fun id => do write " "; plainName p id) name
    functionTail p f
  | .mk (.arrow isAsync isGenerator) _ [ps, body, tparams, result] => do
    if isAsync then write "async "
    if isGenerator then write "*"
    optional p tparams
    params p n.span ps
    optional (fun t => do write ": "; p t; write " ") result
    write "=>"
    if body.form matches .block then block p body else deeper (p body)
  | .mk .classExpr _ [name, body] => classWhole p true false name body
  | .mk (.unary op) _ [e] => do
    write op.text
    if needsBlank op e then write " "
    p e
  | .mk (.update op isBefore) _ [e] => do
    if isBefore then write op.text
    p e
    unless isBefore do write op.text
  | .mk (.binary op) _ [left, right] => do
    p left
    write (" " ++ op.text ++ " ")
    p right
  | .mk (.assign op) _ [place, value] => do
    target p place
    write (" " ++ op.text ++ " ")
    p value
  | .mk .cond _ [test, yes, no] => do
    p test
    write " ? "
    p yes
    write " : "
    p no
  | .mk .seq _ es => sequence .commas n.span p es
  | .mk .call _ [callee, targs, args] => do
    p callee
    optional p targs
    arguments p n.span args.items
  | .mk .new _ [callee, targs, args] => do
    write "new "
    p callee
    optional p targs
    if args.isSome then arguments p n.span args.items
  | .mk .member _ [object, prop] => property p object prop
  | .mk (.optMember direct) _ [object, prop] => do
    p object
    if direct then write "?." else unless prop.form matches .computed do write "."
    p prop
  | .mk (.optCall direct) _ [callee, targs, args] => do
    p callee
    if direct then write "?."
    optional p targs
    arguments p n.span args.items
  | .mk .paren _ [e] => between "(" ")" (p e)
  | .mk .await _ [e] => do
    write "await "
    p e
  | .mk (.yield delegates) _ [e] => do
    write "yield"
    if delegates then write "*"
    optional (fun e => do write " "; p e) e
  | .mk .tagged _ [tag, targs, t] => do
    p tag
    optional p targs
    p t
  | .mk .newTarget _ _ => write "new.target"
  | .mk .importMeta _ _ => write "import.meta"
  | .mk .importRef _ _ => write "import"
  | .mk .asType _ [e, t] => do
    p e
    write " as "
    p t
  | .mk .satisfies _ [e, t] => do
    p e
    write " satisfies "
    p t
  | .mk .asConst _ [e] => do
    p e
    write " as const"
  | .mk .nonNull _ [e] => do
    p e
    write "!"
  | .mk .typeAssertion _ [t, e] => do
    between "<" ">" (p t)
    p e
  | .mk .instantiation _ [e, targs] => do
    p e
    p targs
  | _ => pure ()

/-- Writes an attribute of an element. -/
def markupAttribute (p : Node → Print Unit) (n : Node) : Print Unit :=
  if n.form matches .spread then between "\x7b" "\x7d" (p n) else p n

/-- Writes an element of markup or a part of one. -/
def markupPart (p : Node → Print Unit) (n : Node) : Print Unit :=
  match n with
  | .mk .jsxElement _ [opening, children, closing] => do
    p opening
    children.items.forM p
    optional p closing
  | .mk (.jsxOpening selfClosing) _ [name, attrs, targs] => do
    write "<"
    p name
    optional p targs
    unless attrs.items.isEmpty do
      write " "
      sequence .words n.span (markupAttribute p) attrs.items
    write (if selfClosing then "/>" else ">")
  | .mk .jsxClosing _ [name] => do
    write "</"
    p name
    write ">"
  | .mk .jsxAttr _ [name, value] => do
    p name
    optional (fun v => do write "="; p v) value
  | .mk (.jsxText raw) _ _ => write raw
  | .mk .jsxContainer _ [e] => between "\x7b" "\x7d" (p e)
  | .mk .jsxSpreadChild _ [e] => between "\x7b..." "\x7d" (p e)
  | .mk .jsxFragment _ [children] => between "<>" "</>" (children.items.forM p)
  | .mk .jsxMember _ [object, name] => do
    p object
    write "."
    p name
  | .mk .jsxNamespaced _ [space, name] => do
    p space
    write ":"
    p name
  | _ => pure ()

end Print

end ScriptHost
