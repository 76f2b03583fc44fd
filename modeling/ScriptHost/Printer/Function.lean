import ScriptHost.Printer.Type
/-!
# Writing functions, classes and patterns

- `Print.block`: statements between braces.
- `Print.functionTail`: what comes after the name of a function.
- `Print.classTail`: what comes after the name of a class.
-/

namespace ScriptHost

namespace Print

/-- Writes statements between braces. -/
def block (p : Node → Print Unit) (n : Node) : Print Unit := do
  nodeStart n
  let stmts := n.children
  write "\x7b"
  if !stmts.isEmpty || (← hasInnerComments n.span) then
    sequence .lines n.span p stmts
  unless n.span.isSynthetic do commentsBefore (n.span.hi - 1)
  write "\x7d"

/-- Writes decorators, each on a line of its own. -/
def decorators (p : Node → Print Unit) (ds : Node) : Print Unit :=
  if ds.items.isEmpty then pure () else sequence .flatLines .synthetic p ds.items

/-- Writes what comes after the name of a function. -/
def functionTail (p : Node → Print Unit) (f : Node) : Print Unit := do
  optional p (f.child 3)
  params p f.span (f.child 1)
  typeAnn p (f.child 4)
  let body := f.child 2
  if body.isSome then
    write " "
    block p body
  else write ";"

/-- Whether the part of a function after its name belongs to an `async` one. -/
def isAsync (f : Node) : Bool := f.form matches .func true _

/-- Whether the part of a function after its name belongs to a generator. -/
def isGenerator (f : Node) : Bool := f.form matches .func _ true

/-! ## Classes -/

/-- Writes the access level of a member. -/
def access (mods : Modifiers) : Print Unit :=
  match mods.access with
  | some a => write (a.text ++ " ")
  | none => pure ()

/-- Writes the word of a modifier that is there. -/
def modifier (isThere : Bool) (word : String) : Print Unit :=
  if isThere then write (word ++ " ") else pure ()

/-- Writes ` = value` if there is a value. -/
def initializer (p : Node → Print Unit) (value : Node) : Print Unit :=
  optional (fun v => do write " = "; p v) value

/-- Writes a member of a class. -/
def classMember (p : Node → Print Unit) (n : Node) : Print Unit :=
  match n with
  | .mk (.constructor mods) _ [_, ps, body] => do
    access mods
    write "constructor"
    params p n.span ps
    if body.isSome then block p body else write ";"
  | .mk (.classMethod kind mods) _ [key, f] => do
    if !(key.form matches .privateName ..) then decorators p (f.child 0)
    access mods
    modifier mods.isStatic "static"
    modifier mods.isAbstract "abstract"
    modifier mods.isOverride "override"
    modifier (isAsync f) "async"
    if isGenerator f then write "*"
    match kind with
    | .method => pure ()
    | .getter => write "get "
    | .setter => write "set "
    plainName p key
    if mods.isOptional then write "?"
    functionTail p f
  | .mk (.classField mods) _ [ds, key, value, ann] => do
    decorators p ds
    modifier mods.isDeclare "declare"
    access mods
    modifier mods.isStatic "static"
    modifier mods.isAbstract "abstract"
    modifier mods.isOverride "override"
    modifier mods.isReadonly "readonly"
    plainName p key
    if mods.isOptional then write "?"
    if mods.isDefinite then write "!"
    typeAnn p ann
    initializer p value
    write ";"
  | .mk (.accessorField mods) _ [ds, key, value, ann] => do
    decorators p ds
    access mods
    modifier mods.isStatic "static"
    modifier mods.isAbstract "abstract"
    modifier mods.isOverride "override"
    modifier mods.isReadonly "readonly"
    write "accessor "
    plainName p key
    if mods.isDefinite then write "!"
    typeAnn p ann
    initializer p value
    write ";"
  | .mk .staticBlock _ [body] => do
    write "static"
    block p body
  | .mk .emptyMember _ _ => write ";"
  | .mk (.indexSignature mods) _ [ps, ann] => do
    modifier mods.isReadonly "readonly"
    between "[" "]" (sequence .commas n.span p ps.items)
    typeAnn p ann
  | _ => pure ()

/-- Writes what comes after the name of a class. -/
def classTail (p : Node → Print Unit) (body : Node) : Print Unit := do
  let base := body.child 1
  if base.isSome then
    write " extends "
    p base
    optional p (body.child 2)
  let implemented := (body.child 4).items
  unless implemented.isEmpty do
    write " implements "
    sequence .commas body.span p implemented
  write " "
  between "\x7b" "\x7d" (sequence .lines body.span p (body.child 5).items)

/-- Writes a class up to the end, with or without its decorators. -/
def classWhole (p : Node → Print Unit) (withDecorators isDeclare : Bool) (name body : Node) :
    Print Unit := do
  if withDecorators then decorators p (body.child 0)
  modifier isDeclare "declare"
  modifier (body.form matches .classBody true) "abstract"
  write "class"
  optional (fun id => do write " "; plainName p id) name
  optional p (body.child 3)
  classTail p body

/-! ## Patterns and parameters -/

/-- Writes a pattern or a parameter. -/
def pattern (p : Node → Print Unit) (n : Node) : Print Unit :=
  match n with
  | .mk (.arrayPat isOptional) _ [elems, ann] => do
    between "[" "]" (sequence .commas n.span (optional p) elems.items)
    if isOptional then write "?"
    typeAnn p ann
  | .mk (.objectPat isOptional) _ [props, ann] => do
    between "\x7b" "\x7d" (sequence .padded n.span p props.items)
    if isOptional then write "?"
    typeAnn p ann
  | .mk .keyPat _ [key, value] => do
    plainName p key
    write ": "
    p value
  | .mk .shorthandPat _ [id, default] => do
    plainName p id
    initializer p default
  | .mk .restPat _ [arg, ann] => do
    write "..."
    p arg
    typeAnn p ann
  | .mk .assignPat _ [left, right] => do
    p left
    write " = "
    p right
  | .mk .param _ [ds, pat] => do
    decorators p ds
    p pat
  | .mk (.paramProp mods) _ [ds, pat] => do
    decorators p ds
    access mods
    modifier mods.isOverride "override"
    modifier mods.isReadonly "readonly"
    p pat
  | .mk .decorator _ [e] => do
    write "@"
    p e
  | _ => pure ()

end Print

end ScriptHost
