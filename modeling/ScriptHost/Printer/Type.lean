import ScriptHost.Printer.Literal
/-!
# Writing types
-/

namespace ScriptHost

namespace Print

/-- Writes text between two others. -/
def between (left right : String) (p : Print Unit) : Print Unit := do
  write left
  p
  write right

/-- Writes a name or literal that is neither an expression nor a pattern: comments after it do not
belong to it. -/
def plainName (p : Node → Print Unit) (n : Node) : Print Unit :=
  match n with
  | .mk (.ident name _ _) _ [] => do
    nodeStart n
    write name
  | .mk (.str value raw) _ _ => do
    nodeStart n
    string value raw
  | .mk (.num value raw) _ _ => do
    nodeStart n
    number value raw
  | n => p n

/-- Writes parameters in parentheses; `whole` is the span of the function. -/
def params (p : Node → Print Unit) (whole : Span) (ps : Node) : Print Unit :=
  between "(" ")" (sequence .commas whole p ps.items)

/-- Writes `: type` if there is a type. -/
def typeAnn (p : Node → Print Unit) (ann : Node) : Print Unit :=
  optional (fun t => do write ": "; p t) ann

/-- Writes the name of a type member, in brackets if it is computed. -/
def memberKey (p : Node → Print Unit) (isComputed : Bool) (key : Node) : Print Unit :=
  if isComputed && !(key.form matches .computed) then between "[" "]" (p key) else p key

/-- Writes a member of a type; an index signature gets the semicolon that the others bring. -/
def typeMember (p : Node → Print Unit) (n : Node) : Print Unit := do
  p n
  if n.form matches .indexSignature _ then write ";"

/-- Writes the members of a type. -/
def typeMembers (p : Node → Print Unit) (members : List Node) : Print Unit :=
  between "\x7b" "\x7d" (sequence .lines .synthetic (typeMember p) members)

/-- Writes a mark of a mapped type. -/
def mappedMark (text : String) : MappedMark → Print Unit
  | .absent => pure ()
  | .bare => write text
  | .added => write ("+" ++ text)
  | .removed => write ("-" ++ text)

/-- Writes the pieces of a template and what stands between them. -/
def templateParts (p : Node → Print Unit) : List Node → List Node → Print Unit
  | [], _ => pure ()
  | [piece], _ => p piece
  | piece :: pieces, hole :: holes => do
    p piece
    between "$\x7b" "\x7d" (p hole)
    templateParts p pieces holes
  | piece :: _, [] => p piece

/-- Writes a template. -/
def template (p : Node → Print Unit) (pieces holes : List Node) : Print Unit := do
  write "`"
  templateParts p pieces holes
  write "`"

/-- Writes a type, or a part of one. -/
def typePart (p : Node → Print Unit) (n : Node) : Print Unit :=
  match n with
  | .mk .typeAnn _ [t] => p t
  | .mk (.typeKeyword text) _ _ => write text
  | .mk .thisType _ _ => write "this"
  | .mk .fnType _ [ps, tparams, result] => do
    optional p tparams
    params p n.span ps
    write " => "
    p result
  | .mk (.ctorType isAbstract) _ [ps, tparams, result] => do
    if isAbstract then write "abstract "
    write "new "
    optional p tparams
    params p n.span ps
    write " => "
    p result
  | .mk .typeRef _ [name, args] => do
    p name
    optional p args
  | .mk .typeQuery _ [name, args] => do
    write "typeof "
    p name
    optional p args
  | .mk .typeLit _ members => typeMembers p members
  | .mk .arrayType _ [t] => do
    p t
    write "[]"
  | .mk .tupleType _ elems => between "[" "]" (sequence .commas n.span p elems)
  | .mk .tupleElement _ [label, t] => do
    optional (fun l => do p l; write ": ") label
    p t
  | .mk .optionalType _ [t] => do
    p t
    write "?"
  | .mk .restType _ [t] => do
    write "..."
    p t
  | .mk .unionType _ ts => sequence .alternatives n.span p ts
  | .mk .intersectionType _ ts => sequence .conjuncts n.span p ts
  | .mk .condType _ [checked, extended, yes, no] => do
    p checked
    write " extends "
    p extended
    write " ? "
    p yes
    write " : "
    p no
  | .mk .inferType _ [param] => do
    write "infer "
    p param
  | .mk .parenType _ [t] => between "(" ")" (p t)
  | .mk (.typeOp op) _ [t] => do
    write (op.text ++ " ")
    p t
  | .mk .indexedAccess _ [object, index] => do
    p object
    between "[" "]" (p index)
  | .mk (.mappedType readonlyMark optionalMark) _ [param, nameType, value] => do
    write "\x7b"
    line
    deeper do
      unless readonlyMark == .absent do
        mappedMark "readonly" readonlyMark
        write " "
      between "[" "]" do
        p (param.child 0)
        write " in "
        optional p (param.child 1)
        optional (fun t => do write " as "; p t) nameType
      mappedMark "?" optionalMark
      write ": "
      optional p value
      write ";"
      line
    write "\x7d"
  | .mk .litType _ [value] => p value
  | .mk .templateType _ [pieces, types] => template p pieces.items types.items
  | .mk (.typePredicate asserts) _ [name, t] => do
    if asserts then write "asserts "
    p name
    optional (fun t => do write " is "; p t) t
  | .mk .importType _ [arg, _, qualifier, args] => do
    write "import"
    between "(" ")" (p arg)
    optional (fun q => do write "."; p q) qualifier
    optional p args
  | .mk .heritage _ [e, args] => do
    p e
    optional p args
  | .mk (.typeParam isIn isOut isConst) _ [name, constraint, default] => do
    if isConst then write "const "
    if isIn then write "in "
    if isOut then write "out "
    p name
    optional (fun t => do write " extends "; p t) constraint
    optional (fun t => do write " = "; p t) default
  | .mk .typeParams _ ps => between "<" ">" (sequence .commas n.span p ps)
  | .mk .typeArgs _ ts => between "<" ">" (sequence .commas n.span p ts)
  | .mk .qualified _ [left, name] => do
    p left
    write "."
    p name
  | .mk .callSig _ [ps, ann, tparams] => do
    optional p tparams
    params p n.span ps
    optional (fun t => do write " : "; p t) ann
    write ";"
  | .mk .ctorSig _ [ps, ann, tparams] => do
    write "new"
    optional p tparams
    params p n.span ps
    typeAnn p ann
    write ";"
  | .mk (.propSig isReadonly isComputed isOptional) _ [key, ann] => do
    if isReadonly then write "readonly "
    memberKey p isComputed key
    if isOptional then write "?"
    typeAnn p ann
    write ";"
  | .mk (.getSig isComputed) _ [key, ann] => do
    write "get "
    memberKey p isComputed key
    write "()"
    typeAnn p ann
    write ";"
  | .mk (.setSig isComputed) _ [key, param] => do
    write "set "
    memberKey p isComputed key
    between "(" ")" (optional p param)
    write ";"
  | .mk (.methodSig isComputed isOptional) _ [key, ps, ann, tparams] => do
    memberKey p isComputed key
    if isOptional then write "?"
    optional p tparams
    params p n.span ps
    typeAnn p ann
    write ";"
  | _ => pure ()

end Print

end ScriptHost
