import ScriptHost.Tree.Operator
/-!
# Forms of syntax

`Form` lists every kind of node in a syntax tree together with the data that
is not itself syntax. The comment beside a form gives its children in order:
`x?` is a child that may be `Form.absent`, `[x]` one child of form
`Form.list`, and `x*` any number of children in place.
-/

namespace ScriptHost

/-- Where an identifier is bound: `0` before names are resolved, `1` for a
name that no declaration of the file binds, and larger numbers for scopes. -/
abbrev ScopeId := Nat

/-- A variable: its name in the source text and the scope that declares it. -/
abbrev VarId := String × ScopeId

/-- The kinds of syntax nodes. -/
inductive Form where
  -- glue
  /-- No node where one is optional. -/
  | absent
  /-- A sequence: `x*`. -/
  | list
  /-- An expression that the grammar refused and recovered from. -/
  | invalid
  /-- A pattern that the grammar refused and recovered from; it has no text. -/
  | invalidPat
  -- names
  /-- A variable name: `typeAnn?` when it is bound with a type, else nothing. -/
  | ident (name : String) (scope : ScopeId) (isOptional : Bool)
  /-- A property, label or export name. -/
  | name (text : String)
  /-- `#name`. -/
  | privateName (text : String) (scope : ScopeId)
  /-- `[key]`: expr. -/
  | computed
  -- literals
  | str (value : String) (raw : Option String)
  | num (value : Float) (raw : Option String)
  | bigint (digits : String)
  | bool (value : Bool)
  | null
  | regex (pattern flags : String)
  /-- A template: [quasi], [expr]. -/
  | template
  | quasi (cooked : Option String) (raw : String)
  -- expressions
  | this
  | superRef
  /-- Array literal: (expr | spread | absent)*. -/
  | array
  /-- Object literal: (keyValue | ident | assignProp | method | spread)*. -/
  | object
  /-- `key: value`: key, value. -/
  | keyValue
  /-- `name = value` inside an object literal: ident, value. -/
  | assignProp
  /-- A method-like member of an object literal: key, func. -/
  | method (kind : MethodKind)
  /-- `...x`: expr. -/
  | spread
  /-- The part of a function after its name:
  [decorator], [param], body?, typeParams?, returnType?. -/
  | func (isAsync isGenerator : Bool)
  /-- ident?, func. -/
  | fnExpr
  /-- [pattern], body, typeParams?, returnType?. -/
  | arrow (isAsync isGenerator : Bool)
  /-- ident?, classBody. -/
  | classExpr
  | unary (op : UnaryOp)
  | update (op : UpdateOp) (isBefore : Bool)
  | binary (op : BinaryOp)
  /-- target, value. -/
  | assign (op : AssignOp)
  /-- test, then, else. -/
  | cond
  /-- expr*. -/
  | seq
  /-- callee, typeArgs?, [arg]. -/
  | call
  /-- callee, typeArgs?, [arg]?. -/
  | new
  /-- object, (name | privateName | computed). -/
  | member
  /-- An optional-chain member access: object, property; `direct` when this link has the `?.`. -/
  | optMember (direct : Bool)
  /-- An optional-chain call: callee, typeArgs?, [arg]. -/
  | optCall (direct : Bool)
  /-- (expr). -/
  | paren
  | await
  /-- expr?. -/
  | yield (delegates : Bool)
  /-- tag, typeArgs?, template. -/
  | tagged
  | newTarget
  | importMeta
  /-- The callee `import` of a dynamic import. -/
  | importRef
  -- typed expressions
  /-- expr, type. -/
  | asType
  /-- expr, type. -/
  | satisfies
  | asConst
  | nonNull
  /-- type, expr. -/
  | typeAssertion
  /-- expr, typeArgs. -/
  | instantiation
  -- elements of markup inside expressions
  /-- opening, [child], closing?. -/
  | jsxElement
  /-- name, [attribute], typeArgs?. -/
  | jsxOpening (selfClosing : Bool)
  /-- name. -/
  | jsxClosing
  /-- name, value?. -/
  | jsxAttr
  | jsxText (raw : String)
  /-- (expr | jsxEmpty). -/
  | jsxContainer
  | jsxEmpty
  | jsxSpreadChild
  /-- [child]. -/
  | jsxFragment
  /-- object, name. -/
  | jsxMember
  /-- space, name. -/
  | jsxNamespaced
  -- patterns
  /-- [element], typeAnn?. -/
  | arrayPat (isOptional : Bool)
  /-- [property], typeAnn?. -/
  | objectPat (isOptional : Bool)
  /-- key, pattern. -/
  | keyPat
  /-- ident, default?. -/
  | shorthandPat
  /-- pattern, typeAnn?. -/
  | restPat
  /-- pattern, default. -/
  | assignPat
  -- functions and classes
  /-- [decorator], pattern. -/
  | param
  /-- A parameter that declares a member: [decorator], (ident | assignPat). -/
  | paramProp (mods : Modifiers)
  /-- expr. -/
  | decorator
  /-- The part of a class after its name:
  [decorator], super?, superTypeArgs?, typeParams?, [implemented], [member]. -/
  | classBody (isAbstract : Bool)
  /-- key, [param], body?. -/
  | constructor (mods : Modifiers)
  /-- key, func. -/
  | classMethod (kind : MethodKind) (mods : Modifiers)
  /-- [decorator], key, value?, typeAnn?. -/
  | classField (mods : Modifiers)
  /-- [decorator], key, value?, typeAnn?. -/
  | accessorField (mods : Modifiers)
  /-- block. -/
  | staticBlock
  | emptyMember
  /-- [param], typeAnn?. -/
  | indexSignature (mods : Modifiers)
  -- statements
  | block
  | empty
  | debugger
  /-- object, body. -/
  | withStmt
  /-- expr?. -/
  | return
  /-- label, body. -/
  | labeled
  /-- label?. -/
  | break
  /-- label?. -/
  | continue
  /-- test, then, else?. -/
  | ifStmt
  /-- subject, [case]. -/
  | switch
  /-- test?, [stmt]. -/
  | case
  | throw
  /-- block, catchClause?, finally?. -/
  | tryStmt
  /-- pattern?, block. -/
  | catchClause
  /-- test, body. -/
  | whileStmt
  /-- body, test. -/
  | doWhile
  /-- init?, test?, update?, body. -/
  | forStmt
  /-- left, right, body. -/
  | forIn
  /-- left, right, body. -/
  | forOf (isAwait : Bool)
  /-- expr. -/
  | exprStmt
  /-- declarator*. -/
  | varDecl (kind : VarKind) (isDeclare : Bool)
  /-- pattern, init?. -/
  | declarator (isDefinite : Bool)
  /-- declarator*. -/
  | usingDecl (isAwait : Bool)
  /-- ident, func. -/
  | fnDecl (isDeclare : Bool)
  /-- ident, classBody. -/
  | classDecl (isDeclare : Bool)
  -- typed declarations
  /-- ident, typeParams?, [heritage], [member]. -/
  | interfaceDecl (isDeclare : Bool)
  /-- ident, typeParams?, type. -/
  | typeAlias (isDeclare : Bool)
  /-- ident, [enumMember]. -/
  | enumDecl (isDeclare isConst : Bool)
  /-- (ident | str), init?. -/
  | enumMember
  /-- (ident | str), body?. -/
  | moduleDecl (isDeclare isGlobal : Bool)
  /-- stmt*. -/
  | moduleBlock
  /-- The `B` of `namespace A.B`: ident, body. -/
  | nestedNamespace (isDeclare isGlobal : Bool)
  /-- ident, (externalRef | ident | qualified). -/
  | importEquals (isExport isTypeOnly : Bool)
  /-- str. -/
  | externalRef
  /-- `export = x`: expr. -/
  | exportAssign
  /-- `export as namespace x`: ident. -/
  | exportNamespace
  -- imports and exports
  /-- item*. -/
  | module (shebang : Option String)
  /-- [specifier], str, attributes?. -/
  | importDecl (isTypeOnly : Bool)
  /-- local. -/
  | importDefault
  /-- local. -/
  | importAll
  /-- local, imported?. -/
  | importNamed (isTypeOnly : Bool)
  /-- declaration. -/
  | exportDecl
  /-- [specifier], str?, attributes?. -/
  | exportNamed (isTypeOnly : Bool)
  /-- (ident | str), exported?. -/
  | exportSpecifier (isTypeOnly : Bool)
  /-- (ident | str). -/
  | exportAs
  /-- `export default` before a function, class or interface. -/
  | exportDefaultDecl
  /-- expr. -/
  | exportDefault
  /-- str, attributes?. -/
  | exportAll (isTypeOnly : Bool)
  -- types
  | typeKeyword (text : String)
  | thisType
  /-- [param], typeParams?, result. -/
  | fnType
  /-- [param], typeParams?, result. -/
  | ctorType (isAbstract : Bool)
  /-- name, typeArgs?. -/
  | typeRef
  /-- name, typeArgs?. -/
  | typeQuery
  /-- member*. -/
  | typeLit
  | arrayType
  /-- tupleElement*. -/
  | tupleType
  /-- label?, type. -/
  | tupleElement
  | optionalType
  | restType
  | unionType
  | intersectionType
  /-- checked, extended, then, else. -/
  | condType
  /-- typeParam. -/
  | inferType
  | parenType
  | typeOp (op : TypeOp)
  /-- object, index. -/
  | indexedAccess
  /-- typeParam, nameType?, type?. -/
  | mappedType (readonlyMark optionalMark : MappedMark)
  /-- literal or template literal type. -/
  | litType
  /-- [quasi], [type]. -/
  | templateType
  /-- (ident | thisType), typeAnn?. -/
  | typePredicate (asserts : Bool)
  /-- str, attributes?, qualifier?, typeArgs?. -/
  | importType
  /-- expr, typeArgs?. -/
  | heritage
  /-- name, constraint?, default?. -/
  | typeParam (isIn isOut isConst : Bool)
  /-- typeParam*. -/
  | typeParams
  /-- type*. -/
  | typeArgs
  /-- type. -/
  | typeAnn
  /-- left, name. -/
  | qualified
  -- type members
  /-- [param], typeAnn?, typeParams?. -/
  | callSig
  /-- [param], typeAnn?, typeParams?. -/
  | ctorSig
  /-- key, typeAnn?. -/
  | propSig (isReadonly isComputed isOptional : Bool)
  /-- key, typeAnn?. -/
  | getSig (isComputed : Bool)
  /-- key, param. -/
  | setSig (isComputed : Bool)
  /-- key, [param], typeAnn?, typeParams?. -/
  | methodSig (isComputed isOptional : Bool)
deriving BEq, Repr, Inhabited

end ScriptHost
