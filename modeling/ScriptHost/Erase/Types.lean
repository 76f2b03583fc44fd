import ScriptHost.Scope.Role
/-!
# Taking types off

What only says something about types has no counterpart in the output.

- `Node.isErased`: the statements and members that are nothing but types.
- `Node.withoutTypes`: the tree without types.
-/

namespace ScriptHost

namespace Node

/-! ## What is nothing but types -/

/-- Whether a function has a body. -/
def hasBody (f : Node) : Bool := (f.child 2).isSome

mutual
/-- Whether a statement does anything when it is run. -/
def isConcrete : Node → Bool
  | mk (.interfaceDecl _) _ _ | mk (.typeAlias _) _ _ | mk .exportNamespace _ _ => false
  | mk (.varDecl _ isDeclare) _ _ => !isDeclare
  | mk (.classDecl isDeclare) _ _ => !isDeclare
  | mk (.enumDecl isDeclare _) _ _ => !isDeclare
  | mk (.fnDecl isDeclare) _ cs => !isDeclare && ((cs.getD 1 none).child 2).isSome
  | mk (.moduleDecl isDeclare isGlobal) _ cs => !isDeclare && !isGlobal && isConcreteLast cs
  | mk (.nestedNamespace isDeclare _) _ cs => !isDeclare && isConcreteLast cs
  | mk .moduleBlock _ stmts => isConcreteAny stmts
  | mk .exportDecl _ cs => isConcreteLast cs
  | mk .exportDefaultDecl _ [mk (.interfaceDecl _) _ _] => false
  | mk .exportDefaultDecl _ [mk .fnExpr _ [_, f]] => (f.child 2).isSome
  | mk (.importEquals _ isTypeOnly) _ _ => !isTypeOnly
  | _ => true
/-- Whether any of some statements does anything. -/
def isConcreteAny : List Node → Bool
  | [] => false
  | s :: ss => s.isConcrete || isConcreteAny ss
/-- Whether the last part of a node does anything. -/
def isConcreteLast : List Node → Bool
  | [] => false
  | [s] => s.isConcrete
  | _ :: ss => isConcreteLast ss
end

/-- Whether a member of a class is nothing but types. -/
def isTypeMember : Node → Bool
  | mk (.indexSignature _) _ _ | mk .emptyMember _ _ => true
  | mk (.constructor _) _ cs => (cs.getD 2 none).isNone
  | mk (.classMethod _ mods) _ cs => mods.isAbstract || ((cs.getD 1 none).child 2).isNone
  | mk (.classField mods) _ _ => mods.isAbstract || mods.isDeclare
  | mk (.accessorField mods) _ _ => mods.isAbstract || mods.isDeclare
  | _ => false

/-- Whether a statement or member is nothing but types. -/
def isErased (n : Node) : Bool := !n.isConcrete || n.isTypeMember

/-- Whether a parameter only says what `this` is. -/
def isThisParam : Node → Bool
  | mk .param _ [_, mk (.ident name _ _) _ _] => name == "this"
  | _ => false

end Node

/-- The modifiers of a member that mean something when the class is run. -/
def Modifiers.withoutTypes (m : Modifiers) : Modifiers := { isStatic := m.isStatic }

namespace Node

mutual
/-- The tree without types. -/
def withoutTypes : Node → Node
  | mk (.ident name scope _) sp _ => mk (.ident name scope false) sp []
  | mk .asType _ (e :: _) => e.withoutTypes
  | mk .satisfies _ (e :: _) => e.withoutTypes
  | mk .asConst _ [e] => e.withoutTypes
  | mk .nonNull _ [e] => e.withoutTypes
  | mk .instantiation _ (e :: _) => e.withoutTypes
  | mk .typeAssertion _ [_, e] => e.withoutTypes
  | mk (.func isAsync isGenerator) sp [ds, ps, body, _, _] =>
    mk (.func isAsync isGenerator) sp
      [ds.withoutTypes, ps.withoutTypes, body.withoutTypes, none, none]
  | mk (.arrow isAsync isGenerator) sp [ps, body, _, _] =>
    mk (.arrow isAsync isGenerator) sp [ps.withoutTypes, body.withoutTypes, none, none]
  | mk (.classBody _) sp [ds, super, _, _, _, members] =>
    mk (.classBody false) sp
      [ds.withoutTypes, super.withoutTypes, none, none, ofList [], members.withoutTypes]
  | mk .call sp [callee, _, args] => mk .call sp [callee.withoutTypes, none, args.withoutTypes]
  | mk .new sp [callee, _, args] => mk .new sp [callee.withoutTypes, none, args.withoutTypes]
  | mk (.optCall direct) sp [callee, _, args] =>
    mk (.optCall direct) sp [callee.withoutTypes, none, args.withoutTypes]
  | mk .tagged sp [tag, _, t] => mk .tagged sp [tag.withoutTypes, none, t.withoutTypes]
  | mk (.arrayPat _) sp [elems, _] => mk (.arrayPat false) sp [elems.withoutTypes, none]
  | mk (.objectPat _) sp [props, _] => mk (.objectPat false) sp [props.withoutTypes, none]
  | mk .restPat sp [arg, _] => mk .restPat sp [arg.withoutTypes, none]
  | mk (.declarator _) sp cs => mk (.declarator false) sp (withoutTypesAll cs)
  | mk (.constructor mods) sp cs => mk (.constructor mods.withoutTypes) sp (withoutTypesAll cs)
  | mk (.classMethod kind mods) sp cs =>
    mk (.classMethod kind mods.withoutTypes) sp (withoutTypesAll cs)
  | mk (.classField mods) sp [ds, key, value, _] =>
    mk (.classField mods.withoutTypes) sp
      [ds.withoutTypes, key.withoutTypes, value.withoutTypes, none]
  | mk (.accessorField mods) sp [ds, key, value, _] =>
    mk (.accessorField mods.withoutTypes) sp
      [ds.withoutTypes, key.withoutTypes, value.withoutTypes, none]
  | mk (.jsxOpening selfClosing) sp [name, attrs, _] =>
    mk (.jsxOpening selfClosing) sp [name.withoutTypes, attrs.withoutTypes, none]
  | mk form sp cs => mk form sp (withoutTypesAll cs)
/-- Nodes without types, and without those that are nothing else. -/
def withoutTypesAll : List Node → List Node
  | [] => []
  | c :: cs =>
    if c.isErased || c.isThisParam then withoutTypesAll cs
    else c.withoutTypes :: withoutTypesAll cs
end

end Node

end ScriptHost
