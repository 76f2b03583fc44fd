import ScriptHost.Tree.Node
/-!
# What an identifier stands for

The same identifier node may read a variable, be assigned to, declare a
variable or only spell a name. Which of them it is follows from the forms
around it.

- `Role`: the parts an identifier can play.
- `Role.isValue`: whether it reads a variable in that part.
- `Form.childRole`: the role of a part of a node.
-/

namespace ScriptHost

/-- What an identifier would stand for at a place of a tree. -/
inductive Role where
  /-- An expression: the identifier reads a variable. -/
  | value
  /-- What a function does, whose declarations belong to the scope of the function; an arrow
  function may have an expression there. -/
  | body
  /-- A reference that is no expression of its own, such as what is assigned to. -/
  | target
  /-- The identifier declares a variable of the block around it. -/
  | binding
  /-- The identifier declares a variable of the function around it. -/
  | varBinding
  /-- The identifier only spells a name. -/
  | name
  /-- A type or a part of one. -/
  | type
deriving BEq, DecidableEq, Repr, Inhabited

/-- Whether an identifier in the role reads a variable. -/
def Role.isValue : Role → Bool
  | .value | .body => true
  | _ => false

namespace Form

/-- The role of a key that may be computed. -/
def keyRole (isComputed : Bool) : Role := if isComputed then .value else .name

/-- The role of a part of a node, by the role of the node and the number of the part. -/
def childRole (form : Form) (own : Role) (i : Nat) : Role :=
  match form, i with
  | .list, _ => own
  | .ident .., _ => .type
  | .assign _, 0 => .target
  | .assignProp, 0 => .target
  | .forIn, 0 | .forOf _, 0 => .target
  | .varDecl .var _, _ => .varBinding
  | .varDecl .., _ | .usingDecl _, _ => .binding
  | .declarator _, 0 => own
  | .arrayPat _, 0 | .objectPat _, 0 => own
  | .arrayPat _, _ | .objectPat _, _ => .type
  | .keyPat, 1 => own
  | .shorthandPat, 0 | .assignPat, 0 | .restPat, 0 => own
  | .restPat, _ => .type
  | .param, 1 | .paramProp _, 1 => .binding
  | .func .., 1 => .binding
  | .func .., 2 | .arrow .., 1 | .constructor _, 2 | .staticBlock, _ | .catchClause, 1 => .body
  | .func .., 3 | .func .., 4 => .type
  | .fnExpr, 0 | .fnDecl _, 0 | .classExpr, 0 | .classDecl _, 0 => .binding
  | .arrow .., 0 => .binding
  | .arrow .., 2 | .arrow .., 3 => .type
  | .classBody _, 2 | .classBody _, 3 => .type
  | .heritage, 1 => .type
  | .constructor _, 0 => .name
  | .constructor _, 1 => .binding
  | .classField _, 3 | .accessorField _, 3 => .type
  | .indexSignature _, 0 => .name
  | .indexSignature _, _ => .type
  | .labeled, 0 | .break, _ | .continue, _ => .name
  | .interfaceDecl _, 0 => .binding
  | .interfaceDecl _, 1 => .type
  | .typeAlias _, 0 => .binding
  | .typeAlias _, _ => .type
  | .enumDecl .., 0 => .binding
  | .enumMember, 0 => .name
  | .moduleDecl .., 0 | .nestedNamespace .., 0 => .binding
  | .importEquals .., 0 => .binding
  | .importEquals .., _ => .target
  | .qualified, 0 => own
  | .qualified, _ => .name
  | .externalRef, _ | .exportNamespace, _ => .name
  | .importDecl _, 0 => .binding
  | .importDecl _, _ => .name
  | .importDefault, _ | .importAll, _ | .importNamed _, 0 => .binding
  | .importNamed _, _ => .name
  | .exportNamed _, _ => .target
  | .exportSpecifier _, 0 => .target
  | .exportSpecifier _, _ | .exportAs, _ | .exportAll _, _ => .name
  | .call, 1 | .new, 1 | .optCall _, 1 | .tagged, 1 => .type
  | .asType, 1 | .satisfies, 1 | .instantiation, 1 => .type
  | .typeAssertion, 0 => .type
  | .jsxOpening _, 0 | .jsxClosing, 0 => .target
  | .jsxOpening _, 2 => .type
  | .jsxMember, 0 => own
  | .jsxMember, _ | .jsxNamespaced, _ | .jsxAttr, 0 => .name
  | .catchClause, 0 => .binding
  | .callSig, 0 | .ctorSig, 0 => .name
  | .callSig, _ | .ctorSig, _ => .type
  | .propSig _ isComputed _, 0 => keyRole isComputed
  | .getSig isComputed, 0 | .setSig isComputed, 0 | .methodSig isComputed _, 0 =>
    keyRole isComputed
  | .methodSig .., 1 | .setSig _, 1 => .name
  | .propSig .., _ | .getSig _, _ | .setSig _, _ | .methodSig .., _ => .type
  | .typeAnn, _ | .typeParams, _ | .typeArgs, _ => .type
  | _, _ => if own == .type then .type else .value

end Form

end ScriptHost
