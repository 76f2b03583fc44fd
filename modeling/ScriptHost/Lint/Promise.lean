import ScriptHost.Program.Basic
/-!
# Promises that are left alone

A statement that makes a promise should say what becomes of its failure. Which
calls make promises is told by the names of the functions and methods that the
files of a program declare.

- `Promises`: the functions and methods that return promises.
- `Promises.makes`: whether an expression makes a promise.
- `Promises.isFloating`: whether nothing becomes of the promise of a statement.
-/

namespace ScriptHost

namespace Node

/-- Whether an annotation is the type of promises. -/
def isPromiseType (result : Node) : Bool :=
  match result with
  | mk .typeAnn _ [mk .typeRef _ (mk (.ident name _ _) _ _ :: _)] =>
    name == "Promise" || name == "PromiseLike"
  | _ => false

/-- Whether a function returns a promise. -/
def returnsPromise (f : Node) : Bool :=
  match f with
  | mk (.func isAsync _) _ [_, _, _, _, result] => isAsync || result.isPromiseType
  | mk (.arrow isAsync _) _ [_, _, _, result] => isAsync || result.isPromiseType
  | mk .fnExpr _ [_, mk (.func isAsync _) _ [_, _, _, _, result]] =>
    isAsync || result.isPromiseType
  | _ => false

/-- The function that the node declares to return a promise. -/
def promiseFunction (n : Node) : List String :=
  match n with
  | mk (.fnDecl _) _ [name, f] => if f.returnsPromise then name.identName?.toList else []
  | mk (.declarator _) _ [name, value] =>
    if value.returnsPromise then name.identName?.toList else []
  | _ => []

/-- The method that the node declares to return a promise. -/
def promiseMethod (n : Node) : List String :=
  match n with
  | mk (.classMethod ..) _ [mk (.name name) _ _, f] => if f.returnsPromise then [name] else []
  | mk (.methodSig ..) _ (key :: _ :: result :: _) =>
    if result.isPromiseType && !(key.form matches .str ..) then key.nameText?.toList else []
  | _ => []

end Node

/-- The functions and methods that return promises. -/
structure Promises where
  functions : List String
  methods : List String
deriving Repr, Inhabited

namespace Promises

/-- Whether a node is the signature of a method, whose parts declare nothing. -/
def isSignature (n : Node) : Bool := n.form matches .methodSig ..

/-- What the files of a program declare to return promises. -/
def ofFiles (files : List SourceFile) : Promises :=
  ⟨"fetch" :: files.flatMap fun f => f.module.collectOutside isSignature Node.promiseFunction,
   files.flatMap fun f => f.module.collectOutside isSignature Node.promiseMethod⟩

/-- The functions by which promises are made out of others. -/
def makers : List String := ["resolve", "reject", "all", "allSettled", "race", "any"]

/-- The methods that make a promise out of another. -/
def continuations : List String := ["then", "catch", "finally"]

/-- Whether a node is the superclass, of which nothing is known. -/
def isSuper (n : Node) : Bool := n.form matches .superRef

mutual
/-- Whether an expression makes a promise. -/
def makes (c : Promises) : Node → Bool
  | .mk .paren _ [e] => c.makes e
  | .mk .new _ (callee :: _) => callee.identName? == some "Promise"
  | .mk .call _ (callee :: _) => c.callMakes callee
  | _ => false
/-- Whether a call makes a promise, by what is called. -/
def callMakes (c : Promises) : Node → Bool
  | .mk .paren _ [e] => c.callMakes e
  | .mk (.ident name _ _) _ _ => c.functions.contains name
  | .mk (.arrow isAsync _) _ _ => isAsync
  | .mk .fnExpr sp cs => (Node.mk .fnExpr sp cs).returnsPromise
  | .mk .member _ [object, .mk (.name name) _ _] =>
    if object.identName? == some "Promise" then makers.contains name
    else if continuations.contains name then c.makes object
    else !isSuper object && c.methods.contains name
  | _ => false
end

/-- Whether nothing becomes of the promise that an expression makes. -/
def isFloating (c : Promises) : Node → Bool
  | .mk .paren _ [e] => c.isFloating e
  | .mk .call sp [.mk .member msp [object, .mk (.name name) nsp ncs], targs, args] =>
    if continuations.contains name && c.makes object then
      match name with
      | "catch" => args.items.isEmpty
      | "then" => args.items.length < 2
      | _ => c.isFloating object
    else c.makes (.mk .call sp [.mk .member msp [object, .mk (.name name) nsp ncs], targs, args])
  | e => c.makes e

end Promises

end ScriptHost
