import ScriptHost.Source.Span
import ScriptHost.Tree.Form
/-!
# Syntax trees

A `Node` is a form, the span of source text it was read from, and children
whose number and order the form fixes (`ScriptHost.Form`).

- `Node.rewrite`: bottom-up rewriting with a local rule.
- `Node.any`, `Node.collect`: queries over a whole tree.
- constructors such as `Node.call` that also serve as patterns.
-/

namespace ScriptHost

/-- A node of a syntax tree. -/
inductive Node where
  | mk (form : Form) (span : Span) (children : List Node)
deriving Repr, Inhabited

namespace Node

/-- What kind of syntax the node is. -/
def form : Node → Form
  | mk f _ _ => f

/-- The source text the node was read from. -/
def span : Node → Span
  | mk _ s _ => s

/-- The parts of the node. -/
def children : Node → List Node
  | mk _ _ cs => cs

/-- The same node read from another span. -/
def withSpan (sp : Span) : Node → Node
  | mk f _ cs => mk f sp cs

/-- The same node with other parts. -/
def withChildren (cs : List Node) : Node → Node
  | mk f s _ => mk f s cs

/-- The same node with another form. -/
def withForm (f : Form) : Node → Node
  | mk _ s cs => mk f s cs

/-! ## Optional and repeated parts -/

/-- The node that stands for a missing optional part. -/
def none : Node := mk .absent .synthetic []

/-- Whether the node stands for a missing part. -/
def isNone : Node → Bool
  | mk .absent _ _ => true
  | _ => false

/-- Whether the node is there. -/
def isSome (n : Node) : Bool := !n.isNone

/-- The node, unless it stands for a missing part. -/
def toOption (n : Node) : Option Node := if n.isNone then Option.none else some n

/-- An optional part as a node. -/
def ofOption : Option Node → Node
  | Option.none => none
  | some n => n

/-- A sequence as one node. -/
def ofList (ns : List Node) : Node := mk .list .synthetic ns

/-- The parts of a sequence node, and nothing for a missing one. -/
def items (n : Node) : List Node := n.children

/-- A part of the node by number, missing when there are fewer. -/
def child (n : Node) (i : Nat) : Node := n.children.getD i none

/-- The same node with one part replaced. -/
def setChild (n : Node) (i : Nat) (c : Node) : Node := n.withChildren (n.children.set i c)

/-! ## Whole trees -/

mutual
/-- The number of nodes on the longest path to a leaf. -/
def height : Node → Nat
  | mk _ _ cs => heightList cs + 1
/-- The greatest height in a list. -/
def heightList : List Node → Nat
  | [] => 0
  | c :: cs => max c.height (heightList cs)
end

mutual
/-- Rewrites the parts first, then the node itself. -/
def rewrite (f : Node → Node) : Node → Node
  | mk form sp cs => f (mk form sp (rewriteList f cs))
/-- Rewrites every node of a list. -/
def rewriteList (f : Node → Node) : List Node → List Node
  | [] => []
  | c :: cs => c.rewrite f :: rewriteList f cs
end

mutual
/-- Whether a property holds of some node of the tree. -/
def any (p : Node → Bool) : Node → Bool
  | mk form sp cs => p (mk form sp cs) || anyList p cs
/-- Whether a property holds of some node in a list of trees. -/
def anyList (p : Node → Bool) : List Node → Bool
  | [] => false
  | c :: cs => c.any p || anyList p cs
end

mutual
/-- What a function finds at the nodes of the tree, each node before its parts. -/
def collect {α : Type} (f : Node → List α) : Node → List α
  | mk form sp cs => f (mk form sp cs) ++ collectList f cs
/-- What a function finds at the nodes of a list of trees. -/
def collectList {α : Type} (f : Node → List α) : List Node → List α
  | [] => []
  | c :: cs => c.collect f ++ collectList f cs
end

mutual
/-- What a function finds at the nodes of a tree, where `stop` nodes hide their parts. -/
def collectOutside {α : Type} (stop : Node → Bool) (f : Node → List α) : Node → List α
  | mk form sp cs =>
    f (mk form sp cs) ++ (if stop (mk form sp cs) then [] else collectOutsideList stop f cs)
/-- `collectOutside` for a list of trees. -/
def collectOutsideList {α : Type} (stop : Node → Bool) (f : Node → List α) : List Node → List α
  | [] => []
  | c :: cs => c.collectOutside stop f ++ collectOutsideList stop f cs
end

mutual
/-- Whether some node has the property, where `stop` nodes hide their parts and themselves. -/
def anyOutside (stop p : Node → Bool) : Node → Bool
  | mk form sp cs =>
    !stop (mk form sp cs) && (p (mk form sp cs) || anyOutsideList stop p cs)
/-- `anyOutside` for a list of trees. -/
def anyOutsideList (stop p : Node → Bool) : List Node → Bool
  | [] => false
  | c :: cs => c.anyOutside stop p || anyOutsideList stop p cs
end

/-- Open recursion over trees: `step` handles a node with the means to handle
its parts, or any tree that is no deeper than the fuel left. -/
def visitWith {m : Type → Type} [Monad m] (step : (Node → m Node) → Node → m Node) :
    Nat → Node → m Node
  | 0, n => pure n
  | fuel + 1, n => step (visitWith step fuel) n

/-- Handles the parts of a node from left to right and keeps the node. -/
def mapChildrenM {m : Type → Type} [Monad m] (f : Node → m Node) : Node → m Node
  | mk form sp cs => do return mk form sp (← cs.mapM f)

/-- Applies a function to each part of a node. -/
def mapChildren (f : Node → Node) : Node → Node
  | mk form sp cs => mk form sp (cs.map f)

/-! ## Making nodes -/

/-- A made node, which no source text holds. -/
def made (f : Form) (cs : List Node) : Node := mk f .synthetic cs

/-- A variable reference. -/
def var (name : String) (scope : ScopeId) : Node := made (.ident name scope false) []

/-- A property name. -/
def propName (text : String) : Node := made (.name text) []

/-- A string literal. -/
def string (value : String) : Node := made (.str value Option.none) []

/-- A number literal. -/
def number (value : Float) : Node := made (.num value Option.none) []

/-- A natural number literal. -/
def nat (value : Nat) : Node := number value.toFloat

/-- `callee(args)`. -/
def callOf (callee : Node) (args : List Node) : Node := made .call [callee, none, ofList args]

/-- `object.property`. -/
def dot (object : Node) (property : String) : Node := made .member [object, propName property]

/-- `object[index]`. -/
def index (object key : Node) : Node := made .member [object, made .computed [key]]

/-- `target = value`. -/
def assignTo (target value : Node) : Node := made (.assign .plain) [target, value]

/-- `expr;`. -/
def stmt (expr : Node) : Node := mk .exprStmt .synthetic [expr]

/-- `void 0`. -/
def undefined : Node := made (.unary .void) [nat 0]

/-- A block of statements. -/
def blockOf (stmts : List Node) : Node := made .block stmts

/-- `return value`. -/
def returnOf (value : Node) : Node := made .return [value]

/-- A declaration of variables with optional initial values. -/
def declare (kind : VarKind) (vars : List (Node × Node)) : Node :=
  made (.varDecl kind false) (vars.map fun (p, i) => made (.declarator false) [p, i])

/-- `function name(params) { body }` as the part after the name. -/
def funcOf (params : List Node) (body : List Node) (isAsync isGenerator : Bool) : Node :=
  made (.func isAsync isGenerator)
    [ofList [], ofList (params.map fun p => made .param [ofList [], p]), blockOf body, none, none]

/-! ## Views -/

/-- The name of a variable reference or binding. -/
def identName? : Node → Option String
  | mk (.ident name _ _) _ _ => some name
  | _ => Option.none

/-- The name and scope of a variable reference or binding. -/
def identId? : Node → Option VarId
  | mk (.ident name scope _) _ _ => some (name, scope)
  | _ => Option.none

/-- The value of a string literal. -/
def strValue? : Node → Option String
  | mk (.str v _) _ _ => some v
  | _ => Option.none

/-- The text of a name, whether it is written as an identifier or a string. -/
def nameText? : Node → Option String
  | mk (.ident name _ _) _ _ => some name
  | mk (.name text) _ _ => some text
  | mk (.str v _) _ _ => some v
  | _ => Option.none

/-- The expression inside any number of parentheses. -/
def unparen : Node → Node
  | mk .paren _ [e] => e.unparen
  | n => n

end Node

end ScriptHost
