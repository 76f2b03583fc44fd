import ScriptHost.Host.Path
import ScriptHost.Helper.Basic
import ScriptHost.Scope.Resolve
import ScriptHost.Token.Basic
/-!
# Rewriting to older editions

The passes that rewrite a module make variables of their own, each in a scope
of its own, and call functions that the module has to bring along.

- `Lowering`: computations that make variables and call helpers.
- `Lowering.fresh`, `Lowering.freshFor`: new variables.
- `Lowering.helper`: calls of helpers.
- `Node.rewriteM`: bottom-up rewriting.
-/

namespace ScriptHost

/-- The first number that no scope has, and the helpers that were called. -/
structure LowerState where
  nextScope : ScopeId
  helpers : List Helper := []
deriving Inhabited

/-- Computations that make variables and call helpers. -/
abbrev Lowering := StateM LowerState

namespace Node

/-! ## Names for values -/

/-- What an expression is called, if it has something like a name. -/
def valueName? : Node → Option String
  | mk (.ident name _ _) _ _ => some name
  | mk .this _ _ => some "this"
  | mk .superRef _ _ => some "super"
  | mk .member _ [object, mk (.name text) _ _] => some ((object.valueName?.getD "") ++ "_" ++ text)
  | mk .member _ [object, mk .computed _ [key]] =>
    some ((object.valueName?.getD "") ++ "_" ++ (key.valueName?.getD ""))
  | mk (.optMember _) _ [object, mk (.name text) _ _] =>
    some ((object.valueName?.getD "") ++ "_" ++ text)
  | mk (.optMember _) _ [object, mk .computed _ [key]] =>
    some ((object.valueName?.getD "") ++ "_" ++ (key.valueName?.getD ""))
  | mk .call _ (callee :: _) => callee.valueName?
  | mk (.optCall _) _ (callee :: _) => callee.valueName?
  | mk .paren _ [e] => e.valueName?
  | _ => Option.none

/-- Words that cannot be the name of a variable. -/
def reservedNames : List String :=
  keywords ++ literalWords
    ++ ["enum", "await", "implements", "package", "protected", "interface", "private", "public",
        "let", "static", "yield", "eval", "arguments"]

/-- The characters of a text that may stand in a name; the first one that is kept may be any that
can be part of a name. -/
def nameChars (cs : List Char) : List Char := cs.filter fun c => isIdentStart c || isIdentPart c

/-- A text made into the name of a variable: what cannot be part of it is left out. -/
def validName (text : String) : String :=
  let kept := String.ofList (nameChars text.toList)
  let kept := if kept.isEmpty then "_" else kept
  if reservedNames.contains kept then "_" ++ kept else kept

/-- The name of a made variable: it starts with a low line. -/
def madeName (text : String) : String :=
  let name := validName text
  if Path.startsWith "_" name then name else "_" ++ name

/-- The expression that is the property of an object that a name node or computed key names. -/
def memberOf (object key : Node) : Node := made .member [object, key]

/-- Whether an expression is a variable that the file declares, so that reading it twice is the
same as reading it once. -/
def isLocalVar (n : Node) : Bool :=
  match n with
  | mk (.ident _ scope _) _ _ => scope != Scope.unresolved
  | _ => false

/-! ## Rewriting -/

mutual
/-- Rewrites the parts first, then the node itself. -/
def rewriteM {m : Type → Type} [Monad m] (f : Node → m Node) : Node → m Node
  | mk form sp cs => do f (mk form sp (← rewriteListM f cs))
/-- Rewrites every node of a list. -/
def rewriteListM {m : Type → Type} [Monad m] (f : Node → m Node) : List Node → m (List Node)
  | [] => return []
  | c :: cs => do
    let c ← rewriteM f c
    return c :: (← rewriteListM f cs)
end

/-- Whether a statement is one of those at the front of a body that only say how it is read. -/
def isDirective : Node → Bool
  | mk .exprStmt _ [mk (.str ..) _ _] => true
  | _ => false

/-- Statements with others in front, but behind those that say how the body is read. -/
def prependStmts (new stmts : List Node) : List Node :=
  stmts.takeWhile isDirective ++ new ++ stmts.dropWhile isDirective

/-- What is declared for a variable, which may come as an assignment of its first value. -/
def declared (var : Node) : Node × Node :=
  match var with
  | mk (.assign .plain) _ [v, value] => (v, value)
  | v => (v, none)

/-- A declaration of variables, if there are any; those that come as assignments have values. -/
def declareVars (vars : List Node) : List Node :=
  if vars.isEmpty then [] else [declare .var (vars.map declared)]

/-- A reference to a name that the file does not declare. -/
def global (name : String) : Node := var name Scope.unresolved

end Node

namespace Lowering

/-- A variable that is no other. -/
def fresh (name : String) : Lowering Node :=
  modifyGet fun s => (Node.var name s.nextScope, { s with nextScope := s.nextScope + 1 })

/-- A variable to keep the value of an expression in, after which it is named and in whose place it
stands. -/
def freshFor (e : Node) (otherwise : String) : Lowering Node := do
  return (← fresh (Node.madeName (e.valueName?.getD otherwise))).withSpan e.span

/-- A reference to a helper, which the module will bring along. -/
def helper (h : Helper) : Lowering Node :=
  modifyGet fun s =>
    (Node.var h.name Scope.helpers,
      if s.helpers.contains h then s else { s with helpers := s.helpers ++ [h] })

/-- A call of a helper. -/
def callHelper (h : Helper) (args : List Node) : Lowering Node := do
  return Node.callOf (← helper h) args

/-- A call of a helper that has no effect but its value. -/
def callPureHelper (h : Helper) (args : List Node) : Lowering Node := do
  return (← callHelper h args).withSpan .pureMark

end Lowering

end ScriptHost
