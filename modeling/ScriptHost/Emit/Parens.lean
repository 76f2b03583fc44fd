import ScriptHost.Lower.Basic
/-!
# Parentheses

Rewriting leaves parentheses where none are needed and expressions where they
need some. Parentheses are taken off and put back by what is around an
expression.

- `ParenContext`: what is around an expression.
- `Node.reparen`: the tree with parentheses where they are needed.
- `Node.reparenFully`: that tree, and where parentheses are gone.
-/

namespace ScriptHost

/-- What is around an expression, as far as parentheses depend on it. -/
inductive ParenContext where
  /-- The expression starts a statement. -/
  | start
  /-- The expression is called. -/
  | callee
  /-- The expression is called with `new`. -/
  | constructed
  /-- The expression is an item of a list or a value to keep. -/
  | item
  /-- The expression stands alone inside of other syntax. -/
  | free
deriving BEq, DecidableEq, Repr, Inhabited

namespace ParenContext

/-- What is around the parts of an expression: a part may start a statement only where the
expression begins with a part. -/
def inner (c : ParenContext) (form : Form) : ParenContext :=
  if c != .start then c
  else
    match form with
    | .optMember _ | .optCall _ | .member | .binary _ | .assign _ | .seq | .cond | .tagged
    | .update _ false => .start
    | _ => .free

/-- What is around a part of a node. -/
def ofPart (c : ParenContext) (form : Form) (i : Nat) : ParenContext :=
  match form, i with
  | .exprStmt, _ | .exportDefault, _ => .start
  | .arrow .., 1 => .start
  | .call, 0 | .optCall _, 0 => .callee
  | .new, 0 => .constructed
  | .call, 2 | .optCall _, 2 | .new, 2 => .item
  | .list, _ => c
  | .array, _ | .object, _ | .spread, _ | .keyValue, _ | .assignProp, _ => .item
  | .declarator _, 1 | .assign _, 1 | .assignPat, 1 | .shorthandPat, 1 => .item
  | .yield _, _ | .computed, _ => .item
  | .classField _, 2 | .accessorField _, 2 => .item
  | .member, 0 | .optMember _, 0 | .tagged, 0 | .binary _, 0 | .assign _, 0 | .cond, 0
  | .seq, _ | .update _ false, _ => c
  | _, _ => .free

end ParenContext

namespace Node

/-- The node between parentheses. -/
def inParens (n : Node) : Node :=
  mk .paren (if n.span == .pureMark then .synthetic else n.span) [n]

/-- The node between parentheses if a test on its form says so. -/
def inParensIf (test : Form → Bool) (n : Node) : Node := if test n.form then n.inParens else n

/-- The tree of nodes with the part of the given number between parentheses if needed. -/
def parenPart (test : Form → Bool) (i : Nat) (cs : List Node) : List Node :=
  cs.modify i (inParensIf test)

/-! ## Which forms need parentheses -/

/-- Expressions that bind less than any operator. -/
def bindsLoosely : Form → Bool
  | .assign _ | .seq | .yield _ | .cond | .arrow .. => true
  | _ => false

/-- Expressions that a statement cannot start with. -/
def looksLikeStatement : Form → Bool
  | .object | .fnExpr | .classExpr => true
  | _ => false

/-- Expressions that cannot be followed by the name of a property. -/
def isNoObject (c : ParenContext) (object : Node) : Bool :=
  match object with
  | mk .object _ _ => c != .item
  | mk .fnExpr _ _ | mk .cond _ _ | mk (.unary _) _ _ | mk .seq _ _ | mk (.update ..) _ _
  | mk (.binary _) _ _ | mk (.assign _) _ _ | mk (.arrow ..) _ _ | mk .classExpr _ _
  | mk (.yield _) _ _ | mk .await _ _ => true
  | mk .new _ [_, _, args] => args.isNone
  | _ => false

/-- Whether two operators may not be mixed without parentheses. -/
def mayNotMix (outer inner : BinaryOp) : Bool :=
  let isLogical (op : BinaryOp) : Bool := op == .or || op == .and
  (outer == .nullish && isLogical inner) || (inner == .nullish && isLogical outer)

/-- Whether the left operand of an operator needs parentheses. -/
def isNoLeft (op : BinaryOp) (left : Node) : Bool :=
  match left.form with
  | .binary lop =>
    mayNotMix op lop || lop.precedence < op.precedence || (op == .pow && lop == .pow)
  | .unary _ | .await => op == .pow
  | form => bindsLoosely form

/-- Whether the right operand of an operator needs parentheses. -/
def isNoRight (op : BinaryOp) (right : Node) : Bool :=
  match right.form with
  | .binary rop =>
    if rop == op then !(op == .pow || op == .or || op == .and || op == .nullish)
    else mayNotMix op rop || rop.precedence ≤ op.precedence
  | form => bindsLoosely form

/-- Whether the value of an assignment ends in a sequence. -/
def endsInSequence : Node → Bool
  | mk (.assign _) _ [_, value] => value.endsInSequence
  | mk .seq _ _ => true
  | _ => false

/-! ## Sequences -/

/-- What is left of an expression whose value nobody uses; `padded` says that a value without
effects stands before it. -/
def withoutValue (padded : Bool) : Node → Bool × Option Node
  | mk .fnExpr sp cs => if padded then (true, Option.none) else (true, mk .fnExpr sp cs)
  | mk (.arrow a g) sp cs => if padded then (true, Option.none) else (true, mk (.arrow a g) sp cs)
  | mk (.num v r) sp cs => if padded then (true, Option.none) else (true, mk (.num v r) sp cs)
  | mk (.str v r) sp cs => if padded then (true, Option.none) else (true, mk (.str v r) sp cs)
  | mk (.bool v) sp cs => if padded then (true, Option.none) else (true, mk (.bool v) sp cs)
  | mk .null sp cs => if padded then (true, Option.none) else (true, mk .null sp cs)
  | mk (.unary .void) _ [e] => e.withoutValue padded
  | n => (padded, some n)

/-- The expressions of a sequence, with those of the sequences in it. -/
def flatSequence (es : List Node) : List Node :=
  es.flatMap fun e => if e.form matches .seq then e.children else [e]

/-- The expressions of a sequence that have effects, and the last one. -/
def usefulOf (padded : Bool) : List Node → List Node
  | [] => []
  | [last] => [last]
  | e :: es =>
    let (padded, rest) := e.withoutValue padded
    rest.toList ++ usefulOf padded es

/-- A sequence of expressions, or the only one. -/
def sequenceOf (sp : Span) (es : List Node) : Node :=
  match usefulOf false (flatSequence es) with
  | [e] => e
  | es => mk .seq sp es

/-! ## Putting parentheses back -/

/-- An expression that is no sequence, without what would make it another statement. -/
def asSingleStatement (e : Node) : Node :=
  match e with
  | mk (.assign _) _ (mk (.objectPat _) _ _ :: _) => e.inParens
  | _ => e.inParensIf looksLikeStatement

/-- An expression statement without what would make it another statement. -/
def asStatement (e : Node) : Node :=
  match e with
  | mk .seq sp es => mk .seq sp (es.dropLast.map asSingleStatement ++ es.getLast?.toList)
  | e => e.asSingleStatement

/-- The body of an arrow function without what would make it a block. -/
def asArrowBody (e : Node) : Node :=
  match e with
  | mk (.assign _) _ (mk (.objectPat _) _ _ :: _) => e.inParens
  | _ => e.inParensIf fun f => f matches .seq | .object

/-- Puts arguments between parentheses that hand out a value of a generator. -/
def parenArgs (cs : List Node) : List Node :=
  cs.modify 2 fun args => args.mapChildren (inParensIf fun f => f matches .yield _)

/-- Puts the parts of an expression between parentheses that need them where they are. -/
def parenParts (c : ParenContext) (form : Form) (cs : List Node) : List Node :=
  match form with
  | .member | .optMember _ =>
    cs.modify 0 fun o =>
      let isChain := form == .member && o.form matches .optMember _ | .optCall _
      if isChain || isNoObject c o then o.inParens else o
  | .call | .optCall _ =>
    parenPart (fun f => match f with
      | .optMember _ | .optCall _ => form == .call
      | .cond | .binary _ | .unary _ | .object | .await | .yield _ | .arrow .. | .assign _
      | .null | .bool _ | .regex .. | .bigint _ => true
      | _ => false) 0 (parenArgs cs)
  | .new =>
    parenPart (fun f => match f with
      | .call | .await | .yield _ | .binary _ | .assign _ | .seq | .unary _ | .cond | .arrow ..
      | .optMember _ | .optCall _ | .str .. | .num .. | .null | .bool _ | .regex .. => true
      | _ => false) 0 (parenArgs cs)
  | .array => cs.map (inParensIf fun f => f matches .yield _)
  | .tagged =>
    parenPart (fun f => match f with
      | .optMember _ | .optCall _ | .arrow .. | .cond | .binary _ | .seq | .fnExpr | .assign _
      | .unary _ | .yield _ | .await | .classExpr => true
      | .object => c == .start
      | _ => false) 0 cs
  | .binary op =>
    match cs with
    | [left, right] =>
      let left := if isNoLeft op left || (c == .start && looksLikeStatement left.form)
        then left.inParens else left
      [left, if isNoRight op right then right.inParens else right]
    | cs => cs
  | .unary _ =>
    parenPart (fun f => bindsLoosely f || f matches .binary _) 0 cs
  | .await =>
    parenPart (fun f => bindsLoosely f || f matches .binary _) 0 cs
  | .assign _ =>
    cs.modify 1 fun v => if v.endsInSequence then v.inParens else v
  | .cond =>
    match cs with
    | [test, yes, no] =>
      let test := if bindsLoosely test.form || (c == .start && looksLikeStatement test.form)
        then test.inParens else test
      let isSequence (f : Form) : Bool := f matches .seq
      [test, yes.inParensIf isSequence, no.inParensIf isSequence]
    | cs => cs
  | .arrow .. => cs.modify 1 fun b => if b.form matches .block then b else b.asArrowBody
  | .exprStmt => cs.map asStatement
  | .exportDefault =>
    parenPart (fun f => f matches .arrow .. | .seq | .fnExpr | .classExpr) 0 cs
  | .classBody _ =>
    parenPart (fun f => bindsLoosely f || f matches .binary _ | .unary _ | .await) 1 cs
  | .forOf _ => parenPart (fun f => f matches .seq) 1 cs
  | _ => cs

/-- Puts an expression between parentheses if what is around it asks for it. -/
def parenWhole (c : ParenContext) (n : Node) : Node :=
  match n with
  | mk .seq sp es =>
    let n := sequenceOf sp es
    if n.form matches .seq && c != .start && c != .free then n.inParens else n
  | mk .cond _ _ => if c == .constructed then n.inParens else n
  | mk .call sp (callee :: rest) =>
    if c == .constructed then n.inParens
    else if callee.form matches .fnExpr && (c == .start || c == .callee) then
      mk .call sp (callee.inParens :: rest)
    else n
  | n => n

mutual
/-- Puts parentheses into a node that may itself need them. -/
def reparenIn (c : ParenContext) : Node → Node
  | mk .paren _ [e] => parenWhole c (reparenParts (c.inner .paren) e)
  | mk form sp cs =>
    let inner := c.inner form
    parenWhole c (mk form sp (parenParts inner form (reparenFrom inner form 0 cs)))
/-- Puts parentheses into the parts of a node, without those that are around it. -/
def reparenParts (c : ParenContext) : Node → Node
  | mk .paren _ [e] => reparenParts c e
  | mk form sp cs => mk form sp (parenParts c form (reparenFrom c form 0 cs))
/-- Puts parentheses into the parts of a node from the one with the given number on. -/
def reparenFrom (c : ParenContext) (form : Form) (i : Nat) : List Node → List Node
  | [] => []
  | n :: ns => reparenIn (c.ofPart form i) n :: reparenFrom c form (i + 1) ns
end

/-- The tree with parentheses where they are needed, and nowhere else. -/
def reparen (n : Node) : Node := n.reparenIn .free

/-! ## Parentheses that stay -/

/-- The spans of the parentheses in a tree behind those of what is between them, the last first. -/
def parenSpans (n : Node) : List (Span × Span) :=
  (n.collect fun n =>
    match n with
    | mk .paren sp [e] => if sp.isSynthetic || e.span.isSynthetic then [] else [(e.span, sp)]
    | _ => []).reverse

/-- Parentheses with the span of those that stood there before, which are no longer waited for. -/
def keepParenSpan (n : Node) : StateM (List (Span × Span)) Node := do
  match n with
  | mk .paren _ [e] =>
    match (← get).lookup e.span with
    | some sp =>
      modify fun spans => spans.filter fun s => s.1 != e.span
      return mk .paren sp [e]
    | Option.none => return n
  | n => return n

/-- The tree with parentheses where they are needed, and the spans of those that are gone behind the
spans of what was between them. -/
def reparenFully (n : Node) : Node × List (Span × Span) :=
  (n.reparen.rewriteM keepParenSpan).run n.parenSpans

end Node

end ScriptHost
