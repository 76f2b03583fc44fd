import ScriptHost.Lower.Basic
/-!
# Parameters

A parameter with a default, a pattern or the rest of the arguments becomes a
variable that the body of the function declares.

- `Node.lowerParams`: functions whose parameters are plain names.
-/

namespace ScriptHost

namespace Node

/-- Whether a parameter is a plain name. -/
def isPlainParam (p : Node) : Bool := (p.child 1).form matches .ident ..

/-- `arguments.length`. -/
def argumentCount : Node := dot (global "arguments") "length"

/-- `arguments[i]`. -/
def argument (i : Nat) : Node := index (global "arguments") (nat i)

/-- The value of a parameter with a default. -/
def argumentOr (i : Nat) (value : Node) : Node :=
  let test := made (.binary .and)
    [made (.binary .gt) [argumentCount, nat i],
     made (.binary .strictNe) [argument i, undefined]]
  made .cond [test, argument i, value]

/-- The value of a parameter behind one with a default. -/
def argumentIfAny (i : Nat) : Node :=
  made .cond [made (.binary .gt) [argumentCount, nat i], argument i, undefined]

/-- The loop that collects the rest of the arguments. -/
def collectRest (i : Nat) (target : Node) : Lowering Node := do
  let len ← Lowering.fresh "_len"
  let key ← Lowering.fresh "_key"
  let less (e : Node) : Node := if i == 0 then e else made (.binary .sub) [e, nat i]
  let size := if i == 0 then len else
    made .cond [made (.binary .gt) [len, nat i], less len, nat 0]
  let list := made .new [global "Array", none, ofList [size]]
  let init := declare .var [(len, argumentCount), (target, list), (key, nat i)]
  let set := assignTo (index target (less key)) (index (global "arguments") key)
  return made .forStmt
    [init, made (.binary .lt) [key, len], made (.update .increment false) [key],
     blockOf [stmt set]]

/-- What becomes of the parameters of a function. -/
structure ParamDraft where
  params : List Node := []
  vars : List (Node × Node) := []
  loops : List Node := []
  /-- What is made of the rest of the arguments once it is collected. -/
  restVars : List (Node × Node) := []
  /-- A parameter had a default, so that later ones are read from the arguments. -/
  isLate : Bool := false

/-- The draft with one more parameter. -/
def draftParam (d : ParamDraft) (i : Nat) (p : Node) : Lowering ParamDraft := do
  match p with
  | mk .param _ [_, mk .assignPat _ [target, value]] =>
    return { d with vars := d.vars ++ [(target, argumentOr i value)], isLate := true }
  | mk .param _ [_, mk .restPat _ (target :: _)] =>
    if target.form matches .ident .. then
      return { d with loops := d.loops ++ [← collectRest i target] }
    else
      let rest ← Lowering.fresh "_tmp"
      return { d with loops := d.loops ++ [← collectRest i rest]
                      restVars := d.restVars ++ [(target, rest)] }
  | p =>
    if d.isLate then return { d with vars := d.vars ++ [(p.child 1, argumentIfAny i)] }
    else if p.isPlainParam then return { d with params := d.params ++ [p] }
    else
      let var ← Lowering.fresh "param"
      return { d with params := d.params ++ [p.setChild 1 var]
                      vars := d.vars ++ [(p.child 1, var)] }

/-- The draft of parameters from the one with the given number on. -/
def draftParams (d : ParamDraft) (i : Nat) : List Node → Lowering ParamDraft
  | [] => return d
  | p :: ps => do draftParams (← draftParam d i p) (i + 1) ps

/-- The body with the variables that parameters become. -/
def declareParams (d : ParamDraft) (body : Node) : Node :=
  let declared (vars : List (Node × Node)) : List Node :=
    if vars.isEmpty then [] else [declare .lexical vars]
  match body with
  | mk .block sp stmts =>
    mk .block sp (prependStmts (declared d.vars ++ d.loops ++ declared d.restVars) stmts)
  | body => body

/-- Functions whose parameters are plain names. -/
def lowerParams (n : Node) : Lowering Node := do
  match n with
  | mk (.func a g) sp (ds :: mk .list psp params :: body :: rest) =>
    if params.all isPlainParam then return n
    else
      let d ← draftParams {} 0 params
      return mk (.func a g) sp (ds :: mk .list psp d.params :: declareParams d body :: rest)
  | mk (.constructor mods) sp [key, mk .list psp params, body] =>
    if params.all isPlainParam then return n
    else
      let d ← draftParams {} 0 params
      return mk (.constructor mods) sp [key, mk .list psp d.params, declareParams d body]
  | n => return n

end Node

end ScriptHost
