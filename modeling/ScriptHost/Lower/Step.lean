import ScriptHost.Lower.Capture
/-!
# Steps of generators

The code of a generator is cut into pieces where it hands out a value, and
wherever something may go on from. A helper runs the pieces one by one: each
answers with an instruction, a list that starts with the number of what to do.

- `Step`: what the code of a generator is made of.
- `Pieces`: the pieces that steps are cut into.
- `Step.code`: the code that runs the piece that a state asks for.
-/

namespace ScriptHost

/-- A place in the code that may be gone on from. -/
abbrev Label := Nat

/-- The places of a part of the code that is protected. -/
structure Protected where
  start : Label
  handler : Option Label
  final : Option Label
  stop : Label
deriving BEq, Repr, Inhabited

/-- What the code of a generator is made of. -/
inductive Step where
  /-- A statement that runs through. -/
  | run (s : Node)
  /-- Nothing, where something may be gone on from. -/
  | idle
  /-- A place. -/
  | mark (l : Label)
  /-- Goes on from a place. -/
  | jump (l : Label)
  /-- Goes on from a place if a test holds. -/
  | jumpIf (test : Node) (l : Label)
  /-- Hands out a value, if any. -/
  | hand (value : Option Node)
  /-- Hands out the values of an iteration. -/
  | handAll (values : Node)
  /-- Ends the generator. -/
  | leave (value : Option Node)
  /-- Ends the generator with an error. -/
  | raise (error : Node)
  /-- Starts a protected part. -/
  | protect (p : Protected)
  /-- Ends a protected part. -/
  | unprotect
  /-- Ends a final part. -/
  | endFinal
deriving Inhabited

/-- The instructions that pieces answer with. -/
inductive Instruction where
  | leave | jump | hand | handAll | endFinal
deriving BEq, DecidableEq, Repr

/-- The number of an instruction. -/
def Instruction.code : Instruction → Nat
  | .leave => 2 | .jump => 3 | .hand => 4 | .handAll => 5 | .endFinal => 7

namespace Step

/-- `return [code, value];`. -/
def answer (i : Instruction) (value : Option Node) : Node :=
  Node.returnOf (Node.made .array (Node.nat i.code :: value.toList))

/-- A place as a part of code: the name without letters whose scope is the place. -/
def placeMark (l : Label) : Node := Node.var "" l

/-- The statement of a step, if it has one. -/
def statement? : Step → Option Node
  | run s => some s
  | jump l => some (answer .jump (some (placeMark l)))
  | jumpIf test l => some (Node.made .ifStmt [test, answer .jump (some (placeMark l)), .none])
  | hand value => some (answer .hand value)
  | handAll values => some (answer .handAll (some values))
  | leave value => some (answer .leave value)
  | raise error => some (Node.made .throw [error])
  | endFinal => some (answer .endFinal none)
  | idle | mark _ | protect _ | unprotect => none

/-- Whether the code behind a step is reached only from a place. -/
def isAbrupt : Step → Bool
  | jump _ | hand _ | handAll _ | leave _ | raise _ | endFinal => true
  | _ => false

/-- Whether a step ends the generator. -/
def isEnd : Step → Bool
  | leave _ | raise _ => true
  | _ => false

/-- Whether a step is only a place. -/
def isMark : Step → Bool
  | mark _ => true
  | _ => false

end Step

/-- Pieces of code while steps are gone through. -/
structure Pieces where
  /-- The variable that tells where to go on. -/
  state : Node
  /-- The pieces that are complete. -/
  done : List (List Node) := []
  /-- The statements of the current piece, once there are any. -/
  current : Option (List Node) := none
  /-- Whether the current piece does not go on to the next step. -/
  isAbrupt : Bool := false
  /-- Whether the last step ended the generator. -/
  isEnd : Bool := false
  /-- The numbers of pieces by the places that start them. -/
  places : List (Label × Nat) := []
  /-- The protected part that starts in the current piece. -/
  starting : Option Protected := none
  /-- What was about to start when the protected parts around were started. -/
  outer : List (Option Protected) := []
deriving Inhabited

namespace Pieces

/-- The number of the current piece. -/
def number (p : Pieces) : Nat := p.done.length

/-- A place as a part of code, if there is one. -/
def optionalPlace (l : Option Label) : Node := (l.map Step.placeMark).getD .none

/-- The statement that notes a protected part. -/
def noteProtected (state : Node) (p : Protected) : Node :=
  Node.stmt (Node.callOf (Node.dot (Node.dot state "trys") "push")
    [Node.made .array [Step.placeMark p.start, optionalPlace p.handler, optionalPlace p.final,
      Step.placeMark p.stop]])

/-- Adds a statement to the current piece. -/
def write (p : Pieces) (s : Node) : Pieces := { p with current := some (p.current.getD [] ++ [s]) }

/-- Completes the current piece, which notes the number of the next one if it goes on to it. -/
def complete (p : Pieces) (goesOn : Bool) : Pieces :=
  let stmts := (p.starting.map (noteProtected p.state)).toList ++ p.current.getD []
  let next := Node.stmt (Node.assignTo (Node.dot p.state "label") (Node.nat (p.number + 1)))
  { p with done := p.done ++ [if goesOn then stmts ++ [next] else stmts]
           current := none, starting := none }

/-- Starts a piece at a place, unless the current one has just started. -/
def enter (p : Pieces) (l : Label) : Pieces :=
  let p := if p.current.isNone then p
    else { p.complete (!p.isAbrupt) with isAbrupt := false, isEnd := false }
  { p with places := (l, p.number) :: p.places }

/-- Goes through a step. -/
def add (p : Pieces) (s : Step) : Pieces :=
  match s with
  | .mark l => p.enter l
  | .protect part =>
    { p with current := some (p.current.getD []), outer := p.starting :: p.outer
             starting := some part }
  | .unprotect => { p with starting := p.outer.headD none, outer := p.outer.tail }
  | s =>
    if p.isAbrupt then p
    else
      let p := { p with isAbrupt := s.isAbrupt, isEnd := s.isEnd }
      match s.statement? with
      | some stmt => p.write stmt
      | none => p

/-- Whether the code of the pieces goes on from a place. -/
def refersTo (p : Pieces) (l : Label) : Bool :=
  (p.done.flatten ++ p.current.getD []).any fun s =>
    s.any fun n => n.identId? == some ("", l)

/-- The pieces with an end, if the end can be reached, from one of the given places or else. -/
def finish (p : Pieces) (ends : List Label) : Pieces :=
  let p :=
    if p.isEnd && !ends.any p.refersTo then p
    else (ends.foldl enter p).write (Step.answer .leave none)
  if p.current.isSome && !p.done.isEmpty then p.complete false else p

/-- The pieces that steps are cut into. -/
def ofSteps (state : Node) (steps : List Step) : Pieces :=
  let ends := (steps.reverse.takeWhile Step.isMark).reverse
  let body := (steps.reverse.dropWhile Step.isMark).reverse
  (body.foldl add { state }).finish (ends.filterMap fun s =>
    match s with
    | .mark l => some l
    | _ => none)

/-- Code with the numbers of pieces for the places in it. -/
def fillPlaces (p : Pieces) (code : Node) : Node :=
  code.rewrite fun n =>
    match n with
    | .mk (.ident "" l _) _ _ => Node.nat ((p.places.lookup l).getD 0)
    | n => n

end Pieces

/-- The code that runs the piece that a state asks for. -/
def Step.code (state : Node) (steps : List Step) : List Node :=
  let p := Pieces.ofSteps state steps
  if p.done.isEmpty then (p.current.getD []).map p.fillPlaces
  else
    let cases := p.done.mapIdx fun i stmts =>
      Node.made .case [Node.nat i, Node.ofList (stmts.map p.fillPlaces)]
    [Node.made .switch [Node.dot state "label", Node.ofList cases]]

end ScriptHost
