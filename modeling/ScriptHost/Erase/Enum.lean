import ScriptHost.Decimal.Shortest
import ScriptHost.Lower.Basic
/-!
# Enumerations

An enumeration becomes an object with a property for each member, and for each
member that is a number a property that leads back to the name. Members whose
values are known when the file is compiled are written out where they are used.

- `EnumValue`: what is known of a member when the file is compiled.
- `EnumTable.ofModule`: the values of the members of all enumerations.
- `EnumTable.inline`: the tree with the known members written out.
- `EnumTable.code`: the statements that fill the object of an enumeration.
-/

namespace ScriptHost

/-- What is known of a member of an enumeration. -/
inductive EnumValue where
  | number (value : Float)
  | text (value : String)
  /-- The value is what an expression has when it is run. -/
  | computed (e : Node)
  /-- There is no value: the member follows one that is no number. -/
  | unset
deriving Inhabited

namespace EnumValue

/-- Whether the value is known. -/
def isKnown : EnumValue → Bool
  | number _ | text _ => true
  | computed _ | unset => false

/-- The expression for a value. -/
def expr : EnumValue → Node
  | number value => Node.number value
  | text value => Node.string value
  | computed e => e
  | unset => Node.undefined

/-- The value of the member after one of this value. -/
def next : EnumValue → EnumValue
  | number value => number (value + 1)
  | _ => unset

end EnumValue

/-! ## Whole numbers in numbers -/

/-- The whole part of a number, zero if there is none. -/
def wholePart (x : Float) : Int :=
  if x == 0 || x.isNaN || x.isInf then 0
  else
    let m := Magnitude.ofFloat x
    let size := if m.exponent ≥ 0 then m.mantissa <<< m.exponent.toNat
      else m.mantissa >>> (-m.exponent).toNat
    if x < 0 then -(size : Int) else size

/-- The number of 32 bits without sign that agrees with a number. -/
def bits32 (x : Float) : UInt32 := UInt32.ofNat ((wholePart x) % (0x100000000 : Int)).toNat

/-- The number of 32 bits with sign. -/
def signed32 (n : UInt32) : Float := Float.ofInt n.toInt32.toInt

/-- The remainder of a division of finite numbers that rounds toward zero; it is exact and has the
sign of the first. -/
def finiteRem (x y : Float) : Float :=
  let a := Magnitude.ofFloat x
  let b := Magnitude.ofFloat y
  let low := min a.exponent b.exponent
  let rest := (a.mantissa <<< (a.exponent - low).toNat) % (b.mantissa <<< (b.exponent - low).toNat)
  let size := (Float.ofNat rest).scaleB low
  if signBit x then -size else size

/-- The remainder of a division that rounds toward zero. -/
def floatRem (x y : Float) : Float :=
  if y == 0 || x.isNaN || y.isNaN || x.isInf then 0.0 / 0.0
  else if y.isInf || x == 0 then x
  else finiteRem x y

/-- A number to the power of another; an exponent that is no number makes none, and so does an
infinite one of one or minus one. -/
def floatPow (x y : Float) : Float :=
  if y.isNaN || (y.isInf && x.abs == 1) then 0.0 / 0.0 else x.pow y

namespace BinaryOp

/-- The value of an operator on numbers, if it has one when the file is compiled. -/
def onNumbers? (op : BinaryOp) (x y : Float) : Option Float :=
  match op with
  | .add => some (x + y)
  | .sub => some (x - y)
  | .mul => some (x * y)
  | .div => some (x / y)
  | .rem => some (floatRem x y)
  | .pow => some (floatPow x y)
  | .shl => some (signed32 (bits32 x <<< (bits32 y % 32)))
  | .shr => some (Float.ofInt ((bits32 x).toInt32.toInt >>> (bits32 y % 32).toNat))
  | .ushr => some (Float.ofNat (bits32 x >>> (bits32 y % 32)).toNat)
  | .bitOr => some (signed32 (bits32 x ||| bits32 y))
  | .bitAnd => some (signed32 (bits32 x &&& bits32 y))
  | .bitXor => some (signed32 (bits32 x ^^^ bits32 y))
  | _ => none

end BinaryOp

/-! ## Values of members -/

/-- The known members of enumerations, the last first: the variable of the enumeration, the name
of the member and its value. -/
structure EnumTable where
  members : List (VarId × String × EnumValue) := []
deriving Inhabited

namespace EnumTable

/-- The value of a member; the last one of its name counts. -/
def find? (t : EnumTable) (id : VarId) (name : String) : Option EnumValue :=
  (t.members.find? fun m => m.1 == id && m.2.1 == name).map (·.2.2)

/-- The value of texts and numbers joined to a text. -/
def joinText (a b : EnumValue) : Option String :=
  match a, b with
  | .text x, .text y => some (x ++ y)
  | .text x, .number y => some (x ++ convertedNumberText y)
  | .number x, .text y => some (convertedNumberText x ++ y)
  | _, _ => none

/-- The text of a known value in a template. -/
def templateText : EnumValue → Option String
  | .text x => some x
  | .number x => some (convertedNumberText x)
  | .computed _ | .unset => none

/-- The text of a template from the spelling of its pieces and the values between them. -/
def fillTemplate : List Node → List EnumValue → Option String
  | .mk (.quasi _ raw) _ _ :: pieces, values => do
    match values with
    | [] => return raw
    | v :: values => return raw ++ (← templateText v) ++ (← fillTemplate pieces values)
  | _, _ => some ""

/-- The value of an operator on two values. -/
def binaryValue (sp : Span) (op : BinaryOp) (left right : Node) (a b : EnumValue) : EnumValue :=
  let side (e : Node) (v : EnumValue) : Node := if v.isKnown then v.expr else e
  let unknown := EnumValue.computed (.mk (.binary op) sp [side left a, side right b])
  match a, b with
  | .number x, .number y => ((op.onNumbers? x y).map EnumValue.number).getD unknown
  | _, _ => if op == .add then ((joinText a b).map EnumValue.text).getD unknown else unknown

mutual
/-- The value of an expression in an enumeration. -/
def evaluate (t : EnumTable) (id : VarId) : Node → EnumValue
  | .mk (.num value _) _ _ => .number value
  | .mk (.str value _) _ _ => .text value
  | .mk .paren _ [e] => evaluate t id e
  | .mk (.ident name scope o) sp cs =>
    match t.find? id name with
    | some (.number x) => .number x
    | some (.text x) => .text x
    | some _ => .computed (Node.dot (Node.var id.1 id.2) name)
    | none =>
      if scope == Scope.unresolved && name == "NaN" then .number (0.0 / 0.0)
      else if scope == Scope.unresolved && name == "Infinity" then .number (1.0 / 0.0)
      else .computed (.mk (.ident name scope o) sp cs)
  | .mk (.unary op) sp [e] =>
    match op, evaluate t id e with
    | .plus, .number x => .number x
    | .minus, .number x => .number (-x)
    | .bitNot, .number x => .number (signed32 (~~~ bits32 x))
    | _, v => .computed (.mk (.unary op) sp [v.expr])
  | .mk (.binary op) sp [left, right] =>
    binaryValue sp op left right (evaluate t id left) (evaluate t id right)
  | .mk .member sp [.mk (.ident name scope o) isp cs, key] =>
    let known := match key with
      | .mk (.name text) _ _ => t.find? (name, scope) text
      | .mk .computed _ [.mk (.str text _) _ _] => t.find? (name, scope) text
      | _ => none
    match known with
    | none | some .unset => .computed (.mk .member sp [.mk (.ident name scope o) isp cs, key])
    | some v => v
  | .mk .template sp [pieces, .mk .list lsp holes] =>
    match fillTemplate pieces.items (evaluateAll t id holes) with
    | some text => .text text
    | none => .computed (.mk .template sp [pieces, .mk .list lsp holes])
  | n => .computed n
/-- The values of expressions. -/
def evaluateAll (t : EnumTable) (id : VarId) : List Node → List EnumValue
  | [] => []
  | e :: es => evaluate t id e :: evaluateAll t id es
end

/-- A value whose expression reaches the members of its own enumeration through its object. -/
def qualify (t : EnumTable) (id : VarId) : EnumValue → EnumValue
  | .computed e => .computed (e.rewrite fun n =>
      match n.identName? with
      | some name =>
        if (t.find? id name).isSome then Node.dot (Node.var id.1 id.2) name else n
      | none => n)
  | v => v

/-- The table with the members of an enumeration; `first` is the value of a member that has no
value of its own. -/
def addMembers (id : VarId) (t : EnumTable) (first : EnumValue) :
    List Node → EnumTable
  | [] => t
  | m :: ms =>
    let name := (m.child 0).nameText?.getD ""
    let value := if (m.child 1).isNone then first else t.qualify id (t.evaluate id (m.child 1))
    addMembers id { t with members := (id, name, value) :: t.members } value.next ms

/-- The table with an enumeration. -/
def add (t : EnumTable) (decl : Node) : EnumTable :=
  match decl with
  | .mk (.enumDecl false _) _ [name, members] =>
    match name.identId? with
    | some id => addMembers id t (.number 0) members.items
    | none => t
  | _ => t

/-- The values of the members of all enumerations of a module. -/
def ofModule (module : Node) : EnumTable :=
  (module.collect fun n => if n.form matches .enumDecl .. then [n] else []).foldl add {}

/-! ## Rewriting -/

/-- The text of the key of a member access, if it is known when the file is compiled. -/
def keyText? : Node → Option String
  | .mk (.name text) _ _ => some text
  | .mk .computed _ [.mk (.str text _) _ _] => some text
  | .mk .computed _ [.mk .template _ [.mk .list _ [.mk (.quasi cooked _) _ _], .mk .list _ []]] =>
    cooked
  | _ => none

/-- The value of a member of an enumeration that an expression reads, if it is known. -/
def constant? (t : EnumTable) (n : Node) : Option Node :=
  match n with
  | .mk .member _ [.mk (.ident name scope _) _ _, key] =>
    match (keyText? key).bind (t.find? (name, scope)) with
    | some v => if v.isKnown then some v.expr else none
    | none => none
  | _ => none

mutual
/-- The tree with the known members of enumerations written out where they are read; `isTarget`
tells whether the node is to be assigned to. -/
def inline (t : EnumTable) (isTarget : Bool) : Node → Node
  | .mk .member sp cs =>
    let found := if isTarget then none else t.constant? (.mk .member sp cs)
    found.getD (.mk .member sp (inlineAll t false cs))
  | .mk (.assign op) sp [target, value] =>
    .mk (.assign op) sp [inline t true target, inline t false value]
  | .mk .assignPat sp [target, value] =>
    .mk .assignPat sp [inline t true target, inline t false value]
  | .mk .shorthandPat sp [target, value] => .mk .shorthandPat sp [target, inline t false value]
  | .mk (.update op b) sp cs => .mk (.update op b) sp (inlineAll t true cs)
  | .mk (.declarator d) sp [target, value] =>
    .mk (.declarator d) sp [inline t true target, inline t isTarget value]
  | .mk .param sp [ds, target] => .mk .param sp [inline t isTarget ds, inline t true target]
  | .mk (.arrow a g) sp (params :: rest) =>
    .mk (.arrow a g) sp (inline t true params :: inlineAll t isTarget rest)
  | .mk form sp cs =>
    let isTarget := isTarget || form matches .arrayPat _ | .objectPat _
    .mk form sp (inlineAll t isTarget cs)
/-- Nodes with the known members of enumerations written out. -/
def inlineAll (t : EnumTable) (isTarget : Bool) : List Node → List Node
  | [] => []
  | c :: cs => inline t isTarget c :: inlineAll t isTarget cs
end

/-- The statement that sets a member of an enumeration. -/
def memberCode (object : Node) (name : String) (value : EnumValue) (span : Span) : Node :=
  let set := Node.assignTo (Node.index object (Node.string name)) value.expr
  match value with
  | .text _ => (Node.stmt set).withSpan span
  | _ => (Node.stmt (Node.assignTo (Node.index object set) (Node.string name))).withSpan span

/-- The statements that fill the object of an enumeration. -/
def code (t : EnumTable) (name members : Node) : List Node :=
  let id := name.identId?.getD ("", Scope.unresolved)
  members.items.map fun m =>
    let key := (m.child 0).nameText?.getD ""
    memberCode name key ((t.find? id key).getD .unset) m.span

end EnumTable

end ScriptHost
