/-!
# Operators and modifiers

The closed vocabularies that a syntax tree is decorated with: the operators of
expressions with their spelling and binding strength, the kinds of variable
declarations, and the modifiers that a class member or parameter may carry.
-/

namespace ScriptHost

/-- An operator that stands before its one operand. -/
inductive UnaryOp where
  | minus | plus | not | bitNot | typeOf | void | delete
deriving BEq, DecidableEq, Repr, Inhabited

/-- The spelling of a unary operator. -/
def UnaryOp.text : UnaryOp → String
  | .minus => "-" | .plus => "+" | .not => "!" | .bitNot => "~"
  | .typeOf => "typeof" | .void => "void" | .delete => "delete"

/-- An operator that stands between two operands. -/
inductive BinaryOp where
  | eq | ne | strictEq | strictNe | lt | le | gt | ge
  | shl | shr | ushr | add | sub | mul | div | rem
  | bitOr | bitXor | bitAnd | or | and | isIn | instanceOf | pow | nullish
deriving BEq, DecidableEq, Repr, Inhabited

/-- The spelling of a binary operator. -/
def BinaryOp.text : BinaryOp → String
  | .eq => "==" | .ne => "!=" | .strictEq => "===" | .strictNe => "!=="
  | .lt => "<" | .le => "<=" | .gt => ">" | .ge => ">="
  | .shl => "<<" | .shr => ">>" | .ushr => ">>>"
  | .add => "+" | .sub => "-" | .mul => "*" | .div => "/" | .rem => "%"
  | .bitOr => "|" | .bitXor => "^" | .bitAnd => "&"
  | .or => "||" | .and => "&&" | .isIn => "in" | .instanceOf => "instanceof"
  | .pow => "**" | .nullish => "??"

/-- All binary operators. -/
def BinaryOp.all : List BinaryOp :=
  [.eq, .ne, .strictEq, .strictNe, .lt, .le, .gt, .ge, .shl, .shr, .ushr, .add, .sub, .mul,
   .div, .rem, .bitOr, .bitXor, .bitAnd, .or, .and, .isIn, .instanceOf, .pow, .nullish]

/-- The binary operator of a spelling. -/
def BinaryOp.ofText? (s : String) : Option BinaryOp :=
  BinaryOp.all.find? (·.text == s)

/-- How strongly a binary operator binds; a higher number binds more. -/
def BinaryOp.precedence : BinaryOp → Nat
  | .nullish => 1
  | .or => 1
  | .and => 2
  | .bitOr => 3
  | .bitXor => 4
  | .bitAnd => 5
  | .eq | .ne | .strictEq | .strictNe => 6
  | .lt | .le | .gt | .ge | .isIn | .instanceOf => 7
  | .shl | .shr | .ushr => 8
  | .add | .sub => 9
  | .mul | .div | .rem => 10
  | .pow => 11

/-- An assignment operator: `=`, or a binary operator followed by `=`. -/
inductive AssignOp where
  | plain
  | compound (op : BinaryOp)
deriving BEq, DecidableEq, Repr, Inhabited

/-- The spelling of an assignment operator. -/
def AssignOp.text : AssignOp → String
  | .plain => "="
  | .compound op => op.text ++ "="

/-- The assignment operator of a spelling. -/
def AssignOp.ofText? (s : String) : Option AssignOp :=
  if s == "=" then some .plain
  else
    ([.add, .sub, .mul, .div, .rem, .shl, .shr, .ushr, .bitOr, .bitXor, .bitAnd, .pow, .and, .or,
      .nullish].find? (fun (op : BinaryOp) => op.text ++ "=" == s)).map .compound

/-- The operators that change a variable by one. -/
inductive UpdateOp where
  | increment | decrement
deriving BEq, DecidableEq, Repr, Inhabited

/-- The spelling of an update operator. -/
def UpdateOp.text : UpdateOp → String
  | .increment => "++"
  | .decrement => "--"

/-- The three kinds of variable declarations. -/
inductive VarKind where
  | var | lexical | const
deriving BEq, DecidableEq, Repr, Inhabited

/-- The keyword of a variable declaration. -/
def VarKind.text : VarKind → String
  | .var => "var" | .lexical => "let" | .const => "const"

/-- Who may use a class member. -/
inductive Access where
  | everyone | descendants | owner
deriving BEq, DecidableEq, Repr, Inhabited

/-- The keyword of an access level. -/
def Access.text : Access → String
  | .everyone => "public" | .descendants => "protected" | .owner => "private"

/-- What a method-like class or object member is. -/
inductive MethodKind where
  | method | getter | setter
deriving BEq, DecidableEq, Repr, Inhabited

/-- The modifiers of a class member or of a parameter that declares one. -/
structure Modifiers where
  access : Option Access := none
  isStatic : Bool := false
  isAbstract : Bool := false
  isOverride : Bool := false
  isReadonly : Bool := false
  isDeclare : Bool := false
  isOptional : Bool := false
  isDefinite : Bool := false
deriving BEq, DecidableEq, Repr, Inhabited

/-- The operators that stand before a type. -/
inductive TypeOp where
  | keyOf | unique | readonly
deriving BEq, DecidableEq, Repr, Inhabited

/-- The spelling of a type operator. -/
def TypeOp.text : TypeOp → String
  | .keyOf => "keyof" | .unique => "unique" | .readonly => "readonly"

/-- A `readonly` or `?` mark of a mapped type: absent, bare, added or removed. -/
inductive MappedMark where
  | absent | bare | added | removed
deriving BEq, DecidableEq, Repr, Inhabited

end ScriptHost
