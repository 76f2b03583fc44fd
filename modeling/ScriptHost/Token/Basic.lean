import ScriptHost.Token.Issue
import ScriptHost.Tree.Operator
import ScriptHost.Decimal.Shortest
/-!
# Tokens

The words of the language as a scanner delivers them.

- `Token`: the kinds of tokens; punctuation and keywords are held by spelling.
- `Token.display`: how a token is named in an error message.
- `Keyword`: which words are keywords, and what may follow them.
-/

namespace ScriptHost

/-- Which language a source text is written in. -/
structure Dialect where
  /-- Types are allowed. -/
  typed : Bool
  /-- Markup elements are allowed in expressions. -/
  markup : Bool
  /-- The text only declares. -/
  ambient : Bool
deriving BEq, DecidableEq, Repr, Inhabited

/-- The words that are keywords wherever they stand, apart from literals. -/
def keywords : List String :=
  ["await", "break", "case", "catch", "continue", "debugger", "default", "do", "else", "finally",
   "for", "function", "if", "return", "switch", "throw", "try", "var", "let", "const", "while",
   "with", "new", "this", "super", "class", "extends", "export", "import", "yield", "in",
   "instanceof", "typeof", "void", "delete"]

/-- The words that are literals. -/
def literalWords : List String := ["null", "true", "false"]

/-- The keywords after which an expression may start. -/
def keywordsBeforeExpr : List String :=
  ["await", "case", "default", "do", "else", "return", "throw", "new", "extends", "yield", "in",
   "instanceof", "typeof", "void", "delete"]

/-- A word of the language. -/
inductive Token where
  /-- A keyword, or one of the literals `null`, `true` and `false`. -/
  | keyword (text : String)
  | ident (text : String)
  | punct (text : String)
  | str (value raw : String)
  | num (value : Float) (raw : String)
  | bigint (raw : String)
  /-- A piece of a template; `cooked` is its value or why it has none. -/
  | template (cooked : Except Issue String) (raw : String)
  | regex (pattern flags : String)
  | jsxName (text : String)
  | jsxText (raw : String)
  | jsxTagStart
  | jsxTagEnd
  | shebang (text : String)
  /-- What stands here is no word. -/
  | error (issue : Issue)
deriving Inhabited

namespace Token

/-- How a token is named in an error message. -/
def display : Token → String
  | keyword t => t
  | ident t => t
  | punct t => t
  | str v r => "string literal (" ++ v ++ ", " ++ r ++ ")"
  | num v r => "numeric literal (" ++ numberText v ++ ", " ++ r ++ ")"
  | bigint r => "bigint literal (" ++ r ++ ")"
  | template _ r => "template token (" ++ r ++ ")"
  | regex p f => "regexp literal (" ++ p ++ ", " ++ f ++ ")"
  | jsxName t => "jsx name (" ++ t ++ ")"
  | jsxText r => "jsx text (" ++ r ++ ")"
  | jsxTagStart => "< (jsx tag start)"
  | jsxTagEnd => "> (jsx tag end)"
  | shebang _ => "#!"
  | error _ => "<lexing error>"

/-- Whether the token is this punctuation or keyword. -/
def is (t : Token) (text : String) : Bool :=
  match t with
  | keyword s => s == text
  | ident s => s == text
  | punct s => s == text
  | _ => false

/-- Whether the token is this punctuation. -/
def isPunct (t : Token) (text : String) : Bool :=
  match t with
  | punct s => s == text
  | _ => false

/-- Whether the token is a word: keyword, literal or identifier. -/
def isWord : Token → Bool
  | keyword _ => true
  | ident _ => true
  | _ => false

/-- The spelling of a word. -/
def word? : Token → Option String
  | keyword t => some t
  | ident t => some t
  | _ => none

/-- Whether the token is a binary operator written as punctuation. -/
def isBinary : Token → Bool
  | punct s => (BinaryOp.ofText? s).isSome
  | _ => false

/-- Whether an expression may start after the token. -/
def beforeExpr : Token → Bool
  | keyword t => keywordsBeforeExpr.contains t
  | punct t =>
    ["=>", "...", "!", "(", "\x7b", "[", ";", ",", ":", "$\x7b", "?", "++", "--", "~"].contains t
      || (BinaryOp.ofText? t).isSome || (AssignOp.ofText? t).isSome
  | jsxText _ => true
  | _ => false

end Token

/-- A token with its place in the source text. -/
structure TokenAt where
  token : Token
  span : Span
  /-- A line ends between the token before and this one. -/
  lineBreak : Bool
  /-- The source text from the token on. -/
  source : List Char
deriving Inhabited

/-- A comment of a source text. -/
structure Comment where
  isBlock : Bool
  span : Span
  text : String
deriving BEq, Repr, Inhabited

/-- The comments of a source text, each before or after a position. -/
structure Comments where
  leading : List (Pos × List Comment) := []
  trailing : List (Pos × List Comment) := []
deriving BEq, Repr, Inhabited

namespace Comments

/-- Adds a comment at a position of one side. -/
def insert (side : List (Pos × List Comment)) (p : Pos) (c : Comment) :
    List (Pos × List Comment) :=
  match side with
  | [] => [(p, [c])]
  | (q, cs) :: rest => if q == p then (q, cs ++ [c]) :: rest else (q, cs) :: insert rest p c

/-- Adds a comment that stands before a position. -/
def addLeading (cs : Comments) (p : Pos) (c : Comment) : Comments :=
  { cs with leading := insert cs.leading p c }

/-- Adds a comment that stands after a position. -/
def addTrailing (cs : Comments) (p : Pos) (c : Comment) : Comments :=
  { cs with trailing := insert cs.trailing p c }

/-- The comments before a position. -/
def before (cs : Comments) (p : Pos) : List Comment := (cs.leading.lookup p).getD []

/-- The comments after a position. -/
def after (cs : Comments) (p : Pos) : List Comment := (cs.trailing.lookup p).getD []

/-- The comments but for those before a position. -/
def dropBefore (cs : Comments) (p : Pos) : Comments :=
  { cs with leading := cs.leading.filter (·.1 != p) }

/-- The comments but for those after a position. -/
def dropAfter (cs : Comments) (p : Pos) : Comments :=
  { cs with trailing := cs.trailing.filter (·.1 != p) }

/-- One side of the comments with those at a position moved to another one, in the order of the
text. -/
def moveSide (side : List (Pos × List Comment)) (source target : Pos) :
    List (Pos × List Comment) :=
  let moved := (side.lookup source).getD []
  let there := (side.lookup target).getD []
  if source == target || moved.isEmpty then side
  else
    (target, if source < target then moved ++ there else there ++ moved)
      :: side.filter fun c => c.1 != source && c.1 != target

/-- The comments around a span moved to those around another one. -/
def move (cs : Comments) (source target : Span) : Comments :=
  { leading := moveSide cs.leading source.lo target.lo
    trailing := moveSide cs.trailing source.hi target.hi }

/-- How many comments stand before some position. -/
def leadingCount (cs : Comments) : Nat := (cs.leading.flatMap (·.2)).length

/-- How many comments stand after some position. -/
def trailingCount (cs : Comments) : Nat := (cs.trailing.flatMap (·.2)).length

end Comments

end ScriptHost
