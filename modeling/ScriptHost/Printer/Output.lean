import ScriptHost.Options.Target
import ScriptHost.Token.Basic
import ScriptHost.Tree.Node
/-!
# Writing text

Text is written line by line; the first text of a line comes after the blanks
of its depth. Comments are written once, where the position they belong to is
reached.

- `Print`: computations that write.
- `Print.write`, `Print.line`: the two ways to go on.
- `Print.sequence`: a list in one of the `ListStyle`s.
-/

namespace ScriptHost

/-- What has been written, and what is still to be. -/
structure Output where
  text : String := ""
  depth : Nat := 0
  isLineStart : Bool := true
  comments : Comments := {}
  target : Target
deriving Inhabited

/-- Computations that write text. -/
abbrev Print := StateM Output

/-- The layouts of lists. -/
structure ListStyle where
  /-- What stands between items. -/
  separator : String := ","
  /-- Every item has a line of its own. -/
  onLines : Bool := false
  /-- Items are one level deeper than what is around them. -/
  indents : Bool := false
  /-- A blank comes after every separator. -/
  isSpaced : Bool := true
  /-- Blanks part the items from the braces around them. -/
  isPadded : Bool := false

namespace ListStyle

/-- `a, b`. -/
def commas : ListStyle := {}

/-- ` a, b `. -/
def padded : ListStyle := { isPadded := true }

/-- A line for each item. -/
def lines : ListStyle := { separator := "", onLines := true, indents := true, isSpaced := false }

/-- A line for each item, and commas between them. -/
def commaLines : ListStyle := { onLines := true, indents := true }

/-- A line for each item, no deeper than what is around. -/
def flatLines : ListStyle := { separator := "", onLines := true, isSpaced := false }

/-- `a | b`. -/
def alternatives : ListStyle := { separator := " |" }

/-- `a & b`. -/
def conjuncts : ListStyle := { separator := " &" }

/-- `a b`. -/
def words : ListStyle := { separator := "" }

end ListStyle

namespace Print

/-- Writes text on the current line. -/
def write (s : String) : Print Unit :=
  modify fun o =>
    if s.isEmpty then o
    else if o.isLineStart then
      { o with text := o.text.pushn ' ' (4 * o.depth) ++ s, isLineStart := false }
    else { o with text := o.text ++ s }

/-- Ends the line unless nothing is on it. -/
def line : Print Unit :=
  modify fun o =>
    if o.isLineStart then o else { o with text := o.text ++ "\n", isLineStart := true }

/-- Writes something one level deeper. -/
def deeper (p : Print Unit) : Print Unit := do
  modify fun o => { o with depth := o.depth + 1 }
  p
  modify fun o => { o with depth := o.depth - 1 }

/-! ## Comments -/

/-- Writes comments. -/
def comments (hasBlank : Bool) (cs : List Comment) : Print Unit :=
  cs.forM fun c => do
    if hasBlank then write " "
    if c.isBlock then
      write ("/*" ++ c.text ++ "*/")
      write " "
    else
      write ("//" ++ c.text)
      line

/-- Writes the comments that stand before a position. -/
def commentsBefore (p : Pos) : Print Unit := do
  let found := (← get).comments.before p
  unless p == 0 || found.isEmpty do
    modify fun o => { o with comments := o.comments.dropBefore p }
    comments false found

/-- Writes the comments that stand after a position. -/
def commentsAfter (p : Pos) (hasBlank : Bool) : Print Unit := do
  let found := (← get).comments.after p
  unless p == 0 || found.isEmpty do
    modify fun o => { o with comments := o.comments.dropAfter p }
    comments hasBlank found

/-- Writes what stands before a node. -/
def nodeStart (n : Node) : Print Unit :=
  if n.span == .pureMark then write "/*#__PURE__*/ " else commentsBefore n.span.lo

/-- Whether comments stand before the bracket that ends a span. -/
def hasInnerComments (span : Span) : Print Bool := do
  if span.isSynthetic then return false
  return !((← get).comments.before (span.hi - 1)).isEmpty

/-! ## Lists -/

/-- Writes an item of a list, with the comments that stand after it on its line. -/
def listItem (style : ListStyle) (p : Node → Print Unit) (n : Node) : Print Unit := do
  p n
  unless style.onLines do commentsAfter n.span.hi false

/-- Writes the comments inside of an item of a list that stand before its last character; `whole` is
the span of what holds the list. -/
def itemEnd (style : ListStyle) (whole : Span) (n : Node) : Print Unit :=
  if style.separator.isEmpty || n.span.hi == whole.hi then pure ()
  else commentsBefore (n.span.hi - 1)

/-- Writes items of a list behind another one. -/
def nextItems (style : ListStyle) (whole : Span) (p : Node → Print Unit) (last : Node) :
    List Node → Print Unit
  | [] => itemEnd style whole last
  | n :: ns => do
    itemEnd style whole last
    write style.separator
    if style.onLines then line else if style.isSpaced then write " "
    listItem style p n
    nextItems style whole p n ns

/-- Writes the items of a list; `whole` is the span of what holds it. -/
def sequence (style : ListStyle) (whole : Span) (p : Node → Print Unit) : List Node → Print Unit
  | [] => if style.onLines then line else if style.isPadded then write " " else pure ()
  | first :: rest => do
    let body : Print Unit := do
      listItem style p first
      nextItems style whole p first rest
    if style.onLines then line else if style.isPadded then write " "
    if style.indents then deeper body else body
    if style.onLines then line else if style.isPadded then write " "

/-- Writes a part if it is there. -/
def optional (p : Node → Print Unit) (n : Node) : Print Unit := if n.isSome then p n else pure ()

end Print

end ScriptHost
