/-!
# Spans

A byte of a source text has a *position*, counted from one, so that zero is
free to mark what no source text holds: a node that a pass has made.

- `Span`: a half-open range of positions.
- `Span.synthetic`: the range of a made node.
- `Span.pureMark`: the range of a made node without effects.
- `Span.offset`, `Span.length`: the range as a zero-based byte offset and a
  byte count.
-/

namespace ScriptHost

/-- A byte position counted from one; zero belongs to no source text. -/
abbrev Pos := Nat

/-- The bytes from `lo` up to, and not including, `hi`. -/
structure Span where
  lo : Pos
  hi : Pos
deriving BEq, DecidableEq, Repr, Inhabited

namespace Span

/-- The span of a node that no source text holds. -/
def synthetic : Span := ⟨0, 0⟩

/-- The span of a made expression that is known to have no effect but its value. -/
def pureMark : Span := ⟨0, 1⟩

/-- Whether the span belongs to a made node. -/
def isSynthetic (s : Span) : Bool := s.lo == 0

/-- The zero-based byte offset at which the span starts. -/
def offset (s : Span) : Nat := s.lo - 1

/-- The number of bytes in the span. -/
def length (s : Span) : Nat := s.hi - s.lo

/-- The empty span at a position. -/
def at_ (p : Pos) : Span := ⟨p, p⟩

end Span

end ScriptHost
