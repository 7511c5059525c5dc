/-!
# Spans of program text

A span is a half-open range of byte offsets into the UTF-8 form of a program. Every token and every
error of the front end carries one.
-/

namespace StackScript

/-- The bytes from `start` up to but not including `stop`. -/
structure Span where
  /-- offset of the first byte -/
  start : Nat
  /-- offset just past the last byte -/
  stop : Nat
  deriving DecidableEq, Repr, Inhabited

namespace Span

/-- The span of one byte. -/
def point (offset : Nat) : Span :=
  ⟨offset, offset + 1⟩

/-- The number of bytes; a span that ends before it starts has none. -/
def length (s : Span) : Nat :=
  s.stop - s.start

/-- Whether the span holds no byte. -/
def isEmpty (s : Span) : Bool :=
  s.stop ≤ s.start

/-- The smallest span that covers both. -/
def merge (s t : Span) : Span :=
  ⟨min s.start t.start, max s.stop t.stop⟩

/-- The span moved to the right by a number of bytes. -/
def shift (s : Span) (bytes : Nat) : Span :=
  ⟨s.start + bytes, s.stop + bytes⟩

/-- The span of things that never stood in a program. -/
def nowhere : Span :=
  ⟨0, 0⟩

/-- The span as it is shown to people: its two offsets around two points. -/
def chars (s : Span) : List Char :=
  Nat.toDigits 10 s.start ++ '.' :: '.' :: Nat.toDigits 10 s.stop

end Span

end StackScript
