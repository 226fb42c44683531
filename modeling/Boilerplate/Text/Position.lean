/-
# Places in a text

`proc_macro2::Span` and `proc_macro2::LineColumn`.

Lines count from one and columns from zero, in characters.  A `Span` runs from its start up to its
end, which it does not contain.  Tokens that nobody wrote have the span `Span.none`.
-/

namespace Boilerplate

/-- A place between two characters. -/
structure Position where
  line : Nat
  column : Nat
deriving DecidableEq, Repr, Inhabited

/-- The place before the first character. -/
def Position.start : Position := ⟨1, 0⟩

/-- The place behind `c`, which stands at `p`. -/
def Position.after (p : Position) (c : Char) : Position :=
  if c = '\n' then ⟨p.line + 1, 0⟩ else ⟨p.line, p.column + 1⟩

/-- A stretch of text. -/
structure Span where
  first : Position
  last : Position
deriving DecidableEq, Repr, Inhabited

namespace Span

/-- The span of what nobody wrote: the empty stretch at the start. -/
def none : Span := ⟨.start, .start⟩

/-- From the start of one span to the end of another. -/
def through (a b : Span) : Span := ⟨a.first, b.last⟩

end Span
end Boilerplate
