/-
  Typewright/Text/Span.lean
  =========================
  **Spans of code points** — the form in which the tables of character classes
  are written down.

  A class is a list of disjoint spans.  Scripts that alternate capital and small
  letters give spans of step two, which keeps the tables short.
-/

namespace Typewright.Text

/-- The code points `first`, `first + step`, and so on up to `last`. -/
structure Span where
  first : Nat
  last : Nat
  step : Nat

def Span.contains (s : Span) (code : Nat) : Bool :=
  s.first ≤ code && code ≤ s.last && (code - s.first) % s.step == 0

end Typewright.Text
