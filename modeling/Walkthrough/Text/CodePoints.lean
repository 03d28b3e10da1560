/-!
# Sets of code points

A property of characters that a standard lists is kept as the spans of code points that have it.
-/

namespace Walkthrough.Text

/-- A run of neighbouring code points, both ends included. -/
structure Span where
  first : Nat
  last : Nat
deriving DecidableEq

/-- Whether a code point lies in the span. -/
def Span.covers (span : Span) (point : Nat) : Bool :=
  decide (span.first ≤ point) && decide (point ≤ span.last)

@[simp]
theorem Span.covers_iff (span : Span) (point : Nat) :
    span.covers point = true ↔ span.first ≤ point ∧ point ≤ span.last := by
  simp [covers]

/-- Whether spans stand in ascending order and do not touch. -/
def inOrder : List Span → Bool
  | a :: b :: rest => decide (a.last + 1 < b.first) && inOrder (b :: rest)
  | _ => true

/-- Whether one of the spans covers the character. -/
def liesIn (spans : List Span) (c : Char) : Bool :=
  spans.any fun span => span.covers c.toNat

theorem liesIn_iff (spans : List Span) (c : Char) :
    liesIn spans c = true ↔ ∃ span ∈ spans, span.first ≤ c.toNat ∧ c.toNat ≤ span.last := by
  simp [liesIn]

end Walkthrough.Text
