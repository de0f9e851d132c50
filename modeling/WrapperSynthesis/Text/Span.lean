/-! Sets of characters as lists of spans. A span holds every `step`-th code point of an interval:
step two fits the alphabets in which capitals and small letters alternate. -/

namespace WrapperSynthesis.Text

/-- The code points `first`, `first + step`, … up to `last`. -/
structure Span where
  first : Nat
  last : Nat
  step : Nat
deriving DecidableEq, Repr

def Span.holds (s : Span) (n : Nat) : Bool :=
  s.first ≤ n && n ≤ s.last && (n - s.first) % s.step = 0

def inSpans (spans : List Span) (c : Char) : Bool := spans.any fun s => s.holds c.toNat

end WrapperSynthesis.Text
