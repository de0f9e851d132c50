import WrapperSynthesis.Text.Digit

/-! Numbers as JSON text spells them, and what they are read as: an integer where 64 bits can hold
it, and otherwise a double. -/

namespace WrapperSynthesis.Json

/-- A number as its text spells it. Digits are in reading order. -/
structure Numeral where
  negative : Bool
  whole : List Nat
  fraction : List Nat
  /-- The sign and the digits of the exponent part, if there is one. -/
  exponent : Option (Bool × List Nat)
deriving DecidableEq, Repr, Inhabited

inductive NumberValue where
  | integer (i : Int)
  | real (x : Float)
deriving Repr

namespace Numeral

/-- Numbers below this bound fit 64 bits. -/
def wordBound : Nat := 0x10000000000000000

/-- The leading digits of the whole part, as many as fit, and the number of the others. -/
def takeWhole (significand : Nat) : List Nat → Nat × Nat
  | [] => (significand, 0)
  | d :: rest =>
    if 10 * significand + d < wordBound then takeWhole (10 * significand + d) rest
    else (significand, rest.length + 1)

/-- The digits of the fraction that still fit behind a significand, and their number. -/
def takeFraction (significand : Nat) : List Nat → Nat × Nat
  | [] => (significand, 0)
  | d :: rest =>
    if 10 * significand + d < wordBound then
      let (s, n) := takeFraction (10 * significand + d) rest
      (s, n + 1)
    else (significand, 0)

def tenTo (n : Nat) : Float := Float.ofScientific 1 false n

/-- Divides by `10^n`, in steps of at most 308 places. -/
def scaleDown (x : Float) (n : Nat) : Float :=
  if n ≤ 308 then x / tenTo n
  else if x == 0 then x
  else scaleDown (x / tenTo 308) (n - 308)
termination_by n

/-- `x · 10^e`, or nothing where that is beyond all doubles. -/
def scale? (x : Float) (e : Int) : Option Float :=
  if e < 0 then some (scaleDown x e.natAbs)
  else if e ≤ 308 then
    let y := x * tenTo e.toNat
    if y.isInf then none else some y
  else if x == 0 then some x
  else none

/-- The numeral as a double: its leading digits, as many as 64 bits can hold, scaled by a power of
ten. Nothing where the number is beyond all doubles. -/
def real? (n : Numeral) : Option Float := do
  let (whole, dropped) := takeWhole 0 n.whole
  let (significand, places) := takeFraction whole n.fraction
  let start : Int := (dropped : Int) - places
  let e : Int :=
    match n.exponent with
    | none => start
    | some (true, digits) => start - Text.ofDigits 10 digits
    | some (false, digits) => start + Text.ofDigits 10 digits
  let x ← scale? (UInt64.ofNat significand).toFloat e
  return if n.negative then -x else x

/-- The integer that the numeral spells, if it is written without fraction and exponent part and
fits 64 bits. Zero with a sign is none. -/
def integer? (n : Numeral) : Option Int :=
  if n.fraction.isEmpty && n.exponent.isNone then
    let magnitude := Text.ofDigits 10 n.whole
    if n.negative then
      if 0 < magnitude && 2 * magnitude ≤ wordBound then some (-(magnitude : Int)) else none
    else if magnitude < wordBound then some magnitude
    else none
  else none

/-- What the numeral is read as. Nothing where it is beyond all doubles. -/
def value? (n : Numeral) : Option NumberValue :=
  match n.integer? with
  | some i => some (.integer i)
  | none => n.real?.map .real

end Numeral

end WrapperSynthesis.Json
