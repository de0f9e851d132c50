import WrapperSynthesis.Decimal.Shortest
import WrapperSynthesis.Text.Digit

/-! Decimals as text spells them, and the doubles nearest to them. -/

namespace WrapperSynthesis.Decimal

/-- Reads a decimal without a sign: digits, among or beside which one point may stand, and an
exponent part if there is one. -/
def ofText? (text : List Char) : Option Decimal := do
  let isMark (c : Char) : Bool := c = 'e' || c = 'E'
  let mantissa := text.takeWhile (!isMark ·)
  let fraction := (mantissa.dropWhile (· ≠ '.')).drop 1
  let digits ← (mantissa.takeWhile (· ≠ '.') ++ fraction).mapM Text.digit?
  let exponent ←
    match text.dropWhile (!isMark ·) with
    | [] => some 0
    | _ :: exponent => Text.integer? exponent
  if digits = [] then none
  else some ⟨Text.ofDigits 10 digits, exponent - fraction.length⟩

/-- The double nearest to a decimal. Beyond the doubles that is zero or an infinity. -/
def toFloat (d : Decimal) : Float :=
  let size : Int := (Nat.toDigits 10 d.digits).length + d.exponent
  if d.digits = 0 || size < -400 then 0.0
  else if 400 < size then 1.0 / 0.0
  else Float.ofScientific d.digits (d.exponent < 0) d.exponent.natAbs

/-- Reads a double: a decimal, an infinity or no number, with or without a sign. -/
def floatOfText? (text : List Char) : Option Float := do
  let (sign, magnitude) := Text.splitSign text
  let word := String.ofList (magnitude.map Char.toLower)
  let x ←
    if word = "inf" || word = "infinity" then some (1.0 / 0.0)
    else if word = "nan" then some (0.0 / 0.0)
    else (ofText? magnitude).map toFloat
  return if sign = some '-' then -x else x

end WrapperSynthesis.Decimal
