/-! Digits, and the numbers that rows of them spell. -/

namespace WrapperSynthesis.Text

def digit? (c : Char) : Option Nat :=
  if '0' ≤ c && c ≤ '9' then some (c.toNat - '0'.toNat) else none

/-- The value of a digit to base sixteen, whose letters may be small or capital. -/
def hexDigit? (c : Char) : Option Nat :=
  if '0' ≤ c && c ≤ '9' then some (c.toNat - '0'.toNat)
  else if 'a' ≤ c && c ≤ 'f' then some (c.toNat - 'a'.toNat + 10)
  else if 'A' ≤ c && c ≤ 'F' then some (c.toNat - 'A'.toNat + 10)
  else none

/-- The number that a row of digits spells, the most significant digit first. -/
def ofDigits (base : Nat) (digits : List Nat) : Nat := digits.foldl (fun n d => base * n + d) 0

/-- The number that a text spells with the digits of a base up to sixteen. No digits spell none. -/
def natural? (base : Nat) (text : List Char) : Option Nat :=
  if text = [] then none
  else (text.mapM fun c => (hexDigit? c).filter (· < base)).map (ofDigits base)

/-- The sign in front of a text, and the rest. -/
def splitSign : List Char → Option Char × List Char
  | c :: rest => if c = '-' || c = '+' then (some c, rest) else (none, c :: rest)
  | [] => (none, [])

/-- The whole number that a text spells with decimal digits, with or without a sign. -/
def integer? (text : List Char) : Option Int :=
  let (sign, digits) := splitSign text
  (natural? 10 digits).map fun n => if sign = some '-' then -(n : Int) else n

end WrapperSynthesis.Text
