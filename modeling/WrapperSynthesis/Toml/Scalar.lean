import WrapperSynthesis.Text.Digit
import WrapperSynthesis.Toml.Value

/-! Scalars without quotes: truth values, numbers, dates and times. -/

namespace WrapperSynthesis.Toml

def isDelimiter (c : Char) : Bool :=
  c = '=' || c = ',' || c = '[' || c = ']' || c = '{' || c = '}' || c = ' ' || c = '\t' ||
    c = '#' || c = '\r' || c = '\n'

/-! ### Numbers

A number is recognised by its beginning and by its underscores. Digits may turn out to be letters
after an underscore: `1_f` is an integer that no machine number holds. -/

def isDigitOf (base : Nat) (c : Char) : Bool := (Text.hexDigit? c).any (· < base)

/-- Whether every underscore has a digit before it and after it. Of the character before the text
only that is known. -/
def separated (isDigit : Char → Bool) (digitBefore : Bool) : List Char → Bool
  | [] => true
  | [c] => c ≠ '_'
  | c :: next :: rest =>
    (c ≠ '_' || digitBefore && isDigit next) && separated isDigit (isDigit c) (next :: rest)

def joined (text : List Char) : List Char := text.filter (· ≠ '_')

/-- One more than the largest integer of 128 bits. -/
def integerBound : Nat := 0x100000000000000000000000000000000

/-- Whether an integer of 128 bits has the magnitude that is read. A negative one also needs a bit
for its sign, and `-2^127` is the least. -/
def integerHeld (negative : Bool) : Option Nat → Bool
  | some n => if negative then 2 * n ≤ integerBound else n < integerBound
  | none => false

/-- An integer after its mark of a base. -/
def based? (base : Nat) (text : List Char) : Option Bool :=
  if separated (isDigitOf base) false text && (joined text).all (isDigitOf base) then
    some (integerHeld false (Text.natural? base (joined text)))
  else none

/-- An integer to base ten, after its sign. It does not begin with a zero, and all its characters up
to the first underscore are digits. -/
def integer? (sign : Option Char) (text : List Char) : Option Bool :=
  let found := some (integerHeld (sign = some '-') (Text.natural? 10 (joined text)))
  match text.dropWhile Char.isDigit with
  | [] => if text = [] || text.head? = some '0' && text.length ≠ 1 then none else found
  | c :: _ =>
    if c = '_' && text.head? ≠ some '0' && separated (isDigitOf 16) false text then found
    else none

/-- Whether `digits · 10^exponent` is nearer to the largest double than to the number that would
follow it. -/
def withinDoubles (digits : Nat) (exponent : Int) : Bool :=
  let size : Int := (Nat.toDigits 10 digits).length + exponent
  if digits = 0 || size < 300 then true
  else if 310 < size then false
  else
    digits * Nat.pow 10 exponent.toNat <
      (Nat.pow 2 1024 - Nat.pow 2 970) * Nat.pow 10 (-exponent).toNat

def isExponentMark (c : Char) : Bool := c = 'e' || c = 'E'

/-- The part of a number after its exponent mark, or zero when there is no mark. -/
def exponent? : List Char → Option Int
  | [] => some 0
  | _ :: text => Text.integer? text

/-- A number with a fraction or an exponent, after its sign. A zero begins it only as the sole digit
before the point. -/
def float? (text : List Char) : Option Bool := do
  let plain := joined text
  let mantissa := plain.takeWhile (!isExponentMark ·)
  let whole := mantissa.takeWhile (· ≠ '.')
  let fraction := mantissa.dropWhile (· ≠ '.')
  let exponent ← exponent? (plain.dropWhile (!isExponentMark ·))
  let _ ← Text.natural? 10 whole
  if !fraction.isEmpty then
    let _ ← Text.natural? 10 fraction.tail
  let digits ← Text.natural? 10 (whole ++ fraction.tail)
  if separated Char.isDigit false text && !(text.head? = some '0' && whole.length ≠ 1) then
    some (withinDoubles digits (exponent - fraction.tail.length))
  else none

/-- A number. A point or the mark of an exponent after its first digits tells it from an
integer. -/
def number? (text : List Char) : Option Bool :=
  match text with
  | '0' :: 'x' :: rest => based? 16 rest
  | '0' :: 'o' :: rest => based? 8 rest
  | '0' :: 'b' :: rest => based? 2 rest
  | text =>
    let (sign, text) := Text.splitSign text
    if text = "inf".toList || text = "nan".toList then some true
    else if (text.dropWhile Char.isDigit).any fun c => c = '.' || isExponentMark c then
      float? text
    else integer? sign text

/-! ### Dates and times -/

def daysIn (year month : Nat) : Nat :=
  match month with
  | 4 | 6 | 9 | 11 => 30
  | 2 => if year % 4 = 0 && (year % 100 ≠ 0 || year % 400 = 0) then 29 else 28
  | _ => 31

def isDate (text : List Char) : Bool :=
  match text with
  | [y₁, y₂, y₃, y₄, '-', m₁, m₂, '-', d₁, d₂] =>
    let year := Text.natural? 10 [y₁, y₂, y₃, y₄]
    match year, Text.natural? 10 [m₁, m₂], Text.natural? 10 [d₁, d₂] with
    | some year, some month, some day =>
      1 ≤ month && month ≤ 12 && 1 ≤ day && day ≤ daysIn year month
    | _, _, _ => false
  | _ => false

/-- Seconds with or without a fraction. A leap second counts. -/
def isSeconds : List Char → Bool
  | [s₁, s₂] => (Text.natural? 10 [s₁, s₂]).any (· ≤ 60)
  | s₁ :: s₂ :: '.' :: fraction =>
    (Text.natural? 10 [s₁, s₂]).any (· ≤ 60) && (Text.natural? 10 fraction).isSome
  | _ => false

def isHourMinute (h₁ h₂ m₁ m₂ : Char) : Bool :=
  (Text.natural? 10 [h₁, h₂]).any (· ≤ 23) && (Text.natural? 10 [m₁, m₂]).any (· ≤ 59)

/-- A time of day such as `07:32`, `07:32:00` or `07:32:00.999`. -/
def isTime : List Char → Bool
  | [h₁, h₂, ':', m₁, m₂] => isHourMinute h₁ h₂ m₁ m₂
  | h₁ :: h₂ :: ':' :: m₁ :: m₂ :: ':' :: rest => isHourMinute h₁ h₂ m₁ m₂ && isSeconds rest
  | _ => false

def isOffset : List Char → Bool
  | ['Z'] | ['z'] => true
  | [sign, h₁, h₂, ':', m₁, m₂] => (sign = '+' || sign = '-') && isHourMinute h₁ h₂ m₁ m₂
  | _ => false

def isOffsetTime (text : List Char) : Bool :=
  let isClock (c : Char) : Bool := c.isDigit || c = ':' || c = '.'
  let offset := text.dropWhile isClock
  isTime (text.takeWhile isClock) && (offset.isEmpty || isOffset offset)

def isMoment (text : List Char) : Bool :=
  isDate text || isTime text ||
    match text.drop 10 with
    | c :: time => isDate (text.take 10) && (c = 'T' || c = 't') && isOffsetTime time
    | [] => false

def scalar? (text : List Char) : Option Value :=
  if text = "true".toList then some (.bool true)
  else if text = "false".toList then some (.bool false)
  else if isMoment text then some .moment
  else (number? text).map .number

/-- The scalar without quotes at the start of a text, and the rest. A blank may stand between a date
and a time. -/
def scanScalar (text : List Char) : Option (Value × List Char) :=
  let word := text.takeWhile (!isDelimiter ·)
  let rest := text.dropWhile (!isDelimiter ·)
  match isDate word, rest with
  | true, ' ' :: more =>
    if (more.head?.map Char.isDigit).getD false then
      if isOffsetTime (more.takeWhile (!isDelimiter ·)) then
        some (.moment, more.dropWhile (!isDelimiter ·))
      else none
    else some (.moment, rest)
  | _, _ => (scalar? word).map fun value => (value, rest)

end WrapperSynthesis.Toml
