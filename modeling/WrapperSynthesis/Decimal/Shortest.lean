/-! The shortest decimal that stands for a binary fraction. A positive number `m · 2^q` represents
every real nearer to it than to its two neighbours among the representable numbers. Of the decimals
in that interval the one with the fewest digits is taken, and of two such the nearer one. -/

namespace WrapperSynthesis

/-- The number `digits · 10^exponent`. -/
structure Decimal where
  digits : Nat
  exponent : Int
deriving DecidableEq, Repr

namespace Decimal

/-- A positive number `mantissa · 2^exponent`. -/
structure Binary where
  mantissa : Nat
  exponent : Int
  /-- Whether the neighbour below is only half as far away as the one above. -/
  narrowBelow : Bool
deriving DecidableEq, Repr

namespace Binary

/-- The unit in which the interval has whole ends: a quarter of the last binary place, as a
fraction. -/
def unit (b : Binary) : Nat × Nat :=
  if 2 ≤ b.exponent then (Nat.pow 2 (b.exponent - 2).toNat, 1)
  else (1, Nat.pow 2 (2 - b.exponent).toNat)

/-- The largest `e` with `10^e ≤ num / den`. -/
def log10 (num den : Nat) : Int :=
  if den ≤ num then (Nat.toDigits 10 (num / den)).length - 1
  else
    let places := (Nat.toDigits 10 (den / num)).length
    if den ≤ num * Nat.pow 10 (places - 1) then -(places - 1 : Nat) else -(places : Int)

/-- The multiple of `10^exponent` that is nearest to the number among those that stand for it, if
there is one. Of two at equal distance the even one is taken. -/
def onGrid? (b : Binary) (exponent : Int) : Option Nat :=
  let (num, den) := b.unit
  let up := Nat.pow 10 exponent.toNat
  let down := Nat.pow 10 (-exponent).toNat
  let scale := down * num
  let grid := up * den
  let value := 4 * b.mantissa * scale
  let low := (4 * b.mantissa - if b.narrowBelow then 1 else 2) * scale
  let high := (4 * b.mantissa + 2) * scale
  let inside (k : Nat) : Bool :=
    if b.mantissa % 2 = 0 then low ≤ k * grid && k * grid ≤ high
    else low < k * grid && k * grid < high
  let below := value / grid
  let above := below + 1
  match inside below, inside above with
  | true, true =>
    let left := value - below * grid
    let right := above * grid - value
    some (if left < right || left = right && below % 2 = 0 then below else above)
  | true, false => some below
  | false, true => some above
  | false, false => none

/-- Tries grids of one digit more each time. Seventeen digits always suffice for a double. -/
def search (b : Binary) (top : Int) : (places fuel : Nat) → Decimal
  | _, 0 => ⟨0, 0⟩
  | places, fuel + 1 =>
    match b.onGrid? (top - places) with
    | some digits => ⟨digits, top - places⟩
    | none => b.search top (places + 1) fuel

def trimZeros (digits : Nat) (exponent : Int) : (fuel : Nat) → Decimal
  | 0 => ⟨digits, exponent⟩
  | fuel + 1 =>
    if digits ≠ 0 && digits % 10 = 0 then trimZeros (digits / 10) (exponent + 1) fuel
    else ⟨digits, exponent⟩

def shortest (b : Binary) : Decimal :=
  let (num, den) := b.unit
  let found := b.search (log10 (4 * b.mantissa * num) den) 0 18
  trimZeros found.digits found.exponent 18

end Binary

/-- The number of fractions that a double can have. -/
def fractions : Nat := 0x10000000000000

def Binary.ofBits (bits : Nat) : Binary :=
  let fraction := bits % fractions
  let biased := bits / fractions
  if biased = 0 then ⟨fraction, -1074, false⟩
  else ⟨fractions + fraction, (biased : Int) - 1075, fraction = 0 && 1 < biased⟩

/-- How a number is laid out: which decimal exponents are written without an exponent part, how many
digits an exponent part has at least, and whether a number without fraction ends in `.0` when it is
written without an exponent part. -/
structure Layout where
  positionalFrom : Int
  positionalTo : Int
  exponentDigits : Nat
  pointZero : Bool

namespace Layout

def padded (width n : Nat) : List Char :=
  let digits := Nat.toDigits 10 n
  List.replicate (width - digits.length) '0' ++ digits

/-- What follows the digits of a number without fraction. -/
def wholeEnd (layout : Layout) : List Char := if layout.pointZero then ['.', '0'] else []

def text (layout : Layout) (d : Decimal) : List Char :=
  let digits := Nat.toDigits 10 d.digits
  let leading : Int := d.exponent + digits.length - 1
  if layout.positionalFrom ≤ leading && leading ≤ layout.positionalTo then
    if 0 ≤ d.exponent then
      digits ++ List.replicate d.exponent.toNat '0' ++ layout.wholeEnd
    else if 0 ≤ leading then
      digits.take (leading.toNat + 1) ++ '.' :: digits.drop (leading.toNat + 1)
    else ['0', '.'] ++ List.replicate (-leading - 1).toNat '0' ++ digits
  else
    let mantissa :=
      match digits with
      | first :: second :: rest => first :: '.' :: second :: rest
      | short => short
    mantissa ++ ['e', if leading < 0 then '-' else '+'] ++
      padded layout.exponentDigits leading.natAbs

def signBit : Nat := 0x8000000000000000

def floatText (layout : Layout) (x : Float) : String :=
  let bits := x.toBits.toNat
  let sign := if bits / signBit = 1 then ['-'] else []
  let magnitude := bits % signBit
  String.ofList <| sign ++
    if magnitude = 0 then '0' :: layout.wholeEnd
    else layout.text (Binary.ofBits magnitude).shortest

end Layout

end Decimal

end WrapperSynthesis
