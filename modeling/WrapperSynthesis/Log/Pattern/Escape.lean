import WrapperSynthesis.Log.Pattern.Mode
import WrapperSynthesis.Text.Digit

/-! Characters of a regular expression that are written with a backslash. -/

namespace WrapperSynthesis.Pattern

/-- The values of so many hexadecimal digits, and what follows them. -/
def hexDigits (m : Mode) : Nat → List Char → Option (List Nat × List Char)
  | 0, text => some ([], text)
  | n + 1, text =>
    match m.skip text with
    | [] => none
    | c :: rest => do
      let digit ← Text.hexDigit? c
      let (digits, rest) ← hexDigits m n rest
      return (digit :: digits, rest)

/-- The character whose code point is spelled with so many hexadecimal digits. -/
def codePoint (m : Mode) (size : Nat) (text : List Char) : Option (Atom × List Char) := do
  let (digits, rest) ← hexDigits m size text
  let code := Text.ofDigits 16 digits
  if code.isValidChar then some (.char code (size = 2), rest) else none

def escape (m : Mode) : List Char → Option (Atom × List Char)
  | [] => none
  | c :: rest =>
    let char (code : Nat) : Option (Atom × List Char) := some (.char code false, rest)
    match c with
    | 'x' => codePoint m 2 rest
    | 'u' => codePoint m 4 rest
    | 'U' => codePoint m 8 rest
    | 'd' | 's' | 'w' => some (.group false, rest)
    | 'D' | 'S' | 'W' => some (.group true, rest)
    | 'b' | 'B' | '<' | '>' => some (.wordBound, rest)
    | 'A' | 'z' => some (.textBound, rest)
    | 'a' => char 7
    | 't' => char 9
    | 'n' => char 10
    | 'v' => char 11
    | 'f' => char 12
    | 'r' => char 13
    | c => if 128 ≤ c.toNat || c.isAlphanum then none else char c.toNat

end WrapperSynthesis.Pattern
