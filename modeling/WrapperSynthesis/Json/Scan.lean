import WrapperSynthesis.Json.Draft

/-! Blanks, words, strings and numbers of JSON text. -/

namespace WrapperSynthesis.Json

def isBlank (c : Char) : Bool := c = ' ' || c = '\t' || c = '\n' || c = '\r'

def skipBlanks (text : List Char) : List Char := text.dropWhile isBlank

def scanWord : (word text : List Char) → Except Damage (List Char)
  | [], text => .ok text
  | _ :: _, [] => .error .truncated
  | w :: word, c :: text => if w = c then scanWord word text else .error .malformed

/-- The four hexadecimal digits of an escape, and the rest of the text. The text ends too early
when fewer than four bytes are left. -/
def hexQuad : List Char → Except Damage (Nat × List Char)
  | a :: b :: c :: d :: rest =>
    match Text.hexDigit? a, Text.hexDigit? b, Text.hexDigit? c, Text.hexDigit? d with
    | some a, some b, some c, some d => .ok (((a * 16 + b) * 16 + c) * 16 + d, rest)
    | _, _, _, _ => .error .malformed
  | short =>
    .error (if 4 ≤ (String.ofList short).utf8ByteSize then .malformed else .truncated)

def isLeading (n : Nat) : Bool := 0xD800 ≤ n && n ≤ 0xDBFF

def isTrailing (n : Nat) : Bool := 0xDC00 ≤ n && n ≤ 0xDFFF

/-- The second half of a pair whose first half has just been read, and the rest of the text. There
is none when something else follows. -/
def secondHalf : List Char → Except Damage (Option (Nat × List Char))
  | [] | ['\\'] => .error .truncated
  | '\\' :: 'u' :: rest =>
    match hexQuad rest with
    | .error damage => .error damage
    | .ok (n, rest) => .ok (if isTrailing n then some (n, rest) else none)
  | _ => .ok none

def shortEscape? (c : Char) : Option Char :=
  match c with
  | '"' => some '"'
  | '\\' => some '\\'
  | '/' => some '/'
  | 'b' => some '\x08'
  | 'f' => some '\x0c'
  | 'n' => some '\n'
  | 'r' => some '\r'
  | 't' => some '\t'
  | _ => none

inductive StringScan where
  /-- Up to its closing quote. Nothing, when it holds half of a surrogate pair. -/
  | closed (s : Option (List Char)) (rest : List Char)
  | stopped (stop : Stop)
deriving DecidableEq, Repr

namespace StringScan

def push (c : Char) : StringScan → StringScan
  | closed s rest => closed (s.map (c :: ·)) rest
  | stopped stop => stopped stop

def spoil : StringScan → StringScan
  | closed _ rest => closed none rest
  | stopped stop => stopped ⟨.malformed, stop.skipped⟩

end StringScan

/-- The string whose opening quote has just been read. Each step reads at least one character. -/
def scanString : (fuel : Nat) → List Char → StringScan
  | 0, _ | _ + 1, [] => .stopped (.both .truncated)
  | fuel + 1, c :: rest =>
    if c = '"' then .closed (some []) rest
    else if c = '\\' then
      match rest with
      | [] => .stopped (.both .truncated)
      | e :: rest =>
        if e = 'u' then
          match hexQuad rest with
          | .error damage => .stopped (.both damage)
          | .ok (n, rest) =>
            if isTrailing n then (scanString fuel rest).spoil
            else if isLeading n then
              match secondHalf rest with
              | .error damage => .stopped (.both damage)
              | .ok (some (m, rest)) =>
                (scanString fuel rest).push
                  (Char.ofNat (0x10000 + (n - 0xD800) * 0x400 + (m - 0xDC00)))
              | .ok none => (scanString fuel rest).spoil
            else (scanString fuel rest).push (Char.ofNat n)
        else
          match shortEscape? e with
          | some c => (scanString fuel rest).push c
          | none => .stopped (.both .malformed)
    else if c.toNat < 32 then .stopped (.both .malformed)
    else (scanString fuel rest).push c

/-- The digits at the start of a text, and the rest of it. -/
def spanDigits : List Char → List Nat × List Char
  | [] => ([], [])
  | c :: rest =>
    match Text.digit? c with
    | some d => let (digits, rest) := spanDigits rest; (d :: digits, rest)
    | none => ([], c :: rest)

/-- Where a digit is missing. At the end of the text a kept number could still go on. -/
def missingDigit (rest : List Char) : Stop :=
  if rest.isEmpty then ⟨.truncated, .malformed⟩ else .both .malformed

/-- The whole part of a number. A zero in front of other digits is not allowed. -/
def scanWhole (text : List Char) : Except Stop (List Nat × List Char) :=
  match spanDigits text with
  | ([], rest) => .error (missingDigit rest)
  | (0 :: _ :: _, _) => .error (.both .malformed)
  | found => .ok found

def scanFraction : List Char → Except Stop (List Nat × List Char)
  | '.' :: rest =>
    match spanDigits rest with
    | ([], rest) => .error (missingDigit rest)
    | found => .ok found
  | text => .ok ([], text)

def scanSign : List Char → Bool × List Char
  | '-' :: rest => (true, rest)
  | '+' :: rest => (false, rest)
  | text => (false, text)

def scanExponent : List Char → Except Stop (Option (Bool × List Nat) × List Char)
  | [] => .ok (none, [])
  | c :: rest =>
    if c = 'e' || c = 'E' then
      let (negative, rest) := scanSign rest
      match spanDigits rest with
      | ([], rest) => .error (missingDigit rest)
      | (digits, rest) => .ok (some (negative, digits), rest)
    else .ok (none, c :: rest)

def scanNumber (text : List Char) : Except Stop (Numeral × List Char) := do
  let (negative, text) :=
    match text with
    | '-' :: rest => (true, rest)
    | text => (false, text)
  let (whole, text) ← scanWhole text
  let (fraction, text) ← scanFraction text
  let (exponent, text) ← scanExponent text
  return (⟨negative, whole, fraction, exponent⟩, text)

end WrapperSynthesis.Json
