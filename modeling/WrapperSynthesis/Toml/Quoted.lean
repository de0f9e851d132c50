import WrapperSynthesis.Text.Digit

/-! Strings in quotes. There are four forms: basic strings, in which a backslash escapes, and
literal strings, in which nothing does, each on one line or, between threefold quotes, on
several. -/

namespace WrapperSynthesis.Toml

/-- A control character other than tab. -/
def isControl (c : Char) : Bool := (c.toNat < 32 && c ≠ '\t') || c.toNat = 127

/-- The longest run of `q` in a text, of which a run of `length` has just been read. -/
def longestRun (q : Char) (length : Nat) : List Char → Nat
  | [] => length
  | c :: rest => if c = q then longestRun q (length + 1) rest else max length (longestRun q 0 rest)

/-! ### Writing -/

/-- A character of a basic string. On several lines a line break stands for itself. -/
def escaped (multiline : Bool) (c : Char) : List Char :=
  if c = '\x08' then ['\\', 'b']
  else if c = '\t' then ['\\', 't']
  else if c = '\n' then (if multiline then ['\n'] else ['\\', 'n'])
  else if c = '\x0c' then ['\\', 'f']
  else if c = '\r' then ['\\', 'r']
  else if c = '\\' then ['\\', '\\']
  else if c.toNat < 32 || c.toNat = 127 then
    ['\\', 'u', '0', '0', (Nat.digitChar (c.toNat / 16)).toUpper,
      (Nat.digitChar (c.toNat % 16)).toUpper]
  else [c]

def basicBody (text : List Char) : List Char :=
  text.flatMap fun c => if c = '"' then ['\\', '"'] else escaped false c

/-- The characters of a basic string on several lines, after a run of `quotes` quotes. Every third
quote in a row is escaped. -/
def multilineBody (quotes : Nat) : List Char → List Char
  | [] => []
  | c :: rest =>
    if c = '"' then
      if quotes = 2 then '\\' :: '"' :: multilineBody 0 rest
      else '"' :: multilineBody (quotes + 1) rest
    else escaped true c ++ multilineBody 0 rest

inductive QuoteForm where
  | basic
  | literal
  | multilineBasic
  | multilineLiteral
deriving DecidableEq, Repr

/-- The first form that needs no escapes, tabs apart; a basic form when there is none. -/
def quoteForm (text : List Char) : QuoteForm :=
  let lines := text.contains '\n'
  let controls := text.any fun c => isControl c && c ≠ '\n'
  let backslash := text.contains '\\'
  let doubles := longestRun '"' 0 text
  let singles := longestRun '\'' 0 text
  if !lines && !controls && !backslash && doubles = 0 then .basic
  else if !lines && !controls && singles = 0 then .literal
  else if !controls && !backslash && doubles ≤ 2 then .multilineBasic
  else if !controls && singles ≤ 2 then .multilineLiteral
  else if lines then .multilineBasic
  else .basic

/-- What follows the opening quotes of a string on several lines: a line break when the string has
one itself. -/
def leadingBreak (text : List Char) : List Char := if text.contains '\n' then ['\n'] else []

def quoted (text : List Char) : List Char :=
  match quoteForm text with
  | .basic => '"' :: basicBody text ++ ['"']
  | .literal => '\'' :: text ++ ['\'']
  | .multilineBasic =>
    ['"', '"', '"'] ++ leadingBreak text ++ multilineBody 0 text ++ ['"', '"', '"']
  | .multilineLiteral => ['\'', '\'', '\''] ++ leadingBreak text ++ text ++ ['\'', '\'', '\'']

/-! ### Reading -/

/-- A character by its number, in as many hexadecimal digits as asked for, and the rest. Halves of
surrogate pairs and numbers beyond all characters are none. -/
def scanHex (n : Nat) : (digits : Nat) → List Char → Option (Char × List Char)
  | 0, rest => if h : n.isValidChar then some (Char.ofNatAux n h, rest) else none
  | _ + 1, [] => none
  | digits + 1, c :: rest => (Text.hexDigit? c).bind fun d => scanHex (16 * n + d) digits rest

/-- The character that an escape stands for, after its backslash, and the rest. -/
def scanEscape : List Char → Option (Char × List Char)
  | [] => none
  | c :: rest =>
    match c with
    | 'b' => some ('\x08', rest)
    | 't' => some ('\t', rest)
    | 'n' => some ('\n', rest)
    | 'f' => some ('\x0c', rest)
    | 'r' => some ('\r', rest)
    | 'e' => some ('\x1b', rest)
    | '"' => some ('"', rest)
    | '\\' => some ('\\', rest)
    | 'x' => scanHex 0 2 rest
    | 'u' => scanHex 0 4 rest
    | 'U' => scanHex 0 8 rest
    | _ => none

/-- A string's characters, and the text behind its closing quotes. -/
abbrev Scanned := Option (List Char × List Char)

def Scanned.push (c : Char) (s : Scanned) : Scanned := s.map fun (text, rest) => (c :: text, rest)

def scanBasic : (fuel : Nat) → List Char → Scanned
  | 0, _ | _ + 1, [] => none
  | fuel + 1, c :: rest =>
    if c = '"' then some ([], rest)
    else if c = '\\' then
      (scanEscape rest).bind fun (c, rest) => (scanBasic fuel rest).push c
    else if isControl c then none
    else (scanBasic fuel rest).push c

def scanLiteral : List Char → Scanned
  | [] => none
  | c :: rest =>
    if c = '\'' then some ([], rest)
    else if isControl c then none
    else (scanLiteral rest).push c

/-- The quotes at the start of a text: a run of fewer than three belongs to the string, and a longer
run closes it, after at most two that belong to it. -/
def closing (q : Char) (text : List Char) : Option (Nat × List Char) :=
  let run := (text.takeWhile (· = q)).length
  if run < 3 then none else some (min run 5 - 3, text.drop (min run 5))

/-- The blanks and line breaks behind a backslash at the end of a line. Nothing when the line does
not end there. -/
def skipLineEnd (text : List Char) : Option (List Char) :=
  let isSpace (c : Char) : Bool := c = ' ' || c = '\t'
  match text.dropWhile isSpace with
  | '\n' :: rest => some (skipAll rest)
  | '\r' :: '\n' :: rest => some (skipAll rest)
  | _ => none
where
  skipAll : List Char → List Char
  | '\r' :: '\n' :: rest => skipAll rest
  | c :: rest => if c = ' ' || c = '\t' || c = '\n' then skipAll rest else c :: rest
  | [] => []

def scanMultilineBasic : (fuel : Nat) → List Char → Scanned
  | 0, _ | _ + 1, [] => none
  | fuel + 1, c :: rest =>
    if c = '"' then
      match closing '"' (c :: rest) with
      | some (quotes, rest) => some (List.replicate quotes '"', rest)
      | none => (scanMultilineBasic fuel rest).push c
    else if c = '\\' then
      match skipLineEnd rest with
      | some rest => scanMultilineBasic fuel rest
      | none => (scanEscape rest).bind fun (c, rest) => (scanMultilineBasic fuel rest).push c
    else if c = '\n' || (c = '\r' && rest.head? = some '\n') then
      (scanMultilineBasic fuel rest).push c
    else if isControl c then none
    else (scanMultilineBasic fuel rest).push c

def scanMultilineLiteral : List Char → Scanned
  | [] => none
  | c :: rest =>
    if c = '\'' then
      match closing '\'' (c :: rest) with
      | some (quotes, rest) => some (List.replicate quotes '\'', rest)
      | none => (scanMultilineLiteral rest).push c
    else if c = '\n' || (c = '\r' && rest.head? = some '\n') then
      (scanMultilineLiteral rest).push c
    else if isControl c then none
    else (scanMultilineLiteral rest).push c

/-- Skips the line break that may follow the opening quotes of a string on several lines. -/
def skipLeadingBreak : List Char → List Char
  | '\n' :: rest => rest
  | '\r' :: '\n' :: rest => rest
  | text => text

/-- The string in quotes at the start of a text, and the rest. A name may not be written on several
lines. -/
def scanQuoted (multiline : Bool) (text : List Char) : Scanned :=
  match text with
  | '"' :: '"' :: '"' :: rest =>
    if multiline then
      let rest := skipLeadingBreak rest
      scanMultilineBasic (rest.length + 1) rest
    else none
  | '\'' :: '\'' :: '\'' :: rest =>
    if multiline then scanMultilineLiteral (skipLeadingBreak rest) else none
  | '"' :: rest => scanBasic (rest.length + 1) rest
  | '\'' :: rest => scanLiteral rest
  | _ => none

end WrapperSynthesis.Toml
