import WrapperSynthesis.Text.Blank

/-! What the flags of a regular expression decide about the text behind them, and which characters
it may hold: there are no tables of characters. So Unicode has no classes such as `\d`, no bounds of
words and no comparison without case, and bytes have no set that reaches beyond ASCII. -/

namespace WrapperSynthesis.Pattern

structure Mode where
  /-- Whether it is about characters, and not about bytes. -/
  unicode : Bool := true
  ignoreCase : Bool := false
  /-- Whether blanks mean nothing, and neither does what is between a `#` and the end of a line. -/
  spaced : Bool := false
deriving DecidableEq, Repr

/-- What a backslash and the characters behind it stand for, or a character alone. -/
inductive Atom where
  /-- A character, which may be given by the two digits of a byte. -/
  | char (code : Nat) (isByte : Bool)
  /-- Digits, blanks, or the characters of words, or all others. -/
  | group (negated : Bool)
  /-- The place where a word begins or ends, or any other place. -/
  | wordBound
  | textBound
deriving DecidableEq, Repr

/-- A text without the blanks and comments at its beginning, which may lie in a comment. -/
def afterBlanks (inComment : Bool) : List Char → List Char
  | [] => []
  | c :: rest =>
    if inComment then afterBlanks (c ≠ '\n') rest
    else if Text.isBlank c then afterBlanks false rest
    else if c = '#' then afterBlanks true rest
    else c :: rest

namespace Mode

/-- A flag that is turned on or off. The other flags matter only for what matches. -/
def set (m : Mode) (value : Bool) : Char → Mode
  | 'u' => { m with unicode := value }
  | 'i' => { m with ignoreCase := value }
  | 'x' => { m with spaced := value }
  | _ => m

/-- What follows the blanks that mean nothing. -/
def skip (m : Mode) (text : List Char) : List Char :=
  if m.spaced then afterBlanks false text else text

/-- Whether a part may stand outside of a class of characters. -/
def admits (m : Mode) : Atom → Bool
  | .char code isByte => if m.unicode then !m.ignoreCase else !isByte || code < 128
  | .group negated => !m.unicode && !negated
  | .wordBound => !m.unicode
  | .textBound => true

/-- Whether a part may be a member of a class of characters. -/
def admitsMember (m : Mode) : Atom → Bool
  | .char code _ => if m.unicode then !m.ignoreCase else code < 128
  | .group negated => !m.unicode && !negated
  | .wordBound | .textBound => false

/-- Whether a class with a name may be a member of a class of characters. -/
def admitsNamed (m : Mode) (negated : Bool) : Bool :=
  if m.unicode then !m.ignoreCase else !negated

end Mode

/-- How deep a row of parts nests, each of which nests as deep as is given. A single part stands for
itself. -/
def nesting : List Nat → Nat
  | [] => 0
  | [depth] => depth
  | depths => 1 + depths.foldl max 0

end WrapperSynthesis.Pattern
