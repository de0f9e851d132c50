/-! Sizes and places in a text, counted in bytes. A character has one to four of them, so a place
may also lie within a character. -/

namespace WrapperSynthesis.Text

def byteSize : List Char → Nat
  | [] => 0
  | c :: rest => c.utf8Size + byteSize rest

/-- The first `n` bytes of a text, unless they end within a character or beyond the text. -/
def takeBytes? : (n : Nat) → List Char → Option (List Char)
  | n, [] => if n = 0 then some [] else none
  | n, c :: rest =>
    if n = 0 then some []
    else if c.utf8Size ≤ n then (takeBytes? (n - c.utf8Size) rest).map (c :: ·)
    else none

/-- What follows the first `n` bytes of a text, unless they end within a character or beyond the
text. -/
def dropBytes? : (n : Nat) → List Char → Option (List Char)
  | n, [] => if n = 0 then some [] else none
  | n, c :: rest =>
    if n = 0 then some (c :: rest)
    else if c.utf8Size ≤ n then dropBytes? (n - c.utf8Size) rest
    else none

end WrapperSynthesis.Text
