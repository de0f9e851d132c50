import WrapperSynthesis.Text.Printable

/-! Text in quotes, as messages show a value that they found: backslash and quote are escaped,
common controls have letters, and whatever could not be seen is shown by its number. -/

namespace WrapperSynthesis.Text

def quotedChar (c : Char) : List Char :=
  if c = '\x00' then ['\\', '0']
  else if c = '\t' then ['\\', 't']
  else if c = '\r' then ['\\', 'r']
  else if c = '\n' then ['\\', 'n']
  else if c = '\\' || c = '"' then ['\\', c]
  else if isPrintable c then [c]
  else "\\u\x7b".toList ++ Nat.toDigits 16 c.toNat ++ ['\x7d']

def quoted (s : String) : String :=
  String.ofList ('"' :: s.toList.flatMap quotedChar ++ ['"'])

end WrapperSynthesis.Text
