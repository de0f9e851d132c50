/-! JSON values that the program writes, and their text: two blanks of indentation a level, one
member or element a line. All its numbers are natural numbers. -/

namespace WrapperSynthesis.Json

/-- A JSON value. The members of an object keep their order. -/
inductive Value where
  | null
  | bool (b : Bool)
  | number (n : Nat)
  | string (s : String)
  | array (items : List Value)
  | object (members : List (String × Value))
deriving Repr, Inhabited

/-- A character inside a JSON string. Quotes, backslashes and control characters are escaped. -/
def escaped (c : Char) : List Char :=
  if c = '"' then ['\\', '"']
  else if c = '\\' then ['\\', '\\']
  else if c = '\x08' then ['\\', 'b']
  else if c = '\t' then ['\\', 't']
  else if c = '\n' then ['\\', 'n']
  else if c = '\x0c' then ['\\', 'f']
  else if c = '\r' then ['\\', 'r']
  else if c.toNat < 16 then ['\\', 'u', '0', '0', '0', Nat.digitChar c.toNat]
  else if c.toNat < 32 then ['\\', 'u', '0', '0', '1', Nat.digitChar (c.toNat - 16)]
  else [c]

def stringText (s : String) : List Char := '"' :: s.toList.flatMap escaped ++ ['"']

/-- A line break and the indentation of the given depth. -/
def newline (depth : Nat) : List Char := '\n' :: List.replicate (2 * depth) ' '

namespace Value

mutual

/-- The text of a value that stands at the given depth. -/
def pretty (depth : Nat) : Value → List Char
  | null => "null".toList
  | bool true => "true".toList
  | bool false => "false".toList
  | number n => Nat.toDigits 10 n
  | string s => stringText s
  | array [] => ['[', ']']
  | array (item :: items) =>
    '[' :: newline (depth + 1) ++ pretty (depth + 1) item ++ prettyItems (depth + 1) items ++
      newline depth ++ [']']
  | object [] => ['{', '}']
  | object ((key, value) :: members) =>
    '{' :: newline (depth + 1) ++ stringText key ++ [':', ' '] ++ pretty (depth + 1) value ++
      prettyMembers (depth + 1) members ++ newline depth ++ ['}']

/-- The further elements of an array, each after a comma and on its own line. -/
def prettyItems (depth : Nat) : List Value → List Char
  | [] => []
  | item :: items => ',' :: newline depth ++ pretty depth item ++ prettyItems depth items

/-- The further members of an object, each after a comma and on its own line. -/
def prettyMembers (depth : Nat) : List (String × Value) → List Char
  | [] => []
  | (key, value) :: members =>
    ',' :: newline depth ++ stringText key ++ [':', ' '] ++ pretty depth value ++
      prettyMembers depth members

end

/-- The text of a file that holds the value: it ends in a line break. -/
def fileText (v : Value) : String := String.ofList (v.pretty 0 ++ ['\n'])

end Value

end WrapperSynthesis.Json
