/-! Log events: a level, the part of the program that speaks, a message and named values. -/

namespace WrapperSynthesis

/-- How much an event matters, the most important level first. -/
inductive Level where
  | error
  | warn
  | info
  | debug
  | trace
deriving DecidableEq, Repr

namespace Level

/-- The place of a level among the levels; `0` is left for a filter that lets nothing pass. -/
def rank : Level → Nat
  | error => 1
  | warn => 2
  | info => 3
  | debug => 4
  | trace => 5

/-- A level as log lines show it, five characters wide. -/
def label : Level → String
  | error => "ERROR"
  | warn => " WARN"
  | info => " INFO"
  | debug => "DEBUG"
  | trace => "TRACE"

def colour : Level → String
  | error => "31"
  | warn => "33"
  | info => "32"
  | debug => "34"
  | trace => "35"

end Level

structure Event where
  level : Level
  target : String
  message : String
  fields : List (String × String) := []
deriving DecidableEq, Repr

namespace Event

/-- A character of a message. Controls that a terminal would act on are shown by number. -/
def shown (c : Char) : List Char :=
  if c = '\x1b' || c = '\x07' || c = '\x08' || c = '\x0c' || c = '\x7f' then
    '\\' :: 'x' :: Nat.digitChar (c.toNat / 16) :: [Nat.digitChar (c.toNat % 16)]
  else if 0x80 ≤ c.toNat && c.toNat ≤ 0x9f then
    "\\u\x7b".toList ++ Nat.toDigits 16 c.toNat ++ ['\x7d']
  else [c]

/-- The names of the values of an event, of which its message is one. -/
def fieldNames (e : Event) : List String := "message" :: e.fields.map Prod.fst

/-- The event as a line of the log, each of whose parts but the texts themselves has a style. -/
def styledLine (style : (number text : String) → String) (e : Event) : String :=
  style e.level.colour e.level.label ++ " " ++ style "2" e.target ++ style "2" ":" ++ " " ++
    String.ofList (e.message.toList.flatMap shown) ++
    String.join (e.fields.map fun (name, value) => " " ++ style "3" name ++ style "2" "=" ++ value)

def line (e : Event) : String := e.styledLine fun _ text => text

/-- The event as a line on a terminal, where styles are numbered commands. -/
def terminalLine (e : Event) : String :=
  e.styledLine fun number text => "\x1b[" ++ number ++ "m" ++ text ++ "\x1b[0m"

end Event

end WrapperSynthesis
