/-! TOML values, as far as a reader of settings tells them apart. -/

namespace WrapperSynthesis.Toml

inductive Value where
  | string (s : String)
  | bool (b : Bool)
  /-- A number. All that is known of it is whether some machine number holds it: 128 bits for an
  integer, a finite double for any other. -/
  | number (held : Bool)
  | moment
  | array (items : List Value)
  | table (entries : List (String × Value))
deriving Repr, Inhabited

namespace Value

mutual

/-- Whether machine numbers hold all numbers in a value. -/
def held : Value → Bool
  | string _ | bool _ | moment => true
  | number held => held
  | array items => itemsHeld items
  | table entries => entriesHeld entries

def itemsHeld : List Value → Bool
  | [] => true
  | item :: items => item.held && itemsHeld items

def entriesHeld : List (String × Value) → Bool
  | [] => true
  | (_, value) :: entries => value.held && entriesHeld entries

end

end Value

end WrapperSynthesis.Toml
