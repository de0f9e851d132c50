import WrapperSynthesis.Json.Scan

/-! Reading JSON text as a `Draft`. A step returns what it read and the rest of the text; there is
no rest when the text is damaged. -/

namespace WrapperSynthesis.Json

def draftWord (draft : Draft) (word text : List Char) : Draft × Option (List Char) :=
  match scanWord word text with
  | .ok rest => (draft, some rest)
  | .error damage => (.broken (.both damage) true, none)

def draftString (fuel : Nat) (text : List Char) : Draft × Option (List Char) :=
  match scanString fuel text with
  | .closed (some s) rest => (.string (String.ofList s), some rest)
  | .closed none rest => (.unpaired, some rest)
  | .stopped stop => (.broken stop false, none)

def draftNumber (text : List Char) : Draft × Option (List Char) :=
  match scanNumber text with
  | .ok (n, rest) => (.number n, some rest)
  | .error stop => (.broken stop true, none)

/-- The end of an array or object at which the text is damaged. -/
def cutShort {α : Type} (damage : Damage) (afterComma : Bool) :
    List α × Close × Option (List Char) :=
  ([], .cut (.both damage) afterComma, none)

mutual

def draftValue : (fuel : Nat) → List Char → Draft × Option (List Char)
  | 0, _ => (.broken (.both .truncated) false, none)
  | fuel + 1, text =>
    match skipBlanks text with
    | [] => (.broken (.both .truncated) false, none)
    | c :: rest =>
      if c = '[' then
        let (items, close, rest) := draftItems fuel true rest
        (.array items close, rest)
      else if c = '{' then
        let (members, close, rest) := draftMembers fuel true rest
        (.object members close, rest)
      else if c = '"' then draftString fuel rest
      else if c = 'n' then draftWord .null ['u', 'l', 'l'] rest
      else if c = 't' then draftWord (.bool true) ['r', 'u', 'e'] rest
      else if c = 'f' then draftWord (.bool false) ['a', 'l', 's', 'e'] rest
      else if c = '-' || (Text.digit? c).isSome then draftNumber (c :: rest)
      else (.broken (.both .malformed) true, none)

/-- The elements of an array up to its bracket, each but the first after a comma. -/
def draftItems : (fuel : Nat) → (first : Bool) → List Char →
    List Draft × Close × Option (List Char)
  | 0, _, _ => cutShort .truncated false
  | fuel + 1, first, text =>
    match skipBlanks text with
    | [] => cutShort .truncated false
    | c :: rest =>
      if c = ']' then ([], .closed, some rest)
      else if first then draftItem fuel (c :: rest)
      else if c = ',' then draftItem fuel rest
      else cutShort .malformed false

def draftItem : (fuel : Nat) → List Char → List Draft × Close × Option (List Char)
  | 0, _ => cutShort .truncated false
  | fuel + 1, text =>
    match draftValue fuel text with
    | (item, none) => ([item], .cut (.both .truncated) false, none)
    | (item, some rest) =>
      let (items, close, rest) := draftItems fuel false rest
      (item :: items, close, rest)

/-- The members of an object up to its bracket, each but the first after a comma. -/
def draftMembers : (fuel : Nat) → (first : Bool) → List Char →
    List (Key × Draft) × Close × Option (List Char)
  | 0, _, _ => cutShort .truncated false
  | fuel + 1, first, text =>
    match skipBlanks text with
    | [] => cutShort .truncated false
    | c :: rest =>
      if c = '}' then ([], .closed, some rest)
      else if first then draftMember fuel false (c :: rest)
      else if c = ',' then draftMember fuel true rest
      else cutShort .malformed false

def draftMember : (fuel : Nat) → (afterComma : Bool) → List Char →
    List (Key × Draft) × Close × Option (List Char)
  | 0, _, _ => cutShort .truncated false
  | fuel + 1, afterComma, text =>
    match skipBlanks text with
    | [] => cutShort .truncated afterComma
    | c :: rest =>
      if c = '"' then
        match scanString fuel rest with
        | .stopped stop => ([], .cut stop afterComma, none)
        | .closed s rest =>
          let key : Key :=
            match s with
            | some s => .name (String.ofList s)
            | none => .unpaired
          match skipBlanks rest with
          | [] => ([(key, .broken (.both .truncated) false)], .cut (.both .truncated) false, none)
          | c :: rest =>
            if c = ':' then
              match draftValue fuel rest with
              | (value, none) => ([(key, value)], .cut (.both .truncated) false, none)
              | (value, some rest) =>
                let (members, close, rest) := draftMembers fuel false rest
                ((key, value) :: members, close, rest)
            else ([(key, .broken (.both .malformed) true)], .cut (.both .malformed) false, none)
      else cutShort .malformed afterComma

end

/-- Reads a text as one document. Of three steps in a row at least one reads a character, so the
fuel always suffices. -/
def Document.ofText (text : String) : Document :=
  let chars := text.toList
  match draftValue (3 * chars.length + 3) chars with
  | (root, some rest) => ⟨root, !(skipBlanks rest).isEmpty⟩
  | (root, none) => ⟨root, false⟩

end WrapperSynthesis.Json
