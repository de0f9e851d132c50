import WrapperSynthesis.Json.Numeral

/-! A JSON document as far as its text spells one. Damage is kept where it stands, so that whoever
reads the document meets it in the order of the text, after everything that precedes it. -/

namespace WrapperSynthesis.Json

inductive Damage where
  /-- Something stands where nothing allowed it. -/
  | malformed
  | truncated
deriving DecidableEq, Repr

/-- The end of a damaged text. A value that is only skipped is read less strictly than one that is
kept, so the two may see different damage. -/
structure Stop where
  kept : Damage
  skipped : Damage
deriving DecidableEq, Repr

/-- Damage that is the same for kept and for skipped values. -/
def Stop.both (damage : Damage) : Stop := ⟨damage, damage⟩

inductive Close where
  | closed
  /-- With damage, which may follow a comma. -/
  | cut (stop : Stop) (afterComma : Bool)
deriving DecidableEq, Repr

inductive Key where
  | name (s : String)
  /-- A string with half of a surrogate pair. -/
  | unpaired
deriving DecidableEq, Repr

inductive Draft where
  | null
  | bool (b : Bool)
  | number (n : Numeral)
  | string (s : String)
  /-- A string with half of a surrogate pair. -/
  | unpaired
  | array (items : List Draft) (close : Close)
  | object (members : List (Key × Draft)) (close : Close)
  /-- No value, or a scalar that breaks off. It is `bare` when it starts with anything but a quote,
  so that the end of the text alone is not. -/
  | broken (stop : Stop) (bare : Bool)
deriving Repr, Inhabited

structure Document where
  root : Draft
  /-- Whether anything but blanks follows the root. -/
  trailing : Bool
deriving Repr, Inhabited

namespace Close

/-- The damage that a reader of the closed value meets at its end. -/
def kept : Close → Except Damage Unit
  | closed => .ok ()
  | cut stop _ => .error stop.kept

/-- The damage that is met at the end of a skipped value. -/
def skipped : Close → Except Damage Unit
  | closed => .ok ()
  | cut stop _ => .error stop.skipped

end Close

namespace Draft

/-- Kept values may be nested up to this depth. -/
def depthLimit : Nat := 127

mutual

/-- The first damage in a value that is kept and stands inside `depth` brackets: damaged text, half
surrogate pairs, numbers beyond all doubles, and brackets that are nested too deeply. -/
def kept (depth : Nat) : Draft → Except Damage Unit
  | null | bool _ | string _ => .ok ()
  | number n => if n.value?.isSome then .ok () else .error .malformed
  | unpaired => .error .malformed
  | array items close =>
    if depth < depthLimit then do
      keptItems (depth + 1) items
      close.kept
    else .error .malformed
  | object members close =>
    if depth < depthLimit then do
      keptMembers (depth + 1) members
      close.kept
    else .error .malformed
  | broken stop _ => .error stop.kept

def keptItems (depth : Nat) : List Draft → Except Damage Unit
  | [] => .ok ()
  | item :: items => do
    kept depth item
    keptItems depth items

def keptMembers (depth : Nat) : List (Key × Draft) → Except Damage Unit
  | [] => .ok ()
  | (key, value) :: members =>
    match key with
    | .name _ => do
      kept depth value
      keptMembers depth members
    | .unpaired => .error .malformed

end

mutual

/-- The first damage in a value that is skipped. Its strings, numbers and depth do not matter. -/
def skipped : Draft → Except Damage Unit
  | null | bool _ | string _ | number _ | unpaired => .ok ()
  | array items close => do
    skippedItems items
    close.skipped
  | object members close => do
    skippedMembers members
    close.skipped
  | broken stop _ => .error stop.skipped

def skippedItems : List Draft → Except Damage Unit
  | [] => .ok ()
  | item :: items => do
    skipped item
    skippedItems items

def skippedMembers : List (Key × Draft) → Except Damage Unit
  | [] => .ok ()
  | (_, value) :: members => do
    skipped value
    skippedMembers members

end

end Draft

end WrapperSynthesis.Json
