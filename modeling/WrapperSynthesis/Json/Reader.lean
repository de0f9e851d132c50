import WrapperSynthesis.Json.ReadError
import WrapperSynthesis.Json.Parser

/-! Reading values of a type from a JSON document. The first error in the order of the text wins,
whether it lies in the text or in the data. -/

namespace WrapperSynthesis.Json

structure Place where
  /-- The number of brackets around the value. -/
  depth : Nat
  /-- Whether the value has been kept as a whole before it is read, so that it has no damage. -/
  buffered : Bool
deriving DecidableEq, Repr

def Place.inner (place : Place) : Place := { place with depth := place.depth + 1 }

/-- Reads a value of type `α` from the document that stands in some place. -/
abbrev Reader (α : Type) := Place → Draft → Except ReadError α

def orDamaged {α : Type} : Except Damage α → Except ReadError α
  | .ok a => .ok a
  | .error damage => .error (.damaged damage)

/-- What stands in a place. A scalar is read to its end; of an array or object only the bracket
is. -/
def Draft.found : Draft → Except Damage Found
  | .null => .ok .null
  | .bool b => .ok (.bool b)
  | .number n =>
    match n.value? with
    | some (.integer i) => .ok (.integer i)
    | some (.real x) => .ok (.real x)
    | none => .error .malformed
  | .string s => .ok (.string s)
  | .unpaired => .error .malformed
  | .array .. => .ok .sequence
  | .object .. => .ok .map
  | .broken stop _ => .error stop.kept

/-- Refuses what stands in a place where something else was expected. -/
def mismatch {α : Type} (expected : String) (d : Draft) : Except ReadError α :=
  match d.found with
  | .error damage => .error (.damaged damage)
  | .ok found => .error (.fault (.invalidType found expected))

namespace Reader

/-- A string, where messages call it `expected`. -/
def stringAs (expected : String) : Reader String
  | _, .string s => .ok s
  | _, d => mismatch expected d

def string : Reader String := stringAs "a string"

def bool : Reader Bool
  | _, .bool b => .ok b
  | _, d => mismatch "a boolean" d

/-- An unsigned integer below `bound`, which messages call `expected`. -/
def natBelow (bound : Nat) (expected : String) : Reader Nat
  | _, .number n =>
    match n.value? with
    | none => .error (.damaged .malformed)
    | some (.real x) => .error (.fault (.invalidType (.real x) expected))
    | some (.integer i) =>
      if 0 ≤ i && i < bound then .ok i.toNat
      else .error (.fault (.invalidValue (.integer i) expected))
  | _, d => mismatch expected d

/-- A value, or nothing for `null`. -/
def option {α : Type} (reader : Reader α) : Reader (Option α)
  | _, .null => .ok none
  | place, d => (reader place d).map some

def items {α : Type} (reader : Reader α) (place : Place) : List Draft → Except ReadError (List α)
  | [] => .ok []
  | d :: rest => do
    let a ← reader place d
    let as ← items reader place rest
    return a :: as

def list {α : Type} (reader : Reader α) : Reader (List α)
  | place, .array ds close => do
    let as ← items reader place.inner ds
    orDamaged close.kept
    return as
  | _, d => mismatch "a sequence" d

def variant {α : Type} (name : α → String) (known : List α) : Reader α
  | _, .string s =>
    match known.find? fun a => name a = s with
    | some a => .ok a
    | none => .error (.fault (.unknownVariant s (known.map name)))
  | _, d => mismatch "variant identifier" d

/-- The end of an object of one member. Whatever follows the member is out of place. -/
def singleEnd (more : List (Key × Draft)) (close : Close) : Except ReadError Unit :=
  match more, close with
  | [], .closed => .ok ()
  | [], .cut stop false => .error (.damaged stop.kept)
  | _, _ => .error (.damaged .malformed)

/-- One of several names, alone or as the only member of an object, with the value `null`. -/
def choice {α : Type} (name : α → String) (known : List α) : Reader α
  | place, .string s => variant name known place (.string s)
  | _, .unpaired => .error (.damaged .malformed)
  | place, .object members close =>
    match members with
    | [] =>
      match close with
      | .closed => .error (.damaged .malformed)
      | .cut stop _ => .error (.damaged stop.kept)
    | (key, value) :: more =>
      match key with
      | .unpaired => .error (.damaged .malformed)
      | .name s => do
        let a ← variant name known place.inner (.string s)
        match value with
        | .null => .ok ()
        | value => mismatch "unit" value
        singleEnd more close
        return a
  | _, .broken stop false => .error (.damaged stop.kept)
  | _, _ => .error (.damaged .malformed)

def run {α : Type} (reader : Reader α) (text : String) : Except ReadError α := do
  let document := Document.ofText text
  let a ← reader ⟨0, false⟩ document.root
  if document.trailing then .error (.damaged .malformed) else .ok a

end Reader

end WrapperSynthesis.Json
