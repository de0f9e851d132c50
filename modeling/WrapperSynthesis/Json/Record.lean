import WrapperSynthesis.Json.Reader
import WrapperSynthesis.Json.Value

/-! Records: types whose values are written as objects with named members. A record is described
once, by its fields; writing and reading follow the description. In a document a record is an
object with its fields in any order, or an array of its fields in their own order. -/

namespace WrapperSynthesis.Json

structure Member (α : Type) where
  name : String
  read : Reader α
  /-- The member's value, or nothing when the member is left out. -/
  write : α → Option Value
  /-- The value of a member that is absent. Without one, the member has to be present. -/
  absent : Option α

namespace Member

def of {α : Type} (name : String) (read : Reader α) (write : α → Value)
    (absent : Option α := none) : Member α :=
  ⟨name, read, fun a => some (write a), absent⟩

/-- A member that is left out when there is no value, and that may be `null` or absent then. -/
def optional {α : Type} (name : String) (read : Reader α) (write : α → Value) :
    Member (Option α) :=
  ⟨name, Reader.option read, Option.map write, some none⟩

def string (name : String) (absent : Option String := none) : Member String :=
  of name Reader.string .string absent

def bool (name : String) (absent : Option Bool := none) : Member Bool :=
  of name Reader.bool .bool absent

/-- A list, empty when the member is absent. -/
def list {α : Type} (name : String) (read : Reader α) (write : α → Value) : Member (List α) :=
  of name (Reader.list read) (fun as => .array (as.map write)) (some [])

end Member

/-- One value for each type of a list. -/
def Row : List Type → Type
  | [] => Unit
  | α :: αs => α × Row αs

/-- For each type of a list one value, or none as long as it has not been read. -/
def Slots : List Type → Type
  | [] => Unit
  | α :: αs => Option α × Slots αs

inductive Members : List Type → Type 1 where
  | nil : Members []
  | cons {α : Type} {αs : List Type} (member : Member α) (rest : Members αs) : Members (α :: αs)

namespace Members

def length : {αs : List Type} → Members αs → Nat
  | _, nil => 0
  | _, cons _ rest => rest.length + 1

def write : {αs : List Type} → Members αs → Row αs → List (String × Value)
  | _, nil, _ => []
  | _, cons member rest, (a, row) =>
    match member.write a with
    | some value => (member.name, value) :: rest.write row
    | none => rest.write row

def blank : {αs : List Type} → Members αs → Slots αs
  | _, nil => ()
  | _, cons _ rest => (none, rest.blank)

/-- Reads a member into its slot. Nothing, when no field has its name. -/
def accept (name : String) (place : Place) (d : Draft) :
    {αs : List Type} → Members αs → Slots αs → Except ReadError (Option (Slots αs))
  | _, nil, _ => .ok none
  | _, cons member rest, (slot, slots) =>
    if member.name = name then
      match slot with
      | some _ => .error (.fault (.duplicateField name))
      | none => do
        let a ← member.read place d
        return some (some a, slots)
    else do
      let slots ← accept name place d rest slots
      return slots.map fun slots => (slot, slots)

/-- Reads members into their slots, in the order of the text. A member with an unknown name is
skipped. -/
def acceptAll {αs : List Type} (known : Members αs) (place : Place) (slots : Slots αs) :
    List (Key × Draft) → Except ReadError (Slots αs)
  | [] => .ok slots
  | (key, d) :: members =>
    match key with
    | .name name => do
      match ← known.accept name place d slots with
      | some slots => acceptAll known place slots members
      | none => do
        orDamaged d.skipped
        acceptAll known place slots members
    | .unpaired => .error (.damaged .malformed)

/-- The row of all slots. A slot that is empty takes the value of an absent member. -/
def complete : {αs : List Type} → Members αs → Slots αs → Except ReadError (Row αs)
  | _, nil, _ => .ok ()
  | _, cons member rest, (slot, slots) =>
    match slot <|> member.absent with
    | none => .error (.fault (.missingField member.name))
    | some a => do
      let row ← rest.complete slots
      return (a, row)

/-- Reads the elements of an array as fields, the first of them as field number `index`. Elements
may be missing at the end where their fields can be absent. The elements that are too many are
returned with the row. -/
def ofItems (expected : String) (place : Place) (close : Close) :
    {αs : List Type} → Members αs → (index : Nat) → List Draft →
      Except ReadError (Row αs × List Draft)
  | _, nil, _, items => .ok ((), items)
  | _, cons member rest, index, [] => do
    orDamaged close.kept
    match member.absent with
    | none => .error (.fault (.invalidLength index expected))
    | some a =>
      let (row, items) ← ofItems expected place close rest (index + 1) []
      return ((a, row), items)
  | _, cons member rest, index, d :: items => do
    let a ← member.read place d
    let (row, items) ← ofItems expected place close rest (index + 1) items
    return ((a, row), items)

end Members

structure Record (α : Type) where
  name : String
  types : List Type
  members : Members types
  make : Row types → α
  row : α → Row types

namespace Record

def elements (n : Nat) : String := if n = 1 then "1 element" else toString n ++ " elements"

variable {α : Type}

def expected (r : Record α) : String := "struct " ++ r.name

/-- What messages expect in the place of a record that is an array. -/
def expectedElements (r : Record α) : String :=
  r.expected ++ " with " ++ elements r.members.length

def entries (r : Record α) (a : α) : List (String × Value) := r.members.write (r.row a)

def write (r : Record α) (a : α) : Value := .object (r.entries a)

/-- The end of an array of fields. A further element is out of place. -/
def noMore (r : Record α) (place : Place) (items extra : List Draft) (close : Close) :
    Except ReadError Unit :=
  match extra with
  | [] => orDamaged close.kept
  | _ :: _ =>
    if place.buffered then
      .error (.fault (.invalidLength items.length (elements r.members.length ++ " in sequence")))
    else .error (.damaged .malformed)

def read (r : Record α) : Reader α
  | place, .object members close => do
    let slots ← r.members.acceptAll place.inner r.members.blank members
    orDamaged close.kept
    let row ← r.members.complete slots
    return r.make row
  | place, .array items close => do
    let (row, extra) ← r.members.ofItems r.expectedElements place.inner close 0 items
    r.noMore place items extra close
    return r.make row
  | _, d => mismatch r.expected d

end Record

end WrapperSynthesis.Json
