import WrapperSynthesis.Json.Record

/-! Unions: types with several variants, each written as an object whose tag names the variant. The
tag may stand anywhere among the members, so the whole object is kept before the variant is read.
In a document a value may also be an array whose first element is the tag. -/

namespace WrapperSynthesis.Json

structure Variant (α : Type) where
  label : String
  read : Reader α

/-- The variant whose values are the records of a type. -/
def Variant.ofRecord {α β : Type} (label : String) (record : Record β) (make : β → α) :
    Variant α :=
  ⟨label, fun place d => (record.read place d).map make⟩

structure TaggedUnion (α : Type) where
  name : String
  tag : String
  variants : List (Variant α)

namespace TaggedUnion

variable {α : Type}

def expected (u : TaggedUnion α) : String := "internally tagged enum " ++ u.name

def readTag (u : TaggedUnion α) (place : Place) (d : Draft) : Except ReadError (Variant α) :=
  Reader.variant Variant.label u.variants place d

/-- Finds the tag among members and checks that the others can be kept, in the order of the text.
Returns the variant and the other members. -/
def splitTag (u : TaggedUnion α) (place : Place) (found : Option (Variant α)) :
    List (Key × Draft) → Except ReadError (Option (Variant α) × List (Key × Draft))
  | [] => .ok (found, [])
  | (key, d) :: members =>
    match key with
    | .name name =>
      if name = u.tag then
        match found with
        | some _ => .error (.fault (.duplicateField name))
        | none => do
          let variant ← u.readTag place d
          splitTag u place (some variant) members
      else do
        orDamaged (d.kept place.depth)
        let (found, others) ← splitTag u place found members
        return (found, (key, d) :: others)
    | .unpaired => .error (.damaged .malformed)

def read (u : TaggedUnion α) : Reader α
  | place, .object members close => do
    let (found, others) ← u.splitTag place.inner none members
    orDamaged close.kept
    match found with
    | some variant => variant.read ⟨place.depth, true⟩ (.object others .closed)
    | none => .error (.fault (.missingField u.tag))
  | _, .array [] close => do
    orDamaged close.kept
    .error (.fault (.missingField u.tag))
  | place, .array (tag :: items) close => do
    let variant ← u.readTag place.inner tag
    orDamaged (Draft.keptItems place.inner.depth items)
    orDamaged close.kept
    variant.read ⟨place.depth, true⟩ (.array items .closed)
  | _, d => mismatch u.expected d

/-- An object that holds the tag of a variant and then its members. -/
def write (u : TaggedUnion α) (label : String) (entries : List (String × Value)) : Value :=
  .object ((u.tag, .string label) :: entries)

end TaggedUnion

end WrapperSynthesis.Json
