import WrapperSynthesis.Model.ModelType

/-! The registry of a service's types. Types are only ever appended, so the handle of a type stays
valid; of several members with one key the first is the canonical one. -/

namespace WrapperSynthesis

/-- The types of a service, each at the position that its handle names. -/
structure Registry where
  members : List ModelType := []
deriving DecidableEq, Repr, Inhabited

namespace Registry

def ofList (types : List ModelType) : Registry := ⟨types⟩

def toList (r : Registry) : List ModelType := r.members

def size (r : Registry) : Nat := r.members.length

def isEmpty (r : Registry) : Bool := r.members.isEmpty

def get? (r : Registry) (id : TypeId) : Option ModelType := r.members[id.index]?

def hasId (r : Registry) (id : TypeId) : Bool := (r.get? id).isSome

def idOf? (r : Registry) (key : TypeKey) : Option TypeId :=
  (r.members.findIdx? fun type => type.key = key).map TypeId.mk

/-- The canonical member equal to `candidate`, or the key under which nothing is registered. -/
def canonicalOf (r : Registry) (candidate : ModelType) : Except TypeKey TypeId :=
  match r.idOf? candidate.key with
  | some id => .ok id
  | none => .error candidate.key

def contains (r : Registry) (candidate : ModelType) : Bool := (r.idOf? candidate.key).isSome

/-- Appends a type, even when its key is present already: the canonical member of the key then
stays the earlier one. -/
def add (r : Registry) (type : ModelType) : TypeId × Registry :=
  (⟨r.size⟩, ⟨r.members ++ [type]⟩)

/-- The canonical member equal to `candidate`, which is appended first if there is none. -/
def register (r : Registry) (candidate : ModelType) : TypeId × Registry :=
  match r.idOf? candidate.key with
  | some id => (id, r)
  | none => r.add candidate

def entries (r : Registry) : List (TypeId × ModelType) :=
  r.members.zipIdx.map fun (type, i) => (⟨i⟩, type)

def pollingHandles (r : Registry) : List (TypeId × PollingHandle) :=
  r.entries.filterMap fun (id, type) => type.asPollingHandle?.map (id, ·)

def pageIterators (r : Registry) : List (TypeId × PageIterator) :=
  r.entries.filterMap fun (id, type) => type.asPageIterator?.map (id, ·)

def syntheticCount (r : Registry) : Nat := r.members.countP ModelType.isSynthetic

/-! ### The members after each operation -/

@[simp] theorem toList_ofList (types : List ModelType) : (ofList types).toList = types := rfl

@[simp] theorem ofList_toList (r : Registry) : ofList r.toList = r := rfl

@[simp] theorem toList_add (r : Registry) (type : ModelType) :
    (r.add type).2.toList = r.toList ++ [type] := rfl

/-- A new member is found under the handle that its addition returned. -/
@[simp] theorem get?_add_self (r : Registry) (type : ModelType) :
    (r.add type).2.get? (r.add type).1 = some type := by
  simp [add, get?, size]

end Registry

def TypeKey.notRegistered (key : TypeKey) : String := "no registered type matches " ++ key.text

end WrapperSynthesis
