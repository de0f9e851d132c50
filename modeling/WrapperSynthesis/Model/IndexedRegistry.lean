import Std.Data.HashMap
import WrapperSynthesis.Model.Format

/-! A registry that finds the canonical member of a key in an index beside the members. Everything
but the look-up by key goes by the members alone: what stands behind a handle, whether two
registries are equal, and the list that a registry is written as, from which the index is made
anew. -/

namespace WrapperSynthesis

deriving instance Hashable for TypeId, TypeKey

/-- The members of a registry, and where to find the canonical member of each key. -/
structure IndexedRegistry where
  members : List ModelType := []
  index : Std.HashMap TypeKey TypeId := ∅

namespace IndexedRegistry

def toRegistry (r : IndexedRegistry) : Registry := .ofList r.members

/-- Registries are compared by their members. -/
instance : BEq IndexedRegistry := ⟨fun r r' => r.members == r'.members⟩

def get? (r : IndexedRegistry) (id : TypeId) : Option ModelType := r.members[id.index]?

/-- The member that the index gives for `candidate`, or the key that the index does not have. -/
def canonicalOf (r : IndexedRegistry) (candidate : ModelType) : Except TypeKey TypeId :=
  match r.index[candidate.key]? with
  | some id => .ok id
  | none => .error candidate.key

def contains (r : IndexedRegistry) (candidate : ModelType) : Bool :=
  r.index.contains candidate.key

/-- Appends a type. The index takes up its key, unless it has the key already. -/
def add (r : IndexedRegistry) (type : ModelType) : TypeId × IndexedRegistry :=
  let id : TypeId := ⟨r.members.length⟩
  (id, ⟨r.members ++ [type], r.index.insertIfNew type.key id⟩)

/-- The canonical member equal to `candidate`, which is appended first if there is none. -/
def register (r : IndexedRegistry) (candidate : ModelType) : TypeId × IndexedRegistry :=
  match r.canonicalOf candidate with
  | .ok id => (id, r)
  | .error _ => r.add candidate

def ofList (types : List ModelType) : IndexedRegistry :=
  types.foldl (fun r type => (r.add type).2) {}

def toList (r : IndexedRegistry) : List ModelType := r.members

/-- A registry is read from the list of its members. -/
def read : Json.Reader IndexedRegistry :=
  fun place d => (Json.Reader.list ModelType.read place d).map ofList

instance : TypeTable IndexedRegistry := ⟨toList, canonicalOf, register⟩

end IndexedRegistry

end WrapperSynthesis
