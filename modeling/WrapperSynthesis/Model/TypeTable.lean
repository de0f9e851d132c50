import WrapperSynthesis.Model.Registry

/-! What the wrappers ask of a registry. Whether a canonical member is searched for among the
members or looked up in an index is left to the registry. -/

namespace WrapperSynthesis

/-- The members of a registry in order, the canonical member equal to a candidate, and the same
after it has been appended if there was none. -/
class TypeTable (R : Type) where
  toList : R → List ModelType
  canonicalOf : R → ModelType → Except TypeKey TypeId
  register : R → ModelType → TypeId × R

namespace TypeTable

variable {R : Type} [TypeTable R]

def size (types : R) : Nat := (toList types).length

def get? (types : R) (id : TypeId) : Option ModelType := (toList types)[id.index]?

/-- The members alone. -/
def toRegistry (types : R) : Registry := .ofList (toList types)

end TypeTable

@[default_instance]
instance : TypeTable Registry := ⟨Registry.toList, Registry.canonicalOf, Registry.register⟩

namespace TypeTable

variable (r : Registry)

@[simp] theorem canonicalOf_registry (candidate : ModelType) :
    canonicalOf r candidate = r.canonicalOf candidate := rfl

@[simp] theorem size_registry : size r = r.size := rfl

end TypeTable

end WrapperSynthesis
