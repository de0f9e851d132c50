import WrapperSynthesis.Model.Method
import WrapperSynthesis.Model.TypeTable

/-! A service description: methods in declaration order and the registry of the types that they
refer to. -/

namespace WrapperSynthesis

structure Service (R : Type := Registry) where
  name : String := ""
  methods : List Method := []
  types : R := by exact {}
deriving DecidableEq, Repr

namespace Service

instance : Inhabited Service := ⟨{}⟩

/-- The service with the members of its registry alone. -/
def toPlain {R : Type} [TypeTable R] (s : Service R) : Service :=
  ⟨s.name, s.methods, TypeTable.toRegistry s.types⟩

@[simp] theorem toPlain_eq (s : Service) : s.toPlain = s := rfl

/-- Puts `m` into the place of the first method with its identity, or at the end when there is
none. -/
def insertIn (m : Method) : List Method → List Method
  | [] => [m]
  | old :: rest => if old.identity = m.identity then m :: rest else old :: insertIn m rest

/-- Adds a method, or replaces the first one with the same group and name. -/
def insertMethod (s : Service) (m : Method) : Service :=
  { s with methods := insertIn m s.methods }

/-- Registers a type, reusing the canonical member equal to it. -/
def registerType (s : Service) (type : ModelType) : TypeId × Service :=
  let (id, types) := s.types.register type
  (id, { s with types })

/-- Appends a type whether or not its key is present. -/
def addType (s : Service) (type : ModelType) : TypeId × Service :=
  let (id, types) := s.types.add type
  (id, { s with types })

def listMethods (s : Service) : List (String × String) := s.methods.map Method.identity

def getMethod? (s : Service) (group name : String) : Option Method :=
  s.methods.find? fun m => m.identity = (group, name)

end Service

end WrapperSynthesis
