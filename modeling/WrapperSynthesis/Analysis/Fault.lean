import WrapperSynthesis.Model.Service

/-! Consistency of a service: its methods have distinct identities, every handle points at a
registered type, and a composed return type holds wrappers of the right kinds. `Service.faults`
lists every violation. -/

namespace WrapperSynthesis

/-- A violation that makes a service unusable. Methods appear under their qualified names. -/
inductive Fault where
  /-- A method whose identity an earlier method has. -/
  | duplicateMethod (method : String)
  /-- A return type with a handle that points at nothing. -/
  | unregisteredReference (method : String) (id : TypeId)
  /-- A polling handle in the slot of the other list-all marker. -/
  | wrongMarker (method : String) (id : TypeId)
  /-- A type of the given kind in a slot for a polling handle. -/
  | notPollingHandle (method : String) (id : TypeId) (kind : String)
  /-- A type of the given kind in the slot for a page iterator. -/
  | notPageIterator (method : String) (id : TypeId) (kind : String)
  /-- A page iterator over a type that is not registered. -/
  | unregisteredElement (pager element : TypeId)
  /-- A polling handle that resolves to a type that is not registered. -/
  | unregisteredResult (handle : String) (result : TypeId)
deriving DecidableEq, Repr

namespace Fault

def message : Fault → String
  | duplicateMethod method => "Duplicate method: " ++ method
  | unregisteredReference method id =>
    "Method `" ++ method ++ "` references unregistered type " ++ id.text
  | wrongMarker method id =>
    "Method `" ++ method ++ "` handle " ++ id.text ++ " has the wrong list-all marker"
  | notPollingHandle method id kind =>
    "Method `" ++ method ++ "` handle " ++ id.text ++ " is a " ++ kind ++ ", not a polling handle"
  | notPageIterator method id kind =>
    "Method `" ++ method ++ "` pager " ++ id.text ++ " is a " ++ kind ++ ", not a page iterator"
  | unregisteredElement pager element =>
    "Page iterator " ++ pager.text ++ " pages over unregistered type " ++ element.text
  | unregisteredResult handle result =>
    "Polling handle `" ++ handle ++ "` resolves to unregistered type " ++ result.text

end Fault

/-- One violation for each method whose identity is in `seen` or belongs to an earlier method. -/
def duplicateFaults (seen : List (String × String)) : List Method → List Fault
  | [] => []
  | m :: rest =>
    if m.identity ∈ seen then .duplicateMethod m.qualifiedName :: duplicateFaults seen rest
    else duplicateFaults (m.identity :: seen) rest

namespace Registry

/-- What is wrong with `id` in a slot for a polling handle with the given list-all marker. An
unregistered handle is reported with the other references of its method. -/
def handleFaults (r : Registry) (m : Method) (id : TypeId) (listAll : Bool) : List Fault :=
  match r.get? id with
  | none => []
  | some (.pollingHandle h) =>
    if h.listAll = listAll then [] else [.wrongMarker m.qualifiedName id]
  | some type => [.notPollingHandle m.qualifiedName id type.kindName]

def pagerFaults (r : Registry) (m : Method) (id : TypeId) : List Fault :=
  match r.get? id with
  | none => []
  | some (.pageIterator _) => []
  | some type => [.notPageIterator m.qualifiedName id type.kindName]

/-- One violation for each handle in the method's return type that points at nothing. -/
def referenceFaults (r : Registry) (m : Method) : List Fault :=
  (m.returnType.referenced.filter fun id => !r.hasId id).map
    (.unregisteredReference m.qualifiedName)

def slotFaults (r : Registry) (m : Method) : List Fault :=
  match m.returnType with
  | .response _ => []
  | .pagedOperation c =>
    r.handleFaults m c.handle false ++ r.handleFaults m c.listAllHandle true ++
      r.pagerFaults m c.pager

def methodFaults (r : Registry) (m : Method) : List Fault :=
  r.referenceFaults m ++ r.slotFaults m

/-- What is wrong with a member: the type that it wraps has to be registered. -/
def memberFaults (r : Registry) : TypeId × ModelType → List Fault
  | (id, .pageIterator p) => if r.hasId p.element then [] else [.unregisteredElement id p.element]
  | (_, .pollingHandle h) =>
    match h.result with
    | some result => if r.hasId result then [] else [.unregisteredResult h.name result]
    | none => []
  | (_, .primitive _) | (_, .composite _) => []

end Registry

namespace Service

/-- Every violation: repeated identities first, then return types, then members of the
registry. -/
def faults (s : Service) : List Fault :=
  duplicateFaults [] s.methods ++ s.methods.flatMap s.types.methodFaults ++
    s.types.entries.flatMap s.types.memberFaults

end Service

end WrapperSynthesis
