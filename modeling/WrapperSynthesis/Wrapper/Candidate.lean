import WrapperSynthesis.Model.Method

/-! The wrappers that a method asks for: a page iterator over its pages, a polling handle, and a
second polling handle for all pages at once. Only candidates are built here; the registry decides
whether an equal wrapper is there already. -/

namespace WrapperSynthesis

/-- Turns the parts of an identity into one identifier. -/
abbrev Naming := List String → String

/-- What a wrapper asks of the method that it is built for. -/
inductive Requirement where
  | paginated
  | pageBody
  | longRunning
deriving DecidableEq, Repr

def Requirement.text : Requirement → String
  | paginated => "a paginated operation"
  | pageBody => "a page body type"
  | longRunning => "a long-running operation"

/-- Why a method could not be wrapped. Methods appear under their qualified names. -/
inductive WrapError where
  /-- The method does not qualify for the wrapper. -/
  | precondition (method : String) (requirement : Requirement)
  /-- The handle exists already, for another method and with another result. -/
  | handleConflict (name method existing : String)
deriving DecidableEq, Repr

def WrapError.message : WrapError → String
  | precondition method requirement =>
    "precondition violated for `" ++ method ++ "`: requires " ++ requirement.text
  | handleConflict name method existing =>
    "polling handle `" ++ name ++ "` for `" ++ method ++
      "` would resolve to the result type of `" ++ existing ++ "`"

namespace Method

def pageIterator (m : Method) : Except WrapError PageIterator :=
  if m.kind.isPaginated then
    match m.returnType.body with
    | some element => .ok (.ofElement element m.needsPreparer)
    | none => .error (.precondition m.qualifiedName .pageBody)
  else .error (.precondition m.qualifiedName .paginated)

def handleName (naming : Naming) (m : Method) : String := naming [m.group, m.name]

/-- The name of the method's list-all handle. It goes through the same naming as the name of the
other handle. -/
def listAllName (naming : Naming) (m : Method) : String := naming [m.group, m.name, "All"]

/-- A polling handle for the method. With a name of its own it is the list-all handle. -/
def pollingHandle (naming : Naming) (m : Method) (ownName : Option String) :
    Except WrapError PollingHandle :=
  if m.kind.isLongRunning then
    .ok {
      name := ownName.getD (m.handleName naming)
      listAll := ownName.isSome
      group := m.group
      method := m.name
      result := m.returnType.body }
  else .error (.precondition m.qualifiedName .longRunning)

/-- The wrappers that a method of the given kind asks for, in the order in which they are
registered. One that cannot be built is left out. -/
def candidates (naming : Naming) (kind : OperationKind) (m : Method) : List ModelType :=
  let handle (ownName : Option String) : List ModelType :=
    ((m.pollingHandle naming ownName).toOption.map .pollingHandle).toList
  let pager : List ModelType := (m.pageIterator.toOption.map .pageIterator).toList
  match kind with
  | .plain => []
  | .paginated => pager
  | .longRunning => handle none
  | .paginatedLongRunning => handle none ++ handle (some (m.listAllName naming)) ++ pager

end Method

end WrapperSynthesis
