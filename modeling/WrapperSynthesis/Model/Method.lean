import WrapperSynthesis.Model.ModelType

/-! The methods of a service: how the operation behind a method delivers its result, and what the
method is declared to return. -/

namespace WrapperSynthesis

inductive OperationKind where
  | plain
  /-- A result spread over several pages. -/
  | paginated
  /-- A result that has to be polled for. -/
  | longRunning
  /-- A result that has to be polled for and then comes in pages. -/
  | paginatedLongRunning
deriving DecidableEq, Repr, Inhabited

namespace OperationKind

def ofTraits : (paginated longRunning : Bool) → OperationKind
  | false, false => plain
  | true, false => paginated
  | false, true => longRunning
  | true, true => paginatedLongRunning

def isPaginated : OperationKind → Bool
  | paginated | paginatedLongRunning => true
  | plain | longRunning => false

def isLongRunning : OperationKind → Bool
  | longRunning | paginatedLongRunning => true
  | plain | paginated => false

/-- Drops the traits whose wrappers are switched off. -/
def masked (kind : OperationKind) (pageWrappers longRunningWrappers : Bool) : OperationKind :=
  ofTraits (kind.isPaginated && pageWrappers) (kind.isLongRunning && longRunningWrappers)

def name : OperationKind → String
  | plain => "plain"
  | paginated => "paginated"
  | longRunning => "long_running"
  | paginatedLongRunning => "paginated_long_running"

/-- Every kind, in the order in which messages list them. -/
def all : List OperationKind := [plain, paginated, longRunning, paginatedLongRunning]

end OperationKind

/-- How a paginated method finds its next page. -/
structure Paging where
  /-- The property of a page that holds the link to the next one. -/
  nextLinkName : Option String := none
  /-- The operation that fetches the next page, if the service has one. -/
  nextOperation : Option String := none
deriving DecidableEq, Repr, Inhabited

/-- The next request is prepared from the link only when no operation fetches the next page. -/
def Paging.needsPreparer (paging : Paging) : Bool :=
  paging.nextLinkName.isSome && paging.nextOperation.isNone

structure Response where
  body : Option TypeId := none
  headers : Option TypeId := none
deriving DecidableEq, Repr, Inhabited

/-- What a paginated long-running method returns once it is wrapped. -/
structure PagedOperation where
  /-- Resolves to the first page. -/
  handle : TypeId
  /-- Lists all pages. A synthesized one resolves to a single page, as `handle` does. -/
  listAllHandle : TypeId
  pager : TypeId
  headers : Option TypeId := none
deriving DecidableEq, Repr, Inhabited

inductive ReturnType where
  | response (response : Response)
  | pagedOperation (composed : PagedOperation)
deriving DecidableEq, Repr

namespace ReturnType

instance : Inhabited ReturnType := ⟨.response {}⟩

def headers : ReturnType → Option TypeId
  | response r => r.headers
  | pagedOperation c => c.headers

def body : ReturnType → Option TypeId
  | response r => r.body
  | pagedOperation _ => none

/-- Every handle that the return type holds, the headers last. -/
def referenced : ReturnType → List TypeId
  | response r => r.body.toList ++ r.headers.toList
  | pagedOperation c => [c.handle, c.listAllHandle, c.pager] ++ c.headers.toList

end ReturnType

/-- A method of a service. Its group and its name identify it. -/
structure Method where
  /-- The operation group, empty for a method outside all groups. -/
  group : String := ""
  name : String
  description : String := ""
  kind : OperationKind := .plain
  paging : Option Paging := none
  returnType : ReturnType := .response {}
deriving DecidableEq, Repr, Inhabited

namespace Method

def identity (m : Method) : String × String := (m.group, m.name)

def qualifiedName (m : Method) : String := WrapperSynthesis.qualifiedName m.group m.name

/-- Whether the page iterator of the method prepares the requests for further pages. -/
def needsPreparer (m : Method) : Bool :=
  match m.paging with
  | some paging => paging.needsPreparer
  | none => false

end Method

end WrapperSynthesis
