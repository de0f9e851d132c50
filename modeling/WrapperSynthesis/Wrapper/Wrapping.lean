import WrapperSynthesis.Wrapper.Candidate
import WrapperSynthesis.Model.TypeTable

/-! Wrapping the return type of one method:

* a plain method stays as it is;
* a paginated method returns a page iterator over its body;
* a long-running method returns a polling handle that resolves to its body;
* a paginated long-running method returns a polling handle, a list-all handle and a page iterator.

Headers are kept. Every wrapper is registered before the method refers to it, and every check is
made before the first wrapper is registered.

A method does not remember that it is wrapped, so the next wrapping goes by what it returns then. A
page iterator is wrapped in another one. A polling handle stays if it was made for the method; that
of another method is refused, unless it resolves to itself. A composed return type is refused, for
it has no body. -/

namespace WrapperSynthesis

inductive Outcome where
  | unchanged
  | paged (pager : TypeId)
  | longRunning (handle : TypeId)
  | pagedLongRunning (composed : PagedOperation)
deriving DecidableEq, Repr

/-- The wrappers that the method now returns, in the order in which they were registered. -/
def Outcome.wrappers : Outcome → List TypeId
  | unchanged => []
  | paged pager => [pager]
  | longRunning handle => [handle]
  | pagedLongRunning c => [c.handle, c.listAllHandle, c.pager]

/-- The method that is being wrapped and the registry that its wrappers go to. -/
structure Workpiece (R : Type := Registry) where
  method : Method
  types : R
deriving DecidableEq, Repr

/-- Wrapping changes its workpiece step by step; when it fails, the workpiece is left as the steps
up to that point made it. -/
abbrev WrappingOn (R : Type) := EStateM WrapError (Workpiece R)

abbrev Wrapping := WrappingOn Registry

namespace Wrapping

variable {R : Type}

/-- Goes on with a candidate, or fails with the reason why there is none. -/
def require {α : Type} : Except WrapError α → WrappingOn R α
  | .ok a => pure a
  | .error e => throw e

/-- Registers a wrapper, reusing the canonical member equal to it. -/
def register [TypeTable R] (type : ModelType) : WrappingOn R TypeId :=
  modifyGet fun (w : Workpiece R) =>
    let (id, types) := TypeTable.register w.types type
    (id, { w with types })

def setReturnType (returnType : ReturnType) : WrappingOn R Unit :=
  modify fun w => { w with method := { w.method with returnType } }

variable [TypeTable R]

/-- The handle that would be reused for a candidate. -/
def reused? (types : R) (candidate : PollingHandle) : Option PollingHandle :=
  match TypeTable.canonicalOf types (.pollingHandle candidate) with
  | .ok id => (TypeTable.get? types id).bind ModelType.asPollingHandle?
  | .error _ => none

/-- Methods share a handle only when it resolves to the same type for all of them. A handle that
was made for this very method is not looked at. -/
def checkShared (candidate : PollingHandle) : WrappingOn R Unit := do
  let w ← get
  match reused? w.types candidate with
  | some existing =>
    if !existing.originatesFrom w.method.group w.method.name &&
        existing.result ≠ candidate.result then
      throw (.handleConflict candidate.name w.method.qualifiedName existing.origin)
  | none => pure ()

def wrapPaginated : WrappingOn R TypeId := do
  let m := (← get).method
  let candidate ← require m.pageIterator
  let pager ← register (.pageIterator candidate)
  setReturnType (.response ⟨some pager, m.returnType.headers⟩)
  return pager

def wrapLongRunning (naming : Naming) : WrappingOn R TypeId := do
  let m := (← get).method
  let candidate ← require (m.pollingHandle naming none)
  checkShared candidate
  let handle ← register (.pollingHandle candidate)
  setReturnType (.response ⟨some handle, m.returnType.headers⟩)
  return handle

/-- Replaces the return type of a paginated long-running method by its handle, its list-all handle
and its page iterator. -/
def wrapPaginatedLongRunning (naming : Naming) : WrappingOn R PagedOperation := do
  let m := (← get).method
  let pager ← require m.pageIterator
  let handle ← require (m.pollingHandle naming none)
  let listAll ← require (m.pollingHandle naming (some (m.listAllName naming)))
  checkShared handle
  checkShared listAll
  let composed := {
    handle := ← register (.pollingHandle handle)
    listAllHandle := ← register (.pollingHandle listAll)
    pager := ← register (.pageIterator pager)
    headers := m.returnType.headers }
  setReturnType (.pagedOperation composed)
  return composed

/-- Wraps the method as if it were of the given kind. -/
def wrapAs (naming : Naming) : OperationKind → WrappingOn R Outcome
  | .plain => pure .unchanged
  | .paginated => .paged <$> wrapPaginated
  | .longRunning => .longRunning <$> wrapLongRunning naming
  | .paginatedLongRunning => .pagedLongRunning <$> wrapPaginatedLongRunning naming

def wrap (naming : Naming) : WrappingOn R Outcome := do wrapAs naming (← get).method.kind

end Wrapping

end WrapperSynthesis
