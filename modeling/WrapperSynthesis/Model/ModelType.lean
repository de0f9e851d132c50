import WrapperSynthesis.Model.TypeKey

/-! The types of a service description: scalars and objects that the schema declares, and the
polling handles and page iterators that are synthesized for its methods. -/

namespace WrapperSynthesis

/-- A method is shown as `group.name`, or as its bare name when it belongs to no group. -/
def qualifiedName (group name : String) : String :=
  if group = "" then name else group ++ "." ++ name

/-- A built-in scalar such as `string` or `int32`. -/
structure PrimitiveType where
  name : String
deriving DecidableEq, Repr, Inhabited

structure FieldDef where
  name : String
  fieldType : TypeId
  required : Bool := false
deriving DecidableEq, Repr, Inhabited

structure CompositeType where
  name : String
  description : String := ""
  fields : List FieldDef := []
deriving DecidableEq, Repr, Inhabited

/-- A handle for polling an operation that is still running. Its name and its list-all marker
identify it; the other fields say for which method it was made and what it resolves to. -/
structure PollingHandle where
  name : String
  /-- Set for the handle that lists all pages. A synthesized one differs from the other handle of
  its method in this and the name only: both resolve to the body of the operation. -/
  listAll : Bool := false
  group : String
  method : String
  /-- What the operation produces once polling completes. -/
  result : Option TypeId := none
deriving DecidableEq, Repr, Inhabited

namespace PollingHandle

/-- The qualified name of the method for which the handle was made. -/
def origin (h : PollingHandle) : String := qualifiedName h.group h.method

/-- Whether the handle was made for the given method. -/
def originatesFrom (h : PollingHandle) (group method : String) : Bool :=
  h.group = group && h.method = method

end PollingHandle

/-- The single page that a page iterator walks over. -/
structure PageType where
  element : TypeId
  needsPreparer : Bool := false
deriving DecidableEq, Repr, Inhabited

/-- A lazy sequence over the pages of one element type. The element and the preparer flag identify
it, whatever its page is. A synthesized iterator takes its page from the two, a loaded one may have
any page. -/
structure PageIterator where
  element : TypeId
  /-- Whether the request for the next page is prepared from a link in the page before. -/
  needsPreparer : Bool := false
  page : PageType
deriving DecidableEq, Repr, Inhabited

/-- The iterator over pages of `element`, together with its page. -/
def PageIterator.ofElement (element : TypeId) (needsPreparer : Bool) : PageIterator :=
  ⟨element, needsPreparer, ⟨element, needsPreparer⟩⟩

inductive ModelType where
  | primitive (type : PrimitiveType)
  | composite (type : CompositeType)
  | pollingHandle (handle : PollingHandle)
  | pageIterator (pager : PageIterator)
deriving DecidableEq, Repr, Inhabited

namespace ModelType

def ofPrimitive (name : String) : ModelType := .primitive ⟨name⟩

def ofComposite (name : String) : ModelType := .composite { name }

def key : ModelType → TypeKey
  | primitive t => .primitive t.name
  | composite t => .composite t.name
  | pollingHandle h => .pollingHandle h.name h.listAll
  | pageIterator p => .pageIterator p.element p.needsPreparer

/-- The declared or synthesized name. A page iterator has none: it is named where it is
rendered. -/
def name? : ModelType → Option String
  | primitive t => some t.name
  | composite t => some t.name
  | pollingHandle h => some h.name
  | pageIterator _ => none

/-- The kind of the type, as files and diagnostics spell it. -/
def kindName : ModelType → String
  | primitive _ => "primitive"
  | composite _ => "composite"
  | pollingHandle _ => "polling_handle"
  | pageIterator _ => "page_iterator"

def asPollingHandle? : ModelType → Option PollingHandle
  | pollingHandle h => some h
  | _ => none

def asPageIterator? : ModelType → Option PageIterator
  | pageIterator p => some p
  | _ => none

/-- Polling handles and page iterators are synthesized; all other types come from the schema. -/
def isSynthetic : ModelType → Bool
  | pollingHandle _ | pageIterator _ => true
  | primitive _ | composite _ => false

end ModelType

end WrapperSynthesis
