import WrapperSynthesis.Model.Service
import WrapperSynthesis.Json.TaggedUnion

/-! The file format of a service: which members each of its types has, which of them may be absent,
and how the variants are tagged. -/

namespace WrapperSynthesis

open Json

namespace TypeId

def read : Reader TypeId := fun place d => (Reader.natBelow bound "usize" place d).map TypeId.mk

def write (id : TypeId) : Value := .number id.index

def member (name : String) : Member TypeId := .of name read write

def optionalMember (name : String) : Member (Option TypeId) := .optional name read write

end TypeId

/-! ### Types -/

def PrimitiveType.record : Record PrimitiveType where
  name := "PrimitiveType"
  types := [String]
  members := .cons (.string "name") .nil
  make := fun (name, ()) => ⟨name⟩
  row t := (t.name, ())

def FieldDef.record : Record FieldDef where
  name := "FieldDef"
  types := [String, TypeId, Bool]
  members := .cons (.string "name") <| .cons (TypeId.member "field_type") <|
    .cons (.bool "required" false) .nil
  make := fun (name, fieldType, required, ()) => ⟨name, fieldType, required⟩
  row f := (f.name, f.fieldType, f.required, ())

def CompositeType.record : Record CompositeType where
  name := "CompositeType"
  types := [String, String, List FieldDef]
  members := .cons (.string "name") <| .cons (.string "description" "") <|
    .cons (.list "fields" FieldDef.record.read FieldDef.record.write) .nil
  make := fun (name, description, fields, ()) => ⟨name, description, fields⟩
  row t := (t.name, t.description, t.fields, ())

def PollingHandle.record : Record PollingHandle where
  name := "PollingHandle"
  types := [String, Bool, String, String, Option TypeId]
  members := .cons (.string "name") <| .cons (.bool "list_all" false) <| .cons (.string "group") <|
    .cons (.string "method") <| .cons (TypeId.optionalMember "result") .nil
  make := fun (name, listAll, group, method, result, ()) => ⟨name, listAll, group, method, result⟩
  row h := (h.name, h.listAll, h.group, h.method, h.result, ())

def PageType.record : Record PageType where
  name := "PageType"
  types := [TypeId, Bool]
  members := .cons (TypeId.member "element") <| .cons (.bool "needs_preparer" false) .nil
  make := fun (element, needsPreparer, ()) => ⟨element, needsPreparer⟩
  row p := (p.element, p.needsPreparer, ())

def PageIterator.record : Record PageIterator where
  name := "PageIterator"
  types := [TypeId, Bool, PageType]
  members := .cons (TypeId.member "element") <| .cons (.bool "needs_preparer" false) <|
    .cons (.of "page" PageType.record.read PageType.record.write) .nil
  make := fun (element, needsPreparer, page, ()) => ⟨element, needsPreparer, page⟩
  row p := (p.element, p.needsPreparer, p.page, ())

namespace ModelType

/-- The variants of a type, tagged by `kind`. -/
def union : TaggedUnion ModelType where
  name := "ModelType"
  tag := "kind"
  variants := [
    .ofRecord "primitive" PrimitiveType.record .primitive,
    .ofRecord "composite" CompositeType.record .composite,
    .ofRecord "polling_handle" PollingHandle.record .pollingHandle,
    .ofRecord "page_iterator" PageIterator.record .pageIterator]

def read : Reader ModelType := union.read

/-- The members of a type besides its tag. -/
def entries : ModelType → List (String × Value)
  | primitive t => PrimitiveType.record.entries t
  | composite t => CompositeType.record.entries t
  | pollingHandle h => PollingHandle.record.entries h
  | pageIterator p => PageIterator.record.entries p

def write (t : ModelType) : Value := union.write t.kindName t.entries

end ModelType

/-! ### Methods -/

def Paging.record : Record Paging where
  name := "PagingMetadata"
  types := [Option String, Option String]
  members := .cons (.optional "next_link_name" Reader.string .string) <|
    .cons (.optional "next_operation" Reader.string .string) .nil
  make := fun (nextLinkName, nextOperation, ()) => ⟨nextLinkName, nextOperation⟩
  row p := (p.nextLinkName, p.nextOperation, ())

def Response.record : Record Response where
  name := "ResponseType"
  types := [Option TypeId, Option TypeId]
  members := .cons (TypeId.optionalMember "body") <| .cons (TypeId.optionalMember "headers") .nil
  make := fun (body, headers, ()) => ⟨body, headers⟩
  row r := (r.body, r.headers, ())

def PagedOperation.record : Record PagedOperation where
  name := "LroPagedResponse"
  types := [TypeId, TypeId, TypeId, Option TypeId]
  members := .cons (TypeId.member "handle") <| .cons (TypeId.member "list_all_handle") <|
    .cons (TypeId.member "pager") <| .cons (TypeId.optionalMember "headers") .nil
  make := fun (handle, listAllHandle, pager, headers, ()) => ⟨handle, listAllHandle, pager, headers⟩
  row c := (c.handle, c.listAllHandle, c.pager, c.headers, ())

namespace ReturnType

/-- The variants of a return type, tagged by `shape`. -/
def union : TaggedUnion ReturnType where
  name := "ReturnType"
  tag := "shape"
  variants := [
    .ofRecord "response" Response.record .response,
    .ofRecord "lro_paged" PagedOperation.record .pagedOperation]

def read : Reader ReturnType := union.read

def write : ReturnType → Value
  | response r => union.write "response" (Response.record.entries r)
  | pagedOperation c => union.write "lro_paged" (PagedOperation.record.entries c)

end ReturnType

namespace OperationKind

def read : Reader OperationKind := Reader.choice name all

def write (kind : OperationKind) : Value := .string kind.name

end OperationKind

def Method.record : Record Method where
  name := "Method"
  types := [String, String, String, OperationKind, Option Paging, ReturnType]
  members := .cons (.string "group" "") <| .cons (.string "name") <|
    .cons (.string "description" "") <|
    .cons (.of "kind" OperationKind.read OperationKind.write (some .plain)) <|
    .cons (.optional "paging" Paging.record.read Paging.record.write) <|
    .cons (.of "return_type" ReturnType.read ReturnType.write (some (.response {}))) .nil
  make := fun (group, name, description, kind, paging, returnType, ()) =>
    ⟨group, name, description, kind, paging, returnType⟩
  row m := (m.group, m.name, m.description, m.kind, m.paging, m.returnType, ())

/-! ### Services -/

namespace Registry

/-- A registry is written as the list of its members. -/
def read : Reader Registry := fun place d => (Reader.list ModelType.read place d).map ofList

def write (r : Registry) : Value := .array (r.toList.map ModelType.write)

end Registry

namespace Service

def record : Record Service where
  name := "ServiceDescription"
  types := [String, List Method, Registry]
  members := .cons (.string "name") <|
    .cons (.list "methods" Method.record.read Method.record.write) <|
    .cons (.of "types" Registry.read Registry.write (some {})) .nil
  make := fun (name, methods, types, ()) => ⟨name, methods, types⟩
  row s := (s.name, s.methods, s.types, ())

def ofJson (text : String) : Except ReadError Service := Reader.run record.read text

def fileText (s : Service) : String := (record.write s).fileText

end Service

end WrapperSynthesis
