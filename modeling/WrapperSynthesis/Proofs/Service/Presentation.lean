import WrapperSynthesis.Proofs.Json.Printing
import WrapperSynthesis.Proofs.Service.FileFormat

/-! A service does not depend on how its file presents it. The layout of a value lists the members
of its objects, with the default of each member that may be left out; it is written down here once
more, apart from the descriptions that the reader follows. Every text of every object that shows the
layout of a service is read as this service (`ofJson_of_shown`). -/

namespace WrapperSynthesis

open Json

/-! ### Layouts -/

def PrimitiveType.layout (t : PrimitiveType) : List Field := [.needed "name" (· = .string t.name)]

def FieldDef.layout (f : FieldDef) : List Field := [
  .needed "name" (· = .string f.name),
  .needed "field_type" (· = .number f.fieldType.index),
  .defaulted "required" (· = .bool f.required) (f.required = false)]

def CompositeType.layout (t : CompositeType) : List Field := [
  .needed "name" (· = .string t.name),
  .defaulted "description" (· = .string t.description) (t.description = ""),
  .defaulted "fields" (Listed (fun f => Presented f.layout) t.fields) (t.fields = [])]

def PollingHandle.layout (h : PollingHandle) : List Field := [
  .needed "name" (· = .string h.name),
  .defaulted "list_all" (· = .bool h.listAll) (h.listAll = false),
  .needed "group" (· = .string h.group),
  .needed "method" (· = .string h.method),
  .optional "result" (fun id v => v = .number id.index) h.result]

def PageType.layout (p : PageType) : List Field := [
  .needed "element" (· = .number p.element.index),
  .defaulted "needs_preparer" (· = .bool p.needsPreparer) (p.needsPreparer = false)]

def PageIterator.layout (p : PageIterator) : List Field := [
  .needed "element" (· = .number p.element.index),
  .defaulted "needs_preparer" (· = .bool p.needsPreparer) (p.needsPreparer = false),
  .needed "page" (Presented p.page.layout)]

/-- The tag of a type is one more member of its object. -/
def ModelType.layout : ModelType → List Field
  | primitive t => .needed "kind" (· = .string "primitive") :: t.layout
  | composite t => .needed "kind" (· = .string "composite") :: t.layout
  | pollingHandle h => .needed "kind" (· = .string "polling_handle") :: h.layout
  | pageIterator p => .needed "kind" (· = .string "page_iterator") :: p.layout

def Paging.layout (p : Paging) : List Field := [
  .optional "next_link_name" (fun name v => v = .string name) p.nextLinkName,
  .optional "next_operation" (fun name v => v = .string name) p.nextOperation]

def Response.layout (r : Response) : List Field := [
  .optional "body" (fun id v => v = .number id.index) r.body,
  .optional "headers" (fun id v => v = .number id.index) r.headers]

def PagedOperation.layout (c : PagedOperation) : List Field := [
  .needed "handle" (· = .number c.handle.index),
  .needed "list_all_handle" (· = .number c.listAllHandle.index),
  .needed "pager" (· = .number c.pager.index),
  .optional "headers" (fun id v => v = .number id.index) c.headers]

def ReturnType.layout : ReturnType → List Field
  | response r => .needed "shape" (· = .string "response") :: r.layout
  | pagedOperation c => .needed "shape" (· = .string "lro_paged") :: c.layout

def Method.layout (m : Method) : List Field := [
  .defaulted "group" (· = .string m.group) (m.group = ""),
  .needed "name" (· = .string m.name),
  .defaulted "description" (· = .string m.description) (m.description = ""),
  .defaulted "kind" (· = .string m.kind.name) (m.kind = .plain),
  .optional "paging" (fun p => Presented p.layout) m.paging,
  .defaulted "return_type" (Presented m.returnType.layout) (m.returnType = .response {})]

def Service.layout (s : Service) : List Field := [
  .needed "name" (· = .string s.name),
  .defaulted "methods" (Listed (fun m => Presented m.layout) s.methods) (s.methods = []),
  .defaulted "types" (Listed (fun t => Presented t.layout) s.types.toList) (s.types = {})]

/-- The value is one of the objects that show the service. -/
def Service.Shown (s : Service) : Value → Prop := Presented s.layout

/-! ### Types -/

theorem TypeId.reads {id : TypeId} (h : id.Storable) {height : Nat} :
    Reads read id (· = .number id.index) height := .of_codec codec h

theorem TypeId.reads_of_some {found : Option TypeId} (h : StorableIfAny found) {height : Nat}
    (id : TypeId) (hid : found = some id) : Reads read id (· = .number id.index) height :=
  reads (h id hid)

theorem number_ne_null (id : TypeId) (v : Value) (h : v = .number id.index) :
    v.asDraft ≠ .null := by
  rw [h]
  nofun

theorem string_ne_null (s : String) (v : Value) (h : v = .string s) : v.asDraft ≠ .null := by
  rw [h]
  nofun

theorem PrimitiveType.fits (t : PrimitiveType) {height : Nat} : record.Fits t t.layout height where
  members := .cons (.needed .string) .nil
  distinct := lawful.distinct
  make_row := rfl

theorem FieldDef.fits {f : FieldDef} (h : f.fieldType.Storable) : record.Fits f f.layout 0 where
  members := .cons (.needed .string) <| .cons (.needed (TypeId.reads h)) <|
    .cons (.defaulted .bool) .nil
  distinct := lawful.distinct
  make_row := rfl

theorem CompositeType.fits {t : CompositeType} (h : ∀ f ∈ t.fields, f.fieldType.Storable) :
    record.Fits t t.layout 2 where
  members := .cons (.needed .string) <| .cons (.defaulted .string) <|
    .cons (.defaulted (.list fun f hf => (FieldDef.fits (h f hf)).reads)) .nil
  distinct := lawful.distinct
  make_row := rfl

theorem PollingHandle.fits {h : PollingHandle} (hresult : TypeId.StorableIfAny h.result)
    {height : Nat} : record.Fits h h.layout height where
  members := .cons (.needed .string) <| .cons (.defaulted .bool) <| .cons (.needed .string) <|
    .cons (.needed .string) <| .cons (.optional (TypeId.reads_of_some hresult) number_ne_null) .nil
  distinct := lawful.distinct
  make_row := rfl

theorem PageType.fits {p : PageType} (h : p.element.Storable) : record.Fits p p.layout 0 where
  members := .cons (.needed (TypeId.reads h)) <| .cons (.defaulted .bool) .nil
  distinct := lawful.distinct
  make_row := rfl

theorem PageIterator.fits {p : PageIterator} (h : p.element.Storable)
    (hpage : p.page.element.Storable) : record.Fits p p.layout 1 where
  members := .cons (.needed (TypeId.reads h)) <| .cons (.defaulted .bool) <|
    .cons (.needed (PageType.fits hpage).reads) .nil
  distinct := lawful.distinct
  make_row := rfl

/-- A type is read from every object that shows it, with its tag anywhere. -/
theorem ModelType.reads {t : ModelType} (h : t.Storable) : Reads read t (Presented t.layout) 3 := by
  cases t with
  | primitive t =>
    exact TaggedUnion.reads t.fits rfl
      (show "kind" ∉ PrimitiveType.record.members.names by decide)
  | composite t =>
    exact TaggedUnion.reads (CompositeType.fits (storable_composite_iff.mp h)) rfl
      (show "kind" ∉ CompositeType.record.members.names by decide)
  | pollingHandle handle =>
    exact TaggedUnion.reads (PollingHandle.fits (storable_pollingHandle_iff.mp h)) rfl
      (show "kind" ∉ PollingHandle.record.members.names by decide)
  | pageIterator p =>
    obtain ⟨element, page⟩ := storable_pageIterator_iff.mp h
    have reads : Reads read (pageIterator p) (Presented (layout (.pageIterator p))) 2 :=
      TaggedUnion.reads (PageIterator.fits element page) rfl
        (show "kind" ∉ PageIterator.record.members.names by decide)
    exact reads.mono (by decide)

/-! ### Methods -/

theorem Paging.fits (p : Paging) : record.Fits p p.layout 0 where
  members := .cons (.optional (fun _ _ => .string) string_ne_null) <|
    .cons (.optional (fun _ _ => .string) string_ne_null) .nil
  distinct := lawful.distinct
  make_row := rfl

theorem Response.fits {r : Response} (body : TypeId.StorableIfAny r.body)
    (headers : TypeId.StorableIfAny r.headers) : record.Fits r r.layout 0 where
  members := .cons (.optional (TypeId.reads_of_some body) number_ne_null) <|
    .cons (.optional (TypeId.reads_of_some headers) number_ne_null) .nil
  distinct := lawful.distinct
  make_row := rfl

theorem PagedOperation.fits {c : PagedOperation} (handle : c.handle.Storable)
    (listAllHandle : c.listAllHandle.Storable) (pager : c.pager.Storable)
    (headers : TypeId.StorableIfAny c.headers) : record.Fits c c.layout 0 where
  members := .cons (.needed (TypeId.reads handle)) <|
    .cons (.needed (TypeId.reads listAllHandle)) <| .cons (.needed (TypeId.reads pager)) <|
    .cons (.optional (TypeId.reads_of_some headers) number_ne_null) .nil
  distinct := lawful.distinct
  make_row := rfl

theorem ReturnType.reads {r : ReturnType} (h : r.Storable) :
    Reads read r (Presented r.layout) 1 := by
  cases r with
  | response r =>
    obtain ⟨body, headers⟩ := storable_response_iff.mp h
    exact TaggedUnion.reads (Response.fits body headers) rfl
      (show "shape" ∉ Response.record.members.names by decide)
  | pagedOperation c =>
    obtain ⟨handle, listAllHandle, pager, headers⟩ := storable_pagedOperation_iff.mp h
    exact TaggedUnion.reads (PagedOperation.fits handle listAllHandle pager headers) rfl
      (show "shape" ∉ PagedOperation.record.members.names by decide)

theorem Method.fits {m : Method} (h : m.returnType.Storable) : record.Fits m m.layout 1 where
  members := .cons (.defaulted .string) <| .cons (.needed .string) <| .cons (.defaulted .string) <|
    .cons (.defaulted (.of_codec OperationKind.codec trivial)) <|
    .cons (.optional (fun p _ => p.fits.reads) fun _ _ => Presented.ne_null) <|
    .cons (.defaulted (ReturnType.reads h)) .nil
  distinct := lawful.distinct
  make_row := rfl

/-! ### Services -/

namespace Service

theorem fits {s : Service} (h : s.Storable) : record.Fits s s.layout 4 where
  members := .cons (.needed .string) <|
    .cons (.defaulted (.list fun m hm => (Method.fits (h.methods m hm)).reads.mono (by decide))) <|
    .cons (.defaulted (.map (.list fun t ht => ModelType.reads (h.types t ht)) Registry.ofList))
      .nil
  distinct := lawful.distinct
  make_row := rfl

end Service

/-! ### Written objects -/

theorem PrimitiveType.kept (t : PrimitiveType) : Kept t.layout (record.entries t) := .keep rfl .nil

theorem FieldDef.kept (f : FieldDef) : Kept f.layout (record.entries f) :=
  .keep rfl (.keep rfl (.keep rfl .nil))

theorem CompositeType.kept (t : CompositeType) : Kept t.layout (record.entries t) :=
  .keep rfl (.keep rfl (.keep (.of_map (fun f => .of_kept f.kept) t.fields) .nil))

theorem PollingHandle.kept (h : PollingHandle) : Kept h.layout (record.entries h) := by
  refine .keep rfl (.keep rfl (.keep rfl (.keep rfl (Members.kept_optional ?_ .nil))))
  exact fun _ => rfl

theorem PageType.kept (p : PageType) : Kept p.layout (record.entries p) :=
  .keep rfl (.keep rfl .nil)

theorem PageIterator.kept (p : PageIterator) : Kept p.layout (record.entries p) :=
  .keep rfl (.keep rfl (.keep (.of_kept p.page.kept) .nil))

theorem ModelType.presented_write (t : ModelType) : Presented t.layout t.write := by
  cases t with
  | primitive t => exact .of_kept (.keep rfl t.kept)
  | composite t => exact .of_kept (.keep rfl t.kept)
  | pollingHandle h => exact .of_kept (.keep rfl h.kept)
  | pageIterator p => exact .of_kept (.keep rfl p.kept)

theorem Paging.kept (p : Paging) : Kept p.layout (record.entries p) := by
  refine Members.kept_optional ?_ (Members.kept_optional ?_ .nil) <;> exact fun _ => rfl

theorem Response.kept (r : Response) : Kept r.layout (record.entries r) := by
  refine Members.kept_optional ?_ (Members.kept_optional ?_ .nil) <;> exact fun _ => rfl

theorem PagedOperation.kept (c : PagedOperation) : Kept c.layout (record.entries c) := by
  refine .keep rfl (.keep rfl (.keep rfl (Members.kept_optional ?_ .nil)))
  exact fun _ => rfl

theorem ReturnType.presented_write (r : ReturnType) : Presented r.layout r.write := by
  cases r with
  | response r => exact .of_kept (.keep rfl r.kept)
  | pagedOperation c => exact .of_kept (.keep rfl c.kept)

theorem Method.kept (m : Method) : Kept m.layout (record.entries m) :=
  .keep rfl <| .keep rfl <| .keep rfl <| .keep rfl <|
    Members.kept_optional (fun p => .of_kept p.kept) <|
    .keep m.returnType.presented_write .nil

namespace Service

/-- The object that is written shows the service. -/
theorem shown_write (s : Service) : s.Shown (record.write s) :=
  .of_kept <| .keep rfl <| .keep (.of_map (fun m => .of_kept m.kept) s.methods) <|
    .keep (.of_map ModelType.presented_write s.types.toList) .nil

/-- The reader does not see how a service is presented: whatever text of whatever object that shows
the service it is given, it reads this service. One of these objects is the one that is written. -/
theorem ofJson_of_shown {s : Service} (h : s.Storable) :
    s.Shown (record.write s) ∧
    ∀ v, s.Shown v → ∀ text, Padded v.Spelled text → ofJson (String.ofList text) = .ok s := by
  refine ⟨s.shown_write, ?_⟩
  intro v shown text spelled
  have back := (fits h).reads.back v shown ⟨0, false⟩ (by decide)
  simp only [ofJson, Reader.run, ofText_of_spelled spelled, back]
  rfl

/-- A service with members that have their defaults, and with members that have not. -/
def shuffledService : Service where
  name := "Größe"
  methods := [{ name := "List", kind := .paginated, paging := some { nextLinkName := some "n" } }]
  types := .ofList [
    .composite { name := "W", fields := [{ name := "id", fieldType := ⟨1⟩ }] },
    .pollingHandle { name := "H", group := "", method := "m" }]

/-- All members of all objects in reverse order, behind members with names from elsewhere. -/
def shuffledValue : Value := .object [
  ("shape", .number 0xffffffffffffffff),
  ("types", .array [
    .object [("required", .bool true),
      ("fields", .array [
        .object [("kind", .null), ("required", .bool false), ("field_type", .number 1),
          ("name", .string "id")]]),
      ("name", .string "W"), ("kind", .string "composite")],
    .object [("element", .number 7), ("result", .null), ("method", .string "m"),
      ("group", .string ""), ("name", .string "H"), ("kind", .string "polling_handle")]]),
  ("methods", .array [
    .object [("body", .string "x"),
      ("paging", .object [("next_operation", .null), ("next_link_name", .string "n")]),
      ("kind", .string "paginated"), ("name", .string "List")]]),
  ("name", .string "Größe")]

theorem presented_of_reverse {fields : List Field} {members shown : List (String × Value)}
    (unknown : List (String × Value)) (kept : Kept fields shown)
    (others : ∀ member ∈ unknown, member.1 ∉ fields.map Field.name ∧ member.2.Storable 0)
    (reverse : members.reverse = shown ++ unknown := by rfl) : Presented fields (.object members) :=
  ⟨members, rfl, shown, unknown, reverse ▸ (List.reverse_perm members).symm, kept, others⟩

theorem shown_shuffledValue : shuffledService.Shown shuffledValue := by
  refine presented_of_reverse [("shape", .number 0xffffffffffffffff)]
    (.keep rfl (.keep ?methods (.keep ?types .nil)))
    (List.forall_mem_singleton.mpr ⟨by decide, by simp [Value.Storable, Numeral.wordBound]⟩)
  case methods =>
    refine ⟨_, rfl, .cons ?_ .nil⟩
    refine presented_of_reverse [("body", .string "x")]
      (.drop rfl <| .keep rfl <| .drop rfl <| .keep rfl <| .keep ?_ <| .drop rfl .nil)
      (List.forall_mem_singleton.mpr ⟨by decide, trivial⟩)
    exact presented_of_reverse [] (.keep rfl (.keep rfl .nil)) (List.forall_mem_nil _)
  case types =>
    refine ⟨_, rfl, .cons ?_ (.cons ?_ .nil)⟩
    · refine presented_of_reverse [("required", .bool true)]
        (.keep rfl <| .keep rfl <| .drop rfl <| .keep ?_ .nil)
        (List.forall_mem_singleton.mpr ⟨by decide, trivial⟩)
      refine ⟨_, rfl, .cons ?_ .nil⟩
      exact presented_of_reverse [("kind", .null)] (.keep rfl (.keep rfl (.keep rfl .nil)))
        (List.forall_mem_singleton.mpr ⟨by decide, trivial⟩)
    · exact presented_of_reverse [("element", .number 7)]
        (.keep rfl <| .keep rfl <| .drop rfl <| .keep rfl <| .keep rfl <| .keep rfl .nil)
        (List.forall_mem_singleton.mpr ⟨by decide, by simp [Value.Storable, Numeral.wordBound]⟩)

theorem ofJson_shuffledValue :
    shuffledService.Storable ∧ shuffledService.Shown shuffledValue ∧
    Padded shuffledValue.Spelled ('\t' :: shuffledValue.pretty 3) ∧
    ofJson (String.ofList ('\t' :: shuffledValue.pretty 3)) = .ok shuffledService := by
  have storable : shuffledService.Storable := ⟨by decide, by decide⟩
  have spelled : Padded shuffledValue.Spelled ('\t' :: shuffledValue.pretty 3) :=
    ⟨['\t'], shuffledValue.pretty 3, [], by simp, by decide, spelled_pretty _ 3, .nil⟩
  obtain ⟨-, back⟩ := ofJson_of_shown storable
  exact ⟨storable, shown_shuffledValue, spelled, back _ shown_shuffledValue _ spelled⟩

end Service

end WrapperSynthesis
