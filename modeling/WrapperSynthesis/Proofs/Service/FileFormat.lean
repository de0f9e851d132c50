import WrapperSynthesis.Model.Format
import WrapperSynthesis.Proofs.Json.Record
import WrapperSynthesis.Proofs.Registry.Index

/-! The file format of a service loses nothing: a service is read back from the text that holds it
(`ofJson_fileText`), and its registry answers as before although the file does not hold the index
(`fileText_determines`). Every type of the model gets a codec, from those of its members; the only
condition is that the handles fit the 64 bits that the reader takes. -/

namespace WrapperSynthesis

open Json

/-- The handle fits the numbers of a file. -/
def TypeId.Storable (id : TypeId) : Prop := id.index < bound

instance (id : TypeId) : Decidable id.Storable :=
  inferInstanceAs (Decidable (id.index < TypeId.bound))

/-- The types that a type points at. -/
def ModelType.mentioned : ModelType → List TypeId
  | primitive _ => []
  | composite t => t.fields.map FieldDef.fieldType
  | pollingHandle h => h.result.toList
  | pageIterator p => [p.element, p.page.element]

/-- Every handle of the service fits the numbers of a file. -/
structure Service.Storable (s : Service) : Prop where
  methods : ∀ m ∈ s.methods, ∀ id ∈ m.returnType.referenced, id.Storable
  types : ∀ t ∈ s.types.toList, ∀ id ∈ t.mentioned, id.Storable

/-! ### Types -/

theorem TypeId.codec {height : Nat} : Codec read write Storable height :=
  (Codec.natBelow (Nat.le_refl _)).map (fun _ => rfl) fun _ => rfl

theorem TypeId.write_ne_null (id : TypeId) : (write id).asDraft ≠ .null := nofun

/-- A handle that may be left out. -/
abbrev TypeId.StorableIfAny (found : Option TypeId) : Prop := ∀ id, found = some id → id.Storable

theorem PrimitiveType.lawful : record.Lawful (fun _ => True, ()) 0 where
  members := ⟨.of _ .string, trivial⟩
  distinct := by decide
  make_row _ := rfl
  row_make _ := rfl

theorem FieldDef.lawful : record.Lawful (fun _ => True, TypeId.Storable, fun _ => True, ()) 0 where
  members := ⟨.of _ .string, .of _ TypeId.codec, .of _ .bool, trivial⟩
  distinct := by decide
  make_row _ := rfl
  row_make _ := rfl

theorem FieldDef.codec : Codec record.read record.write (fun f => f.fieldType.Storable) 1 :=
  Record.Lawful.codec lawful fun _ => ⟨fun row => row.2.1, fun h => ⟨trivial, h, trivial, trivial⟩⟩

theorem CompositeType.lawful :
    record.Lawful
      (fun _ => True, fun _ => True, fun fields => ∀ f ∈ fields, f.fieldType.Storable, ()) 2 where
  members := ⟨.of _ .string, .of _ .string, .of _ (.list FieldDef.codec), trivial⟩
  distinct := by decide
  make_row _ := rfl
  row_make _ := rfl

theorem PollingHandle.lawful :
    record.Lawful
      (fun _ => True, fun _ => True, fun _ => True, fun _ => True, TypeId.StorableIfAny, ()) 0 where
  members := ⟨.of _ .string, .of _ .bool, .of _ .string, .of _ .string,
    .optional _ TypeId.codec TypeId.write_ne_null, trivial⟩
  distinct := by decide
  make_row _ := rfl
  row_make _ := rfl

theorem PageType.lawful : record.Lawful (TypeId.Storable, fun _ => True, ()) 0 where
  members := ⟨.of _ TypeId.codec, .of _ .bool, trivial⟩
  distinct := by decide
  make_row _ := rfl
  row_make _ := rfl

theorem PageType.codec : Codec record.read record.write (fun p => p.element.Storable) 1 :=
  Record.Lawful.codec lawful fun _ => ⟨fun row => row.1, fun h => ⟨h, trivial, trivial⟩⟩

theorem PageIterator.lawful :
    record.Lawful (TypeId.Storable, fun _ => True, fun page => page.element.Storable, ()) 1 where
  members := ⟨.of _ TypeId.codec, .of _ .bool, .of _ PageType.codec, trivial⟩
  distinct := by decide
  make_row _ := rfl
  row_make _ := rfl

namespace ModelType

/-- Every type that the type points at fits the numbers of a file. -/
def Storable (t : ModelType) : Prop := ∀ id ∈ t.mentioned, id.Storable

theorem storable_composite_iff {t : CompositeType} :
    (composite t).Storable ↔ ∀ f ∈ t.fields, f.fieldType.Storable := List.forall_mem_map

theorem storable_pollingHandle_iff {h : PollingHandle} :
    (pollingHandle h).Storable ↔ TypeId.StorableIfAny h.result :=
  forall_congr' fun _ => imp_congr_left Option.mem_toList

theorem storable_pageIterator_iff {p : PageIterator} :
    (pageIterator p).Storable ↔ p.element.Storable ∧ p.page.element.Storable :=
  List.forall_mem_cons.trans (and_congr_right' List.forall_mem_singleton)

theorem primitiveBranch : union.Branch "primitive" PrimitiveType.record .primitive Storable 3 :=
  TaggedUnion.branch PrimitiveType.lawful rfl (by decide)
    (fun _ => ⟨fun _ => nofun, fun _ => ⟨trivial, trivial⟩⟩) (by decide)

theorem compositeBranch : union.Branch "composite" CompositeType.record .composite Storable 3 :=
  TaggedUnion.branch CompositeType.lawful rfl (by decide)
    (fun _ => ⟨fun row => Iff.mpr storable_composite_iff row.2.2.1,
      fun h => ⟨trivial, trivial, Iff.mp storable_composite_iff h, trivial⟩⟩) (by decide)

theorem pollingHandleBranch :
    union.Branch "polling_handle" PollingHandle.record .pollingHandle Storable 3 :=
  TaggedUnion.branch PollingHandle.lawful rfl (by decide)
    (fun _ => ⟨fun row => Iff.mpr storable_pollingHandle_iff row.2.2.2.2.1,
      fun h => ⟨trivial, trivial, trivial, trivial, Iff.mp storable_pollingHandle_iff h, trivial⟩⟩)
    (by decide)

theorem pageIteratorBranch :
    union.Branch "page_iterator" PageIterator.record .pageIterator Storable 3 :=
  TaggedUnion.branch PageIterator.lawful rfl (by decide)
    (fun _ => ⟨fun row => Iff.mpr storable_pageIterator_iff ⟨row.1, row.2.2.1⟩, fun h =>
      have both := Iff.mp storable_pageIterator_iff h
      ⟨both.1, trivial, both.2, trivial⟩⟩) (by decide)

theorem codec : Codec read write Storable 3 where
  storable
    | .primitive t => TaggedUnion.Branch.storable primitiveBranch t
    | .composite t => TaggedUnion.Branch.storable compositeBranch t
    | .pollingHandle h => TaggedUnion.Branch.storable pollingHandleBranch h
    | .pageIterator p => TaggedUnion.Branch.storable pageIteratorBranch p
  inverts
    | .primitive t => TaggedUnion.Branch.inverts primitiveBranch t
    | .composite t => TaggedUnion.Branch.inverts compositeBranch t
    | .pollingHandle h => TaggedUnion.Branch.inverts pollingHandleBranch h
    | .pageIterator p => TaggedUnion.Branch.inverts pageIteratorBranch p
  yields place d t ok := by
    -- What is read was read by one of the four variants.
    obtain ⟨variant, known, place, d, ok⟩ := TaggedUnion.exists_of_read ok
    simp only [union, List.mem_cons, List.not_mem_nil, or_false] at known
    rcases known with rfl | rfl | rfl | rfl
    · exact TaggedUnion.Branch.yields primitiveBranch place d t ok
    · exact TaggedUnion.Branch.yields compositeBranch place d t ok
    · exact TaggedUnion.Branch.yields pollingHandleBranch place d t ok
    · exact TaggedUnion.Branch.yields pageIteratorBranch place d t ok

end ModelType

/-! ### Methods -/

theorem Paging.lawful : record.Lawful
    (fun found => ∀ a, found = some a → True, fun found => ∀ a, found = some a → True, ()) 0 where
  members := ⟨.optional _ .string nofun, .optional _ .string nofun, trivial⟩
  distinct := by decide
  make_row _ := rfl
  row_make _ := rfl

theorem Paging.codec : Codec record.read record.write (fun _ => True) 1 :=
  Record.Lawful.codec lawful fun _ =>
    ⟨fun _ => trivial, fun _ => ⟨fun _ _ => trivial, fun _ _ => trivial, trivial⟩⟩

theorem Response.lawful : record.Lawful (TypeId.StorableIfAny, TypeId.StorableIfAny, ()) 0 where
  members := ⟨.optional _ TypeId.codec TypeId.write_ne_null,
    .optional _ TypeId.codec TypeId.write_ne_null, trivial⟩
  distinct := by decide
  make_row _ := rfl
  row_make _ := rfl

theorem PagedOperation.lawful : record.Lawful
    (TypeId.Storable, TypeId.Storable, TypeId.Storable, TypeId.StorableIfAny, ()) 0 where
  members := ⟨.of _ TypeId.codec, .of _ TypeId.codec, .of _ TypeId.codec,
    .optional _ TypeId.codec TypeId.write_ne_null, trivial⟩
  distinct := by decide
  make_row _ := rfl
  row_make _ := rfl

namespace ReturnType

/-- Every type that the return type refers to fits the numbers of a file. -/
def Storable (r : ReturnType) : Prop := ∀ id ∈ r.referenced, id.Storable

theorem storable_response_iff {r : Response} :
    (response r).Storable ↔ TypeId.StorableIfAny r.body ∧ TypeId.StorableIfAny r.headers := by
  simp [Storable, referenced, or_imp, forall_and]

theorem storable_pagedOperation_iff {c : PagedOperation} :
    (pagedOperation c).Storable ↔ c.handle.Storable ∧ c.listAllHandle.Storable ∧ c.pager.Storable ∧
      TypeId.StorableIfAny c.headers := by
  simp [Storable, referenced]

theorem responseBranch : union.Branch "response" Response.record .response Storable 1 :=
  TaggedUnion.branch Response.lawful rfl (by decide)
    (fun _ => ⟨fun row => Iff.mpr storable_response_iff ⟨row.1, row.2.1⟩, fun h =>
      have both := Iff.mp storable_response_iff h
      ⟨both.1, both.2, trivial⟩⟩) (by decide)

theorem pagedOperationBranch :
    union.Branch "lro_paged" PagedOperation.record .pagedOperation Storable 1 :=
  TaggedUnion.branch PagedOperation.lawful rfl (by decide)
    (fun _ => ⟨fun row =>
        Iff.mpr storable_pagedOperation_iff ⟨row.1, row.2.1, row.2.2.1, row.2.2.2.1⟩,
      fun h =>
        have all := Iff.mp storable_pagedOperation_iff h
        ⟨all.1, all.2.1, all.2.2.1, all.2.2.2, trivial⟩⟩) (by decide)

theorem codec : Codec read write Storable 1 where
  storable
    | .response r => TaggedUnion.Branch.storable responseBranch r
    | .pagedOperation c => TaggedUnion.Branch.storable pagedOperationBranch c
  inverts
    | .response r => TaggedUnion.Branch.inverts responseBranch r
    | .pagedOperation c => TaggedUnion.Branch.inverts pagedOperationBranch c
  yields place d r ok := by
    obtain ⟨variant, known, place, d, ok⟩ := TaggedUnion.exists_of_read ok
    simp only [union, List.mem_cons, List.not_mem_nil, or_false] at known
    rcases known with rfl | rfl
    · exact TaggedUnion.Branch.yields responseBranch place d r ok
    · exact TaggedUnion.Branch.yields pagedOperationBranch place d r ok

end ReturnType

theorem OperationKind.codec {height : Nat} : Codec read write (fun _ => True) height where
  storable _ _ := by simp [write, Value.Storable]
  inverts kind _ place _ := by
    cases kind <;> rfl
  yields _ _ _ _ := trivial

theorem Method.lawful : record.Lawful (fun _ => True, fun _ => True, fun _ => True, fun _ => True,
    fun found => ∀ paging, found = some paging → True, ReturnType.Storable, ()) 1 where
  members := ⟨.of _ .string, .of _ .string, .of _ .string, .of _ OperationKind.codec,
    .optional _ Paging.codec nofun,
    .of _ ReturnType.codec (by simp [ReturnType.Storable, ReturnType.referenced]), trivial⟩
  distinct := by decide
  make_row _ := rfl
  row_make _ := rfl

theorem Method.codec : Codec record.read record.write (fun m => m.returnType.Storable) 2 :=
  Record.Lawful.codec lawful fun _ => ⟨fun row => row.2.2.2.2.2.1, fun h =>
    ⟨trivial, trivial, trivial, trivial, fun _ _ => trivial, h, trivial⟩⟩

/-! ### Services -/

theorem Registry.codec : Codec read write (fun r => ∀ t ∈ r.toList, t.Storable) 4 :=
  .map (.list ModelType.codec) (fun _ => rfl) fun _ => rfl

namespace Service

theorem lawful : record.Lawful (fun _ => True, fun methods => ∀ m ∈ methods, m.returnType.Storable,
    fun types => ∀ t ∈ types.toList, t.Storable, ()) 4 where
  members := ⟨.of _ .string, .of _ (.list (.mono Method.codec (by decide))),
    .of _ Registry.codec (by simp [Registry.toList]), trivial⟩
  distinct := by decide
  make_row _ := rfl
  row_make _ := rfl

theorem codec : Codec record.read record.write Storable 5 :=
  Record.Lawful.codec lawful fun _ =>
    ⟨fun row => ⟨row.2.1, row.2.2.1⟩, fun h => ⟨trivial, h.1, h.2, trivial⟩⟩

/-- A service that was read has no handle beyond the numbers of a file. -/
theorem storable_of_ofJson {text : String} {s : Service} (ok : ofJson text = .ok s) :
    s.Storable := by
  obtain ⟨found, read, same⟩ := bind_eq_ok_iff.mp ok
  split at same
  · cases same
  · cases same
    exact codec.yields _ _ _ read

/-- A service is read back from the text that holds it. -/
theorem ofJson_fileText {s : Service} (h : s.Storable) : ofJson s.fileText = .ok s := by
  have back := codec.inverts s h ⟨0, false⟩ (by decide)
  simp only [ofJson, fileText, Reader.run, ofText_fileText, back]
  rfl

/-- The text of a file determines the service that it holds: the service read from it is the same.
The index of its registry is made anew from the members. Whatever the history of the registry was
that went into the file, the one that is read gives the same answers, now and after the same further
steps. -/
theorem fileText_determines {s : Service} (h : s.Storable) :
    (∃ loaded, ofJson s.fileText = .ok loaded ∧ loaded = s ∧
      ∀ steps later : List RegistryStep, (RegistryStep.applyAll steps {}).toRegistry = s.types →
        (RegistryStep.applyAll later (IndexedRegistry.ofList loaded.types.toList)).Alike
          (RegistryStep.applyAll later (RegistryStep.applyAll steps {}))) ∧
    ∀ other : Service, other.Storable → other.fileText = s.fileText → other = s := by
  have back := ofJson_fileText h
  refine ⟨⟨s, back, rfl, fun steps later reaches => ?_⟩, fun other hother same => ?_⟩
  · have indexed := IndexedRegistry.sound_of_history steps
    have rebuilt := IndexedRegistry.sound_ofList s.types.toList
    have members : (IndexedRegistry.ofList s.types.toList).members =
        (RegistryStep.applyAll steps {}).members := by
      rw [IndexedRegistry.members_ofList, ← reaches]
      rfl
    exact (rebuilt.applyAll later).alike (indexed.applyAll later)
      (rebuilt.members_applyAll indexed members later)
  · have read := ofJson_fileText hother
    rw [same, back] at read
    exact (Except.ok.inj read).symm

/-- Every kind of member, the largest handle, equal keys, and names that have to be escaped. -/
def storedService : Service where
  name := "Größe \"x\"\n\x01"
  methods := [
    { name := "List", kind := .paginated, paging := some { nextLinkName := some "next\\" },
      returnType := .response { body := some ⟨0⟩ } },
    { group := "G", name := "", description := "\t", kind := .paginatedLongRunning,
      returnType := .pagedOperation ⟨⟨1⟩, ⟨2⟩, ⟨TypeId.bound - 1⟩, some ⟨0⟩⟩ }]
  types := .ofList [
    .composite { name := "W", fields := [{ name := "id", fieldType := ⟨7⟩, required := true }] },
    .composite { name := "W", description := "again" },
    .ofPrimitive "string",
    .pollingHandle { name := "H", listAll := true, group := "", method := "m", result := some ⟨3⟩ },
    .pageIterator ⟨⟨TypeId.bound - 1⟩, true, ⟨⟨9⟩, false⟩⟩]

/-- A history whose last step makes the index anew. -/
def storedHistory : List RegistryStep := storedService.types.toList.map .add ++ [.rebuild]

/-- Both registries have `W` twice, and both give the first one. -/
theorem ofJson_fileText_storedService :
    storedService.Storable ∧
    (∃ loaded, ofJson storedService.fileText = .ok loaded ∧ loaded = storedService ∧
      (RegistryStep.applyAll storedHistory {}).toRegistry = storedService.types ∧
      (IndexedRegistry.ofList loaded.types.toList).Alike (RegistryStep.applyAll storedHistory {}) ∧
      (IndexedRegistry.ofList loaded.types.toList).canonicalOf (.ofComposite "W") = .ok ⟨0⟩) ∧
    ∀ other : Service, other.Storable → other.fileText = storedService.fileText →
      other = storedService := by
  have storable : storedService.Storable := ⟨by decide, by decide⟩
  have reaches : (RegistryStep.applyAll storedHistory {}).toRegistry = storedService.types := rfl
  obtain ⟨⟨loaded, read, same, answers⟩, unique⟩ := fileText_determines storable
  have alike := answers storedHistory [] reaches
  have first : (RegistryStep.applyAll storedHistory {}).canonicalOf (.ofComposite "W") =
      .ok ⟨0⟩ := by
    rw [(IndexedRegistry.sound_of_history storedHistory).canonicalOf_eq, reaches]
    decide
  exact ⟨storable,
    ⟨loaded, read, same, reaches, alike, (alike.canonicalOf _).trans first⟩, unique⟩

end Service

end WrapperSynthesis
