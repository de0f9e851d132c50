import WrapperSynthesis.Proofs.Pass.FirstRefusal

/-! What becomes of a return type that points at nothing. The working copy is checked when all
wrappers are registered, so a reference beyond the end of the registry that went in may point at a
wrapper by then, and one that a long-running method drops is not looked at. These are the only two
ways in which a pass accepts such a service (`exists_ok_iff`). -/

namespace WrapperSynthesis

/-- The handle points at nothing before the pass, and at a wrapper for some method after it. -/
def Service.Captures (naming : Naming) (settings : GenerationSettings) (s : Service) (id : TypeId) :
    Prop :=
  s.types.hasId id = false ∧ ∃ wrapper ∈ candidatesOf naming settings s.methods,
    (s.types.registerAll (candidatesOf naming settings s.methods)).get? id = some wrapper

variable {naming : Naming} {settings : GenerationSettings}

theorem Registry.get?_registerAll_of_not_hasId {types : Registry} {candidates : List ModelType}
    {id : TypeId} {type : ModelType} (unknown : types.hasId id = false)
    (found : (types.registerAll candidates).get? id = some type) : type ∈ candidates := by
  have beyond : types.members.length ≤ id.index := by
    rw [← Bool.not_eq_true, hasId_iff] at unknown
    exact Nat.le_of_not_lt unknown
  rw [get?, members_registerAll, List.getElem?_append_right beyond] at found
  exact (of_mem_newcomers (List.mem_of_getElem? found)).1

theorem hasId_registerAll_iff {s : Service} {id : TypeId} :
    (s.types.registerAll (candidatesOf naming settings s.methods)).hasId id = true ↔
      s.types.hasId id = true ∨ s.Captures naming settings id := by
  constructor
  · intro known
    obtain ⟨type, found⟩ := Registry.hasId_eq_true_iff.mp known
    cases before : s.types.hasId id with
    | true => exact .inl rfl
    | false =>
      have wrapper := Registry.get?_registerAll_of_not_hasId before found
      exact .inr ⟨before, type, wrapper, found⟩
  · rintro (known | ⟨_, wrapper, _, found⟩)
    · exact (Registry.grows_registerAll _ _).hasId known
    · exact Registry.hasId_of_get? found

/-- Which services a pass accepts. A reference that points at nothing is accepted when the pass
puts a wrapper in its place or forgets it. -/
theorem exists_ok_iff (s : Service) :
    (∃ report s', (Service.augment naming settings).run s = .ok report s') ↔
      (∀ m ∈ s.methods, ¬ s.Bad naming settings m) ∧
      (s.methods.map Method.identity).Nodup ∧
      (∀ m ∈ s.methods, settings.kindOf m = .plain →
        (s.types.registerAll (candidatesOf naming settings s.methods)).FitsSlots m.returnType) ∧
      (∀ type ∈ s.types.members, ∀ target, type.target? = some target →
        s.types.hasId target = true ∨ s.Captures naming settings target) ∧
      ∀ m ∈ s.methods, ∀ id ∈ m.returnType.referenced,
        s.types.hasId id = true ∨ s.Captures naming settings id ∨
          m.Forgets naming settings s.types id := by
  rw [exists_ok_iff_survives, firstRefusal?_eq_none_iff]
  refine and_congr_right fun _ => ⟨?_, ?_⟩
  · rintro ⟨distinct, targets, references, slots⟩
    simp only [hasId_registerAll_iff, or_assoc] at targets references
    exact ⟨distinct, slots, targets, references⟩
  · rintro ⟨distinct, slots, targets, references⟩
    refine ⟨distinct, ?_, ?_, slots⟩
    · simp only [hasId_registerAll_iff]
      exact targets
    · simp only [hasId_registerAll_iff, or_assoc]
      exact references

/-! ### Dangling references that a pass accepts -/

/-- The body of `Get` points at nothing until `List` has its page iterator. -/
def capturingService : Service where
  name := "widgets"
  methods := [
    { name := "Get", returnType := .response ⟨some ⟨1⟩, none⟩ },
    { name := "List", kind := .paginated, returnType := .response ⟨some ⟨0⟩, none⟩ }]
  types := .ofList [.ofComposite "Widget"]

theorem exists_ok_capturingService :
    ∃ report s', (Service.augment joinedName {}).run capturingService = .ok report s' ∧
      ∃ m ∈ capturingService.methods, ∃ id ∈ m.returnType.referenced,
        capturingService.types.hasId id = false :=
  ⟨_, _, rfl, _, List.mem_cons_self, ⟨1⟩, by decide, rfl⟩

/-- `Create` is long-running and returns three wrappers that do not exist. -/
def forgettingService : Service where
  name := "widgets"
  methods := [
    { name := "Create", kind := .longRunning,
      returnType := .pagedOperation ⟨⟨40⟩, ⟨41⟩, ⟨42⟩, none⟩ }]
  types := .ofList [.ofComposite "Widget"]

theorem exists_ok_forgettingService :
    ∃ report s', (Service.augment joinedName {}).run forgettingService = .ok report s' ∧
      ∃ m ∈ forgettingService.methods, ∃ id ∈ m.returnType.referenced,
        forgettingService.types.hasId id = false :=
  ⟨_, _, rfl, _, List.mem_cons_self, ⟨40⟩, by decide, rfl⟩

/-- The body of `Create` points at nothing, and its handle is there already with another result. -/
def replacingService : Service where
  name := "widgets"
  methods := [
    { name := "Create", kind := .longRunning, returnType := .response ⟨some ⟨42⟩, none⟩ }]
  types := .ofList [.ofComposite "Widget",
    .pollingHandle { name := "Create", group := "", method := "Create", result := some ⟨0⟩ }]

theorem exists_ok_replacingService :
    ∃ report s', (Service.augment joinedName {}).run replacingService = .ok report s' ∧
      ∃ m ∈ replacingService.methods, ∃ id ∈ m.returnType.referenced,
        replacingService.types.hasId id = false :=
  ⟨_, _, rfl, _, List.mem_cons_self, ⟨42⟩, by decide, rfl⟩

end WrapperSynthesis
