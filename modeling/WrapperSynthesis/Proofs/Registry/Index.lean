import WrapperSynthesis.Model.IndexedRegistry
import WrapperSynthesis.Proofs.Registry.Growth
import WrapperSynthesis.Proofs.Result

/-! The index of a registry says what the members say: it has every key of a member, and with it the
first member that has this key (`IndexedRegistry.Sound`). Each step in the history of a registry
keeps this (`Sound.apply`), and what the step does to the members depends on the members alone
(`Sound.members_apply`). So registries that are equal by their members cannot be told apart,
whatever their histories were (`canonical_of_history`). -/

namespace WrapperSynthesis

/-- A step in the history of a registry. -/
inductive RegistryStep where
  | add (type : ModelType)
  | register (candidate : ModelType)
  /-- Turns the registry into a list and the list into a registry. -/
  | rebuild
  /-- Reads another registry from a text. If the text cannot be read, nothing changes. -/
  | load (text : String)

namespace RegistryStep

def apply : RegistryStep → IndexedRegistry → IndexedRegistry
  | add type, r => (r.add type).2
  | register candidate, r => (r.register candidate).2
  | rebuild, r => .ofList r.toList
  | load text, r =>
    match Json.Reader.run IndexedRegistry.read text with
    | .ok loaded => loaded
    | .error _ => r

def applyAll (steps : List RegistryStep) (r : IndexedRegistry) : IndexedRegistry :=
  steps.foldl (fun r step => step.apply r) r

/-- All steps but loading go on with the registry that is there. -/
def GoesOn : RegistryStep → Prop
  | load _ => False
  | add _ | register _ | rebuild => True

end RegistryStep

namespace Registry

variable {r : Registry} {key : TypeKey} {id : TypeId}

theorem idOf?_add (r : Registry) (type : ModelType) (key : TypeKey) :
    (r.add type).2.idOf? key =
      (r.idOf? key).or (if type.key = key then some ⟨r.size⟩ else none) := by
  simp only [idOf?, add, List.findIdx?_append, List.findIdx?_singleton, size]
  cases r.members.findIdx? fun t => decide (t.key = key) with
  | some i => rfl
  | none => by_cases same : type.key = key <;> simp [same]

theorem forall_key_ne_iff : (∀ type ∈ r.members, type.key ≠ key) ↔ r.idOf? key = none := by
  simp [idOf?]

/-- The canonical member of a key is the one with the lowest handle. -/
theorem index_le_of_idOf? (h : r.idOf? key = some id) {other : TypeId} {type : ModelType}
    (found : r.get? other = some type) (same : type.key = key) : id.index ≤ other.index := by
  simp only [idOf?, Option.map_eq_some_iff] at h
  obtain ⟨i, first, rfl⟩ := h
  obtain ⟨_, _, before⟩ := List.findIdx?_eq_some_iff_getElem.mp first
  obtain ⟨bound, here⟩ := List.getElem?_eq_some_iff.mp found
  refine Nat.le_of_not_lt fun lower => before other.index lower ?_
  rw [here, same]
  exact decide_eq_true rfl

end Registry

namespace IndexedRegistry

variable {r r' : IndexedRegistry} {candidate : ModelType} {id : TypeId}

theorem toRegistry_add (r : IndexedRegistry) (type : ModelType) :
    (r.add type).2.toRegistry = (r.toRegistry.add type).2 := rfl

theorem beq_iff : (r == r') = true ↔ r.members = r'.members :=
  @beq_iff_eq _ _ _ r.members r'.members

/-- The index has the first member of each key, and no other key. -/
def Sound (r : IndexedRegistry) : Prop := ∀ key, r.index[key]? = r.toRegistry.idOf? key

theorem sound_empty : ({} : IndexedRegistry).Sound := by
  intro key
  exact Std.HashMap.getElem?_empty

theorem Sound.add (sound : r.Sound) (type : ModelType) : (r.add type).2.Sound := by
  intro key
  have before := sound key
  have new : type.key ∈ r.index ↔ r.toRegistry.idOf? type.key ≠ none := by
    rw [Std.HashMap.mem_iff_isSome_getElem?, sound type.key, Option.isSome_iff_ne_none]
  rw [toRegistry_add, Registry.idOf?_add]
  simp only [IndexedRegistry.add, Std.HashMap.getElem?_insertIfNew, new, before, beq_iff_eq]
  by_cases same : type.key = key
  · subst same
    cases h : r.toRegistry.idOf? type.key with
    | some id => simp
    | none =>
      have size : r.toRegistry.size = r.members.length := rfl
      simp [size]
  · simp [same]

/-! ### Answers by the members alone -/

namespace Sound

theorem canonicalOf_eq (sound : r.Sound) (candidate : ModelType) :
    r.canonicalOf candidate = r.toRegistry.canonicalOf candidate := by
  have indexed := sound candidate.key
  cases found : r.toRegistry.idOf? candidate.key <;>
    simp only [IndexedRegistry.canonicalOf, Registry.canonicalOf, indexed, found]

theorem contains_eq (sound : r.Sound) (candidate : ModelType) :
    r.contains candidate = r.toRegistry.contains candidate := by
  rw [IndexedRegistry.contains, Std.HashMap.contains_eq_isSome_getElem?, sound, Registry.contains]

theorem register_eq (sound : r.Sound) (candidate : ModelType) :
    (r.register candidate).1 = (r.toRegistry.register candidate).1 ∧
      (r.register candidate).2.toRegistry = (r.toRegistry.register candidate).2 := by
  rw [IndexedRegistry.register, sound.canonicalOf_eq, Registry.canonicalOf, Registry.register]
  cases r.toRegistry.idOf? candidate.key <;> exact ⟨rfl, rfl⟩

theorem register (sound : r.Sound) (candidate : ModelType) : (r.register candidate).2.Sound := by
  rw [IndexedRegistry.register]
  cases r.canonicalOf candidate with
  | ok id => exact sound
  | error key => exact sound.add candidate

end Sound

/-- Adding the types of a list one by one keeps the index sound and appends the list. -/
theorem Sound.foldl_add (sound : r.Sound) (types : List ModelType) :
    (types.foldl (fun r type => (r.add type).2) r).Sound ∧
      (types.foldl (fun r type => (r.add type).2) r).members = r.members ++ types := by
  induction types generalizing r with
  | nil => exact ⟨sound, (List.append_nil _).symm⟩
  | cons type rest ih =>
    obtain ⟨sound', members⟩ := ih (sound.add type)
    refine ⟨sound', ?_⟩
    rw [List.foldl_cons, members]
    exact List.append_assoc r.members [type] rest

theorem sound_ofList (types : List ModelType) : (ofList types).Sound :=
  (sound_empty.foldl_add types).1

theorem members_ofList (types : List ModelType) : (ofList types).members = types :=
  (sound_empty.foldl_add types).2

theorem exists_eq_ofList_of_run {text : String} (h : Json.Reader.run read text = .ok r) :
    ∃ types, r = ofList types := by
  obtain ⟨loaded, found, rest⟩ := bind_eq_ok_iff.mp h
  obtain ⟨types, _, rfl⟩ := map_eq_ok_iff.mp found
  split at rest
  · cases rest
  · cases rest
    exact ⟨types, rfl⟩

/-! ### One step -/

namespace Sound

theorem apply (sound : r.Sound) (step : RegistryStep) : (step.apply r).Sound := by
  cases step with
  | add type => exact sound.add type
  | register candidate => exact sound.register candidate
  | rebuild => exact sound_ofList r.toList
  | load text =>
    rw [RegistryStep.apply]
    split
    · rename_i loaded found
      obtain ⟨types, rfl⟩ := exists_eq_ofList_of_run found
      exact sound_ofList types
    · exact sound

theorem members_apply (sound : r.Sound) (sound' : r'.Sound) (same : r.members = r'.members)
    (step : RegistryStep) : (step.apply r).members = (step.apply r').members := by
  cases step with
  | add type => exact congrArg (· ++ [type]) same
  | register candidate =>
    have registries : r.toRegistry = r'.toRegistry := congrArg Registry.ofList same
    have registered := (sound.register_eq candidate).2
    rw [registries, ← (sound'.register_eq candidate).2] at registered
    exact congrArg Registry.members registered
  | rebuild => exact congrArg (fun members => (ofList members).members) same
  | load text =>
    rw [RegistryStep.apply, RegistryStep.apply]
    split
    · rfl
    · exact same

theorem grows_apply (sound : r.Sound) {step : RegistryStep} (goesOn : step.GoesOn) :
    r.toRegistry.Grows (step.apply r).toRegistry := by
  cases step with
  | add type => exact List.prefix_append ..
  | register candidate =>
    have registered := (sound.register_eq candidate).2
    rw [RegistryStep.apply, registered]
    exact Registry.grows_register r.toRegistry candidate
  | rebuild =>
    exact ⟨[], (List.append_nil r.members).trans (members_ofList r.members).symm⟩
  | load text => exact goesOn.elim

/-! ### A whole history -/

theorem applyAll (sound : r.Sound) (steps : List RegistryStep) :
    (RegistryStep.applyAll steps r).Sound := by
  induction steps generalizing r with
  | nil => exact sound
  | cons step rest ih => exact ih (sound.apply step)

theorem members_applyAll (sound : r.Sound) (sound' : r'.Sound) (same : r.members = r'.members)
    (steps : List RegistryStep) :
    (RegistryStep.applyAll steps r).members = (RegistryStep.applyAll steps r').members := by
  induction steps generalizing r r' with
  | nil => exact same
  | cons step rest ih =>
    exact ih (sound.apply step) (sound'.apply step) (sound.members_apply sound' same step)

theorem grows_applyAll (sound : r.Sound) {steps : List RegistryStep}
    (goOn : ∀ step ∈ steps, step.GoesOn) :
    r.toRegistry.Grows (RegistryStep.applyAll steps r).toRegistry := by
  induction steps generalizing r with
  | nil => exact Registry.Grows.refl _
  | cons step rest ih =>
    have first := sound.grows_apply (goOn step List.mem_cons_self)
    exact first.trans (ih (sound.apply step) fun later h => goOn later (List.mem_cons_of_mem _ h))

end Sound

theorem sound_of_history (steps : List RegistryStep) : (RegistryStep.applyAll steps {}).Sound :=
  sound_empty.applyAll steps

/-! ### What a registry can be asked -/

/-- `id` is the lowest handle of a member with the given key. -/
def IsLowest (r : IndexedRegistry) (key : TypeKey) (id : TypeId) : Prop :=
  (∃ type, r.get? id = some type ∧ type.key = key) ∧
    ∀ other type, r.get? other = some type → type.key = key → id.index ≤ other.index

/-- The registries give the same answers. -/
structure Alike (r r' : IndexedRegistry) : Prop where
  get? : ∀ id, r.get? id = r'.get? id
  contains : ∀ candidate, r.contains candidate = r'.contains candidate
  canonicalOf : ∀ candidate, r.canonicalOf candidate = r'.canonicalOf candidate
  register : ∀ candidate, (r.register candidate).1 = (r'.register candidate).1

theorem isLowest_iff {key : TypeKey} : r.IsLowest key id ↔ r.toRegistry.idOf? key = some id := by
  constructor
  · rintro ⟨⟨type, found, same⟩, lowest⟩
    cases h : r.toRegistry.idOf? key with
    | none =>
      have member : type ∈ r.members := List.mem_of_getElem? found
      exact absurd same (Registry.forall_key_ne_iff.mpr h type member)
    | some first =>
      obtain ⟨type', found', _, same'⟩ := Registry.exists_of_idOf? h
      have le := lowest first type' found' same'
      have ge := Registry.index_le_of_idOf? h found same
      exact congrArg some (congrArg TypeId.mk (Nat.le_antisymm ge le))
  · intro h
    obtain ⟨type, found, _, same⟩ := Registry.exists_of_idOf? h
    exact ⟨⟨type, found, same⟩, fun _ _ => Registry.index_le_of_idOf? h⟩

theorem Sound.alike (sound : r.Sound) (sound' : r'.Sound) (same : r.members = r'.members) :
    r.Alike r' := by
  have registries : r.toRegistry = r'.toRegistry := congrArg Registry.ofList same
  refine ⟨?_, ?_, ?_, ?_⟩
  · intro id
    rw [get?, get?, same]
  · intro candidate
    rw [sound.contains_eq, sound'.contains_eq, registries]
  · intro candidate
    rw [sound.canonicalOf_eq, sound'.canonicalOf_eq, registries]
  · intro candidate
    rw [(sound.register_eq candidate).1, (sound'.register_eq candidate).1, registries]

/-- What a registry answers, whatever its history was. The canonical member of a key is the first
one that has it, and a key without members is reported as missing. A handle keeps its member as long
as the history goes on with the registry. Registries with the same members give the same answers,
now and after the same further steps, and so does a registry that is made anew from its list. -/
theorem canonical_of_history (steps : List RegistryStep) :
    let r := RegistryStep.applyAll steps {}
    (∀ candidate id, r.canonicalOf candidate = .ok id ↔ r.IsLowest candidate.key id) ∧
    (∀ candidate key, r.canonicalOf candidate = .error key ↔
      key = candidate.key ∧ ∀ type ∈ r.members, type.key ≠ candidate.key) ∧
    (∀ candidate, r.contains candidate = true ↔ ∃ id, r.canonicalOf candidate = .ok id) ∧
    (∀ type, (r.add type).2.get? (r.add type).1 = some type) ∧
    (∀ later, (∀ step ∈ later, step.GoesOn) → ∀ id type, r.get? id = some type →
      (RegistryStep.applyAll later r).get? id = some type) ∧
    (∀ steps', (r == RegistryStep.applyAll steps' {}) = true → ∀ later,
      let s := RegistryStep.applyAll later r
      let s' := RegistryStep.applyAll later (RegistryStep.applyAll steps' {})
      (s == s') = true ∧ s.Alike s') ∧
    (ofList r.toList == r) = true ∧ (ofList r.toList).Alike r := by
  intro r
  have sound : r.Sound := sound_of_history steps
  refine ⟨?_, ?_, ?_, ?_, ?_, ?_, ?_⟩
  · intro candidate id
    rw [sound.canonicalOf_eq, Registry.canonicalOf_eq_ok_iff, isLowest_iff]
  · intro candidate key
    have absent : (∀ type ∈ r.members, type.key ≠ candidate.key) ↔
        r.toRegistry.idOf? candidate.key = none := @Registry.forall_key_ne_iff r.toRegistry _
    rw [absent, sound.canonicalOf_eq, Registry.canonicalOf_eq_error_iff]
  · intro candidate
    simp only [sound.contains_eq, sound.canonicalOf_eq, Registry.canonicalOf_eq_ok_iff]
    exact Option.isSome_iff_exists
  · exact Registry.get?_add_self r.toRegistry
  · intro later goOn id type found
    exact (sound.grows_applyAll goOn).get? found
  · intro steps' equal later
    have sound' := sound_of_history steps'
    have same := sound.members_applyAll sound' (beq_iff.mp equal) later
    exact ⟨beq_iff.mpr same, (sound.applyAll later).alike (sound'.applyAll later) same⟩
  · have same : (ofList r.toList).members = r.members := members_ofList r.members
    exact ⟨beq_iff.mpr same, (sound_ofList r.toList).alike sound same⟩

/-! ### A registry that holds a key twice -/

/-- `Widget` is there twice, with other fields the second time. -/
def repeatedTypes : List ModelType :=
  [.ofComposite "Widget", .ofPrimitive "string",
    .composite { name := "Widget", fields := [{ name := "title", fieldType := ⟨1⟩ }] }]

/-- The same types as a file spells them. -/
def repeatedTypesText : String :=
  "[[\"composite\", \"Widget\"], [\"primitive\", \"string\"], " ++
    "[\"composite\", \"Widget\", \"\", [[\"title\", 1]]]]"

theorem canonical_of_repeatedTypes :
    let r := RegistryStep.applyAll (repeatedTypes.map .add) {}
    let r' := RegistryStep.applyAll [.load repeatedTypesText, .rebuild] {}
    let later := [.register (.pageIterator (.ofElement ⟨2⟩ false)), .rebuild]
    (r == r') = true ∧ (∀ step ∈ later, RegistryStep.GoesOn step) ∧
    r.canonicalOf (.ofComposite "Widget") = .ok ⟨0⟩ ∧
    (RegistryStep.applyAll later r).get? ⟨2⟩ = r.get? ⟨2⟩ ∧
    (RegistryStep.applyAll later r).Alike (RegistryStep.applyAll later r') := by
  intro r r' later
  have equal : (r == r') = true := by decide +kernel
  have goOn : ∀ step ∈ later, RegistryStep.GoesOn step := by
    simp only [later, List.mem_cons, List.not_mem_nil, or_false, forall_eq_or_imp, forall_eq]
    exact ⟨trivial, trivial⟩
  obtain ⟨canonical, _, _, _, keeps, alike, _⟩ := canonical_of_history (repeatedTypes.map .add)
  refine ⟨equal, goOn, (canonical _ _).mpr ?_, keeps later goOn ⟨2⟩ _ rfl, ?_⟩
  · exact ⟨⟨_, rfl, rfl⟩, fun _ _ _ _ => Nat.zero_le _⟩
  · exact (alike [.load repeatedTypesText, .rebuild] equal later).2

end IndexedRegistry

end WrapperSynthesis
