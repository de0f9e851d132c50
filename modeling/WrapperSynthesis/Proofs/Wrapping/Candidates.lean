import WrapperSynthesis.Wrapper.Candidate
import WrapperSynthesis.Proofs.Registry.Growth

/-! The candidates of a method that qualifies for its kind: its polling handles and then, for a
paginated kind, its page iterator (`candidates_of_qualified`). The polling handles of a registry
are looked up by their keys alone, so the look-up passes over all other members (`handle?_key`). -/

namespace WrapperSynthesis

/-- The naming that joins the parts of an identity as they are, so that methods of different
identities may ask for one handle. -/
def joinedName : Naming := String.join

/-- What identifies a polling handle. -/
def PollingHandle.key (h : PollingHandle) : TypeKey := .pollingHandle h.name h.listAll

@[simp] theorem ModelType.key_pollingHandle (h : PollingHandle) :
    (ModelType.pollingHandle h).key = h.key := rfl

@[simp] theorem ModelType.asPollingHandle?_eq_some {type : ModelType} {h : PollingHandle} :
    type.asPollingHandle? = some h ↔ type = .pollingHandle h := by
  cases type <;> simp [ModelType.asPollingHandle?]

theorem ModelType.exists_of_key_eq_pollingHandle {type : ModelType} {name : String} {listAll : Bool}
    (h : type.key = .pollingHandle name listAll) :
    ∃ found, type = .pollingHandle found ∧ found.name = name ∧ found.listAll = listAll := by
  cases type with
  | pollingHandle found =>
    simp only [ModelType.key, TypeKey.pollingHandle.injEq] at h
    exact ⟨found, rfl, h⟩
  | primitive | composite | pageIterator => cases h

theorem ModelType.exists_of_key_eq_pageIterator {type : ModelType} {element : TypeId}
    {needsPreparer : Bool} (h : type.key = .pageIterator element needsPreparer) :
    ∃ found, type = .pageIterator found ∧ found.element = element ∧
      found.needsPreparer = needsPreparer := by
  cases type with
  | pageIterator found =>
    simp only [ModelType.key, TypeKey.pageIterator.injEq] at h
    exact ⟨found, rfl, h⟩
  | primitive | composite | pollingHandle => cases h

namespace Registry

/-- The polling handles among the members, in order. -/
def handles (r : Registry) : List PollingHandle := r.members.filterMap ModelType.asPollingHandle?

/-- The canonical polling handle of a key. -/
def handle? (r : Registry) (key : TypeKey) : Option PollingHandle :=
  (r.canonical? key).bind ModelType.asPollingHandle?

theorem mem_handles {r : Registry} {h : PollingHandle} :
    h ∈ r.handles ↔ .pollingHandle h ∈ r.members := by
  simp [handles]

theorem handles_eq (r : Registry) : r.handles = r.pollingHandles.map Prod.snd := by
  have members : r.members = r.entries.map Prod.snd := by
    simp [entries, List.map_map, Function.comp_def]
  rw [handles, members, List.filterMap_map, pollingHandles, List.map_filterMap]
  congr 1
  funext ⟨id, type⟩
  cases type <;> rfl

end Registry

/-- In a list of types, the first one with the key of a polling handle is the first polling handle
with this key. -/
theorem find?_key_pollingHandle (types : List ModelType) (h : PollingHandle) :
    (types.find? fun type => type.key = h.key).bind ModelType.asPollingHandle? =
      (types.filterMap ModelType.asPollingHandle?).find? fun found => found.key = h.key := by
  induction types with
  | nil => rfl
  | cons type rest ih =>
    cases type with
    | pollingHandle found =>
      by_cases hk : found.key = h.key
      · simp [ModelType.asPollingHandle?, hk]
      · simpa [ModelType.asPollingHandle?, hk] using ih
    | primitive t | composite t | pageIterator t =>
      simpa [ModelType.key, PollingHandle.key, ModelType.asPollingHandle?] using ih

theorem Registry.handle?_key (r : Registry) (h : PollingHandle) :
    r.handle? h.key = r.handles.find? fun found => found.key = h.key :=
  find?_key_pollingHandle r.members h

theorem Registry.key_of_handle? {types : Registry} {h found : PollingHandle}
    (hf : types.handle? h.key = some found) : found.key = h.key := by
  rw [handle?_key] at hf
  simpa using List.find?_some hf

theorem Registry.get?_of_idOf?_key {types : Registry} {h found : PollingHandle} {id : TypeId}
    (hid : types.idOf? h.key = some id) (hf : types.handle? h.key = some found) :
    types.get? id = some (.pollingHandle found) := by
  obtain ⟨type, hget, hc, _⟩ := exists_of_idOf? hid
  rw [handle?, hc, Option.bind_some, ModelType.asPollingHandle?_eq_some] at hf
  rw [hget, hf]

theorem Registry.Grows.handle? {r r' : Registry} {key : TypeKey} {h : PollingHandle}
    (grows : r.Grows r') (found : r.handle? key = some h) : r'.handle? key = some h := by
  obtain ⟨type, hc, ht⟩ := Option.bind_eq_some_iff.mp found
  exact Option.bind_eq_some_iff.mpr ⟨type, grows.canonical? hc, ht⟩

/-- The canonical handle of a key is the registered one or else the first one among the
candidates. -/
theorem Registry.handle?_registerAll (types : Registry) (candidates : List ModelType)
    (h : PollingHandle) :
    (types.registerAll candidates).handle? h.key =
      (types.handle? h.key).or
        ((candidates.filterMap ModelType.asPollingHandle?).find? fun found =>
          found.key = h.key) := by
  rw [handle?, canonical?_registerAll, handle?, ← find?_key_pollingHandle]
  cases hc : types.canonical? h.key with
  | none => rfl
  | some type =>
    obtain ⟨found, rfl, _⟩ := ModelType.exists_of_key_eq_pollingHandle (key_of_canonical? hc)
    rfl

namespace OperationKind

@[simp] theorem isPaginated_plain : plain.isPaginated = false := rfl

@[simp] theorem isPaginated_paginated : paginated.isPaginated = true := rfl

@[simp] theorem isPaginated_longRunning : longRunning.isPaginated = false := rfl

@[simp] theorem isPaginated_paginatedLongRunning : paginatedLongRunning.isPaginated = true := rfl

@[simp] theorem isLongRunning_plain : plain.isLongRunning = false := rfl

@[simp] theorem isLongRunning_paginated : paginated.isLongRunning = false := rfl

@[simp] theorem isLongRunning_longRunning : longRunning.isLongRunning = true := rfl

@[simp] theorem isLongRunning_paginatedLongRunning :
    paginatedLongRunning.isLongRunning = true := rfl

theorem isPaginated_of_masked {kind : OperationKind} {pages longRunning : Bool}
    (h : (kind.masked pages longRunning).isPaginated = true) : kind.isPaginated = true := by
  cases kind <;> cases pages <;> cases longRunning <;> first | rfl | exact h

theorem isLongRunning_of_masked {kind : OperationKind} {pages longRunning : Bool}
    (h : (kind.masked pages longRunning).isLongRunning = true) : kind.isLongRunning = true := by
  cases kind <;> cases pages <;> cases longRunning <;> first | rfl | exact h

/-- The number of wrappers that a method of the kind asks for. -/
def wrapperCount : OperationKind → Nat
  | plain => 0
  | paginated | longRunning => 1
  | paginatedLongRunning => 3

theorem wrapperCount_le (kind : OperationKind) : kind.wrapperCount ≤ 3 := by
  cases kind <;> decide

end OperationKind

namespace Method

variable (naming : Naming)

/-- The polling handle that the method asks for. -/
def handle (m : Method) : PollingHandle :=
  { name := m.handleName naming, group := m.group, method := m.name, result := m.returnType.body }

/-- The list-all handle that the method asks for. -/
def listAllHandle (m : Method) : PollingHandle :=
  { name := m.listAllName naming, listAll := true, group := m.group, method := m.name,
    result := m.returnType.body }

/-- The polling handles that the method asks for when it is wrapped as the given kind. -/
def handles : OperationKind → Method → List PollingHandle
  | .plain, _ | .paginated, _ => []
  | .longRunning, m => [m.handle naming]
  | .paginatedLongRunning, m => [m.handle naming, m.listAllHandle naming]

/-- The page iterators that the method asks for when it is wrapped as the given kind. -/
def pagers (kind : OperationKind) (m : Method) : List PageIterator :=
  if kind.isPaginated then m.returnType.body.toList.map (.ofElement · m.needsPreparer) else []

/-- Why the method does not qualify for the given kind. -/
def unqualified? (kind : OperationKind) (m : Method) : Option WrapError :=
  if kind.isPaginated && !m.kind.isPaginated then
    some (.precondition m.qualifiedName .paginated)
  else if kind.isPaginated && m.returnType.body.isNone then
    some (.precondition m.qualifiedName .pageBody)
  else if kind.isLongRunning && !m.kind.isLongRunning then
    some (.precondition m.qualifiedName .longRunning)
  else none

variable {naming} {m : Method} {kind : OperationKind} {h : PollingHandle}

/-- Every polling handle that a method asks for names the method as its origin and the method's
body as its result. -/
theorem of_mem_handles (hm : h ∈ m.handles naming kind) :
    h.group = m.group ∧ h.method = m.name ∧ h.result = m.returnType.body := by
  cases kind with
  | plain | paginated => cases hm
  | longRunning =>
    rw [handles, List.mem_singleton] at hm
    subst hm
    exact ⟨rfl, rfl, rfl⟩
  | paginatedLongRunning =>
    simp only [handles, List.mem_cons, List.not_mem_nil, or_false] at hm
    rcases hm with rfl | rfl <;> exact ⟨rfl, rfl, rfl⟩

theorem origin_of_mem_handles (hm : h ∈ m.handles naming kind) : h.origin = m.qualifiedName := by
  obtain ⟨hg, hn, _⟩ := of_mem_handles hm
  rw [PollingHandle.origin, hg, hn]
  rfl

theorem isLongRunning_of_mem_handles (hm : h ∈ m.handles naming kind) :
    kind.isLongRunning = true := by
  cases kind with
  | plain | paginated => cases hm
  | longRunning | paginatedLongRunning => rfl

/-- The handles of one method differ in their list-all marker, so a key picks out one of them. -/
theorem find?_handles (hm : h ∈ m.handles naming kind) :
    ((m.handles naming kind).find? fun found => found.key = h.key) = some h := by
  cases kind with
  | plain | paginated => cases hm
  | longRunning =>
    rw [handles, List.mem_singleton] at hm
    subst hm
    simp [handles]
  | paginatedLongRunning =>
    simp only [handles, List.mem_cons, List.not_mem_nil, or_false] at hm
    rcases hm with rfl | rfl <;> simp [handles, handle, listAllHandle, PollingHandle.key]

theorem isPaginated_of_unqualified? (h : m.unqualified? kind = none)
    (hk : kind.isPaginated = true) : m.kind.isPaginated = true := by
  cases hn : m.kind.isPaginated with
  | true => rfl
  | false => simp [unqualified?, hk, hn] at h

theorem isLongRunning_of_unqualified? (h : m.unqualified? kind = none)
    (hk : kind.isLongRunning = true) : m.kind.isLongRunning = true := by
  cases hn : m.kind.isLongRunning with
  | true => rfl
  | false =>
    simp only [unqualified?, hk, hn] at h
    split at h
    · cases h
    · split at h <;> simp at h

theorem exists_body_of_unqualified? (h : m.unqualified? kind = none)
    (hk : kind.isPaginated = true) : ∃ element, m.returnType.body = some element := by
  cases hb : m.returnType.body with
  | some element => exact ⟨element, rfl⟩
  | none =>
    simp only [unqualified?, hk, hb] at h
    split at h <;> simp at h

theorem pageIterator_of_paginated (hk : m.kind.isPaginated = true) {element : TypeId}
    (hb : m.returnType.body = some element) :
    m.pageIterator = .ok (.ofElement element m.needsPreparer) := by
  simp [pageIterator, hk, hb]

theorem pollingHandle_none (hk : m.kind.isLongRunning = true) :
    m.pollingHandle naming none = .ok (m.handle naming) := by
  simp [pollingHandle, hk, handle]

theorem pollingHandle_listAllName (hk : m.kind.isLongRunning = true) :
    m.pollingHandle naming (some (m.listAllName naming)) = .ok (m.listAllHandle naming) := by
  simp [pollingHandle, hk, listAllHandle]

theorem pageIterator_of_unqualified? {e : WrapError} (h : m.unqualified? .paginated = some e) :
    m.pageIterator = .error e := by
  cases hk : m.kind.isPaginated with
  | false => simpa [unqualified?, pageIterator, hk] using h
  | true =>
    cases hb : m.returnType.body with
    | none => simpa [unqualified?, pageIterator, hk, hb] using h
    | some element => simp [unqualified?, hk, hb] at h

theorem pollingHandle_of_unqualified? {e : WrapError} (ownName : Option String)
    (h : m.unqualified? .longRunning = some e) : m.pollingHandle naming ownName = .error e := by
  cases hk : m.kind.isLongRunning with
  | false => simpa [unqualified?, pollingHandle, hk] using h
  | true => simp [unqualified?, hk] at h

/-- The composed kind asks first for what a paginated method needs. -/
theorem unqualified?_paginatedLongRunning (m : Method) :
    m.unqualified? .paginatedLongRunning =
      (m.unqualified? .paginated).or (m.unqualified? .longRunning) := by
  cases hp : m.kind.isPaginated <;> cases hb : m.returnType.body <;>
    simp [unqualified?, hp, hb]

theorem exists_of_pageIterator {p : PageIterator} (h : m.pageIterator = .ok p) :
    ∃ element, m.returnType.body = some element ∧ p = .ofElement element m.needsPreparer := by
  rw [pageIterator] at h
  split at h
  · cases hb : m.returnType.body with
    | none => rw [hb] at h; cases h
    | some element =>
      rw [hb] at h
      exact ⟨element, rfl, (Except.ok.inj h).symm⟩
  · cases h

theorem result_of_pollingHandle {ownName : Option String}
    (hp : m.pollingHandle naming ownName = .ok h) : h.result = m.returnType.body := by
  rw [pollingHandle] at hp
  split at hp
  · rw [← Except.ok.inj hp]
  · cases hp

theorem mem_toList_map_toOption {α β ε : Type} {built : Except ε α} {f : α → β} {b : β} :
    b ∈ (built.toOption.map f).toList ↔ ∃ a, built = .ok a ∧ b = f a := by
  cases built <;> simp [Except.toOption]

/-- A candidate is a polling handle or a page iterator that could be built. -/
theorem exists_of_mem_candidates {type : ModelType} (ht : type ∈ m.candidates naming kind) :
    (∃ ownName h, m.pollingHandle naming ownName = .ok h ∧ type = .pollingHandle h) ∨
      ∃ p, m.pageIterator = .ok p ∧ type = .pageIterator p := by
  cases kind with
  | plain => cases ht
  | paginated => exact .inr (mem_toList_map_toOption.mp ht)
  | longRunning => exact .inl ⟨none, mem_toList_map_toOption.mp ht⟩
  | paginatedLongRunning =>
    simp only [candidates, List.mem_append] at ht
    rcases ht with (ht | ht) | ht
    · exact .inl ⟨none, mem_toList_map_toOption.mp ht⟩
    · exact .inl ⟨_, mem_toList_map_toOption.mp ht⟩
    · exact .inr (mem_toList_map_toOption.mp ht)

theorem isSynthetic_of_mem_candidates {type : ModelType} (ht : type ∈ m.candidates naming kind) :
    type.isSynthetic = true := by
  obtain ⟨_, _, _, rfl⟩ | ⟨_, _, rfl⟩ := exists_of_mem_candidates ht <;> rfl

theorem length_toList_map_toOption_le {α β ε : Type} (built : Except ε α) (f : α → β) :
    (built.toOption.map f).toList.length ≤ 1 := by
  cases built <;> simp [Except.toOption]

theorem length_candidates_le (naming : Naming) (kind : OperationKind) (m : Method) :
    (m.candidates naming kind).length ≤ kind.wrapperCount := by
  have handle (ownName : Option String) :=
    length_toList_map_toOption_le (m.pollingHandle naming ownName) ModelType.pollingHandle
  have pager := length_toList_map_toOption_le m.pageIterator ModelType.pageIterator
  cases kind with
  | plain => exact Nat.le_refl 0
  | paginated => exact pager
  | longRunning => exact handle none
  | paginatedLongRunning =>
    have := handle none
    have := handle (some (m.listAllName naming))
    simp only [candidates, List.length_append, OperationKind.wrapperCount]
    omega

theorem filterMap_candidates
    (hk : kind.isLongRunning = true → m.kind.isLongRunning = true) :
    (m.candidates naming kind).filterMap ModelType.asPollingHandle? = m.handles naming kind := by
  have pagers : ∀ found : Option PageIterator,
      (found.map ModelType.pageIterator).toList.filterMap ModelType.asPollingHandle? = [] := by
    intro found
    cases found <;> rfl
  cases kind with
  | plain => rfl
  | paginated => simp only [candidates, pagers, handles]
  | longRunning =>
    simp [candidates, pollingHandle_none (hk rfl), handles, Except.toOption,
      ModelType.asPollingHandle?]
  | paginatedLongRunning =>
    simp [candidates, pollingHandle_none (hk rfl), pollingHandle_listAllName (hk rfl), handles,
      pagers, Except.toOption, ModelType.asPollingHandle?]

/-- A method that qualifies asks for its polling handles and then for its page iterator. -/
theorem candidates_of_qualified (h : m.unqualified? kind = none) :
    m.candidates naming kind =
      (m.handles naming kind).map .pollingHandle ++ (m.pagers kind).map .pageIterator := by
  cases kind with
  | plain => rfl
  | paginated =>
    obtain ⟨element, hb⟩ := exists_body_of_unqualified? h rfl
    have hp := pageIterator_of_paginated (isPaginated_of_unqualified? h rfl) hb
    simp [candidates, hp, handles, pagers, hb, Except.toOption]
  | longRunning =>
    have hl := isLongRunning_of_unqualified? h rfl
    simp [candidates, pollingHandle_none hl, handles, pagers, Except.toOption]
  | paginatedLongRunning =>
    obtain ⟨element, hb⟩ := exists_body_of_unqualified? h rfl
    have hp := pageIterator_of_paginated (isPaginated_of_unqualified? h rfl) hb
    have hl := isLongRunning_of_unqualified? h rfl
    simp [candidates, hp, pollingHandle_none hl, pollingHandle_listAllName hl, handles, pagers, hb,
      Except.toOption]

end Method

end WrapperSynthesis
