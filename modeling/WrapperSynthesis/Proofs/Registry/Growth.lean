import WrapperSynthesis.Model.Registry

/-! How a registry grows. Types are only appended, so a handle keeps its member and a key keeps its
canonical handle (`Grows.get?`, `Grows.idOf?`). Registering a list of candidates appends those with
a new key (`members_registerAll`) and leaves, for every key, the member that comes first in the old
members followed by the candidates (`canonical?_registerAll`). Growth is what rows of single
additions lead to (`grows_iff_exists_additions`). -/

namespace WrapperSynthesis.Registry

/-- `r'` begins with the members of `r`. -/
def Grows (r r' : Registry) : Prop := r.members <+: r'.members

variable {r r' r'' : Registry} {id : TypeId} {key : TypeKey} {type : ModelType}

theorem Grows.refl (r : Registry) : r.Grows r := List.prefix_rfl

theorem Grows.trans (h1 : r.Grows r') (h2 : r'.Grows r'') : r.Grows r'' :=
  List.IsPrefix.trans h1 h2

theorem Grows.size_le (h : r.Grows r') : r.size ≤ r'.size := h.length_le

theorem Grows.get? (h : r.Grows r') (found : r.get? id = some type) : r'.get? id = some type := by
  obtain ⟨more, hm⟩ := h
  obtain ⟨bound, _⟩ := List.getElem?_eq_some_iff.mp found
  rw [Registry.get?, ← hm, List.getElem?_append_left bound]
  exact found

theorem hasId_iff : r.hasId id = true ↔ id.index < r.size := by
  simp [hasId, Registry.get?, size]

theorem hasId_of_get? (found : r.get? id = some type) : r.hasId id = true := by
  simp [hasId, found]

theorem Grows.hasId (h : r.Grows r') (known : r.hasId id = true) : r'.hasId id = true := by
  rw [hasId_iff] at known ⊢
  exact Nat.lt_of_lt_of_le known h.size_le

theorem Grows.idOf? (h : r.Grows r') (found : r.idOf? key = some id) : r'.idOf? key = some id := by
  obtain ⟨more, hm⟩ := h
  simp only [Registry.idOf?, Option.map_eq_some_iff] at found ⊢
  obtain ⟨i, hi, rfl⟩ := found
  exact ⟨i, by simp [← hm, List.findIdx?_append, hi], rfl⟩

theorem Grows.get?_eq (h : r.Grows r') (known : r.hasId id = true) : r'.get? id = r.get? id := by
  obtain ⟨type, found⟩ := Option.isSome_iff_exists.mp known
  rw [found, h.get? found]

/-! ### Canonical members -/

/-- The canonical member of a key. -/
def canonical? (r : Registry) (key : TypeKey) : Option ModelType :=
  r.members.find? fun type => type.key = key

theorem canonical?_eq_none_iff : r.canonical? key = none ↔ r.idOf? key = none := by
  simp [canonical?, Registry.idOf?]

theorem get?_idOf? (r : Registry) (key : TypeKey) :
    (r.idOf? key).bind r.get? = r.canonical? key := by
  obtain ⟨members⟩ := r
  simp only [Registry.idOf?, canonical?]
  induction members with
  | nil => rfl
  | cons type rest ih =>
    by_cases h : type.key = key
    · simp [List.findIdx?_cons, h, Registry.get?]
    · simp only [List.findIdx?_cons, h, decide_false, Bool.false_eq_true, ite_false,
        List.find?_cons_of_neg, not_false_eq_true]
      rw [← ih]
      cases rest.findIdx? fun type => decide (type.key = key) <;> simp [Registry.get?]

theorem key_of_canonical? (h : r.canonical? key = some type) : type.key = key := by
  simpa using List.find?_some h

theorem exists_of_idOf? (h : r.idOf? key = some id) :
    ∃ type, r.get? id = some type ∧ r.canonical? key = some type ∧ type.key = key := by
  have hget := r.get?_idOf? key
  rw [h, Option.bind_some] at hget
  cases hc : r.canonical? key with
  | none => rw [canonical?_eq_none_iff, h] at hc; cases hc
  | some type => exact ⟨type, hget.trans hc, rfl, key_of_canonical? hc⟩

theorem hasId_of_idOf? (h : r.idOf? key = some id) : r.hasId id = true := by
  obtain ⟨type, found, _⟩ := exists_of_idOf? h
  exact hasId_of_get? found

/-- A handle is canonical for one key at most. -/
theorem key_eq_of_idOf? {key' : TypeKey} (h : r.idOf? key = some id)
    (h' : r.idOf? key' = some id) : key = key' := by
  obtain ⟨found, hf, _, rfl⟩ := exists_of_idOf? h
  obtain ⟨found', hf', _, rfl⟩ := exists_of_idOf? h'
  rw [hf, Option.some.injEq] at hf'
  rw [hf']

theorem Grows.canonical? (h : r.Grows r') (found : r.canonical? key = some type) :
    r'.canonical? key = some type := by
  obtain ⟨more, hm⟩ := h
  rw [Registry.canonical?] at found ⊢
  rw [← hm, List.find?_append, found, Option.some_or]

theorem mem_of_get? (h : r.get? id = some type) : type ∈ r.members := List.mem_of_getElem? h

theorem canonicalOf_eq_ok_iff : r.canonicalOf type = .ok id ↔ r.idOf? type.key = some id := by
  rw [canonicalOf]
  cases r.idOf? type.key <;> simp

theorem canonicalOf_eq_error_iff :
    r.canonicalOf type = .error key ↔ key = type.key ∧ r.idOf? type.key = none := by
  rw [canonicalOf]
  cases r.idOf? type.key <;> simp [eq_comm]

/-! ### Registering one candidate -/

theorem register_of_idOf? (h : r.idOf? type.key = some id) : r.register type = (id, r) := by
  simp [register, h]

theorem register_of_none (h : r.idOf? type.key = none) :
    r.register type = (⟨r.size⟩, ⟨r.members ++ [type]⟩) := by
  simp [register, h, add]

theorem grows_register (r : Registry) (type : ModelType) : r.Grows (r.register type).2 := by
  cases h : r.idOf? type.key with
  | some id => rw [register_of_idOf? h]; exact Grows.refl r
  | none => rw [register_of_none h]; exact List.prefix_append ..

theorem size_register_le (r : Registry) (type : ModelType) :
    (r.register type).2.size ≤ r.size + 1 := by
  cases h : r.idOf? type.key with
  | some id => simp [register_of_idOf? h]
  | none => simp [register_of_none h, size]

/-- Registration returns the canonical handle of the candidate in the registry that it leaves. -/
theorem idOf?_register (r : Registry) (type : ModelType) :
    (r.register type).2.idOf? type.key = some (r.register type).1 := by
  cases h : r.idOf? type.key with
  | some id => rw [register_of_idOf? h]; exact h
  | none =>
    have absent : r.members.findIdx? (fun t => decide (t.key = type.key)) = none := by
      simpa [Registry.idOf?] using h
    rw [register_of_none h]
    simp [Registry.idOf?, List.findIdx?_append, absent, size]

theorem canonical?_register (r : Registry) (type : ModelType) (key : TypeKey) :
    (r.register type).2.canonical? key =
      (r.canonical? key).or (if type.key = key then some type else none) := by
  cases h : r.idOf? type.key with
  | none => rw [register_of_none h]; simp [canonical?, List.find?_append, List.find?_singleton]
  | some id =>
    rw [register_of_idOf? h]
    by_cases hk : type.key = key
    · obtain ⟨found, _, hc, _⟩ := exists_of_idOf? h
      rw [hk] at hc
      simp [hc]
    · simp [hk]

/-! ### Registering a list of candidates -/

/-- The registry after the candidates are registered in order. -/
def registerAll (r : Registry) (candidates : List ModelType) : Registry :=
  candidates.foldl (fun r type => (r.register type).2) r

@[simp] theorem registerAll_nil (r : Registry) : r.registerAll [] = r := rfl

@[simp] theorem registerAll_cons (r : Registry) (type : ModelType) (rest : List ModelType) :
    r.registerAll (type :: rest) = (r.register type).2.registerAll rest := rfl

theorem registerAll_append (r : Registry) (first rest : List ModelType) :
    r.registerAll (first ++ rest) = (r.registerAll first).registerAll rest :=
  List.foldl_append

theorem grows_registerAll (r : Registry) (candidates : List ModelType) :
    r.Grows (r.registerAll candidates) := by
  induction candidates generalizing r with
  | nil => exact Grows.refl r
  | cons type rest ih => exact (grows_register r type).trans (ih _)

theorem size_registerAll_le (r : Registry) (candidates : List ModelType) :
    (r.registerAll candidates).size ≤ r.size + candidates.length := by
  induction candidates generalizing r with
  | nil => exact Nat.le_refl _
  | cons type rest ih =>
    have first := size_register_le r type
    have later := ih (r.register type).2
    rw [registerAll_cons, List.length_cons]
    omega

/-- The canonical member of a key is the first one with the key among the old members followed by
the candidates. -/
theorem canonical?_registerAll (r : Registry) (candidates : List ModelType) (key : TypeKey) :
    (r.registerAll candidates).canonical? key =
      (r.canonical? key).or (candidates.find? fun type => type.key = key) := by
  induction candidates generalizing r with
  | nil => simp
  | cons type rest ih =>
    rw [registerAll_cons, ih, canonical?_register, List.find?_cons]
    cases r.canonical? key with
    | some found => simp
    | none => by_cases h : type.key = key <;> simp [h]

theorem exists_idOf?_registerAll {candidates : List ModelType} (ht : type ∈ candidates) :
    ∃ id, (r.registerAll candidates).idOf? type.key = some id := by
  rw [← Option.isSome_iff_exists, Option.isSome_iff_ne_none]
  intro absent
  rw [← canonical?_eq_none_iff, canonical?_registerAll, Option.or_eq_none_iff] at absent
  have missing := List.find?_eq_none.mp absent.2 type ht
  exact missing (decide_eq_true rfl)

/-- Candidates whose keys are there already leave the registry as it is. -/
theorem registerAll_of_registered {candidates : List ModelType}
    (registered : ∀ type ∈ candidates, ∃ id, r.idOf? type.key = some id) :
    r.registerAll candidates = r := by
  induction candidates with
  | nil => rfl
  | cons type rest ih =>
    obtain ⟨id, found⟩ := registered type List.mem_cons_self
    rw [registerAll_cons, register_of_idOf? found]
    exact ih fun later h => registered later (List.mem_cons_of_mem type h)

/-! ### The new members

Which candidates a registry takes up can be told without registering any of them. -/

/-- The candidates whose key no member has and no candidate before them, in order. -/
def newcomers (r : Registry) (candidates : List ModelType) : List ModelType :=
  (candidates.zipIdx.filter fun (type, i) =>
    r.idOf? type.key = none ∧ ∀ earlier ∈ candidates.take i, earlier.key ≠ type.key).map Prod.fst

theorem idOf?_register_eq_none_iff :
    (r.register type).2.idOf? key = none ↔ type.key ≠ key ∧ r.idOf? key = none := by
  rw [← canonical?_eq_none_iff, canonical?_register, Option.or_eq_none_iff, canonical?_eq_none_iff,
    and_comm, ite_eq_right_iff]
  simp

/-- The first candidate is taken up when its key is new, and after it none with this key is. -/
theorem newcomers_cons (r : Registry) (type : ModelType) (rest : List ModelType) :
    r.newcomers (type :: rest) =
      (if r.idOf? type.key = none then [type] else []) ++ (r.register type).2.newcomers rest := by
  have later : ∀ entry : ModelType × Nat,
      (r.idOf? entry.1.key = none ∧
        ∀ earlier ∈ (type :: rest).take (entry.2 + 1), earlier.key ≠ entry.1.key) ↔
      ((r.register type).2.idOf? entry.1.key = none ∧
        ∀ earlier ∈ rest.take entry.2, earlier.key ≠ entry.1.key) := by
    intro entry
    rw [idOf?_register_eq_none_iff, List.take_succ_cons, List.forall_mem_cons]
    exact and_left_comm.trans and_assoc.symm
  rw [newcomers, List.zipIdx_cons, List.zipIdx_succ, List.filter_cons, List.filter_map]
  simp only [Function.comp_def, later, List.take_zero, List.not_mem_nil, false_implies,
    implies_true, and_true]
  by_cases new : r.idOf? type.key = none <;> simp [new, newcomers]

/-- Registering candidates appends the new ones among them. -/
theorem members_registerAll (r : Registry) (candidates : List ModelType) :
    (r.registerAll candidates).members = r.members ++ r.newcomers candidates := by
  induction candidates generalizing r with
  | nil => exact (List.append_nil _).symm
  | cons type rest ih =>
    rw [registerAll_cons, ih, newcomers_cons]
    cases h : r.idOf? type.key with
    | some id => simp [register_of_idOf? h]
    | none => simp [register_of_none h]

theorem of_mem_newcomers {candidates : List ModelType} (h : type ∈ r.newcomers candidates) :
    type ∈ candidates ∧ r.idOf? type.key = none := by
  simp only [newcomers, List.mem_map, List.mem_filter, decide_eq_true_eq] at h
  obtain ⟨⟨_, i⟩, ⟨found, new, _⟩, rfl⟩ := h
  exact ⟨List.fst_mem_of_mem_zipIdx found, new⟩

theorem nodup_key_newcomers (r : Registry) (candidates : List ModelType) :
    ((r.newcomers candidates).map ModelType.key).Nodup := by
  induction candidates generalizing r with
  | nil => exact List.nodup_nil
  | cons type rest ih =>
    rw [newcomers_cons]
    split
    · rw [List.singleton_append, List.map_cons, List.nodup_cons]
      refine ⟨?_, ih _⟩
      intro again
      obtain ⟨later, found, same⟩ := List.mem_map.mp again
      exact (idOf?_register_eq_none_iff.mp (of_mem_newcomers found).2).1 same.symm
    · exact ih _

theorem mem_of_mem_registerAll {candidates : List ModelType}
    (h : type ∈ (r.registerAll candidates).members) :
    type ∈ r.members ∨ type ∈ candidates ∧ r.idOf? type.key = none := by
  rw [members_registerAll, List.mem_append] at h
  exact h.imp_right of_mem_newcomers

/-! ### Rows of additions -/

/-- A call that may add a member. -/
inductive Addition where
  | add (type : ModelType)
  | register (candidate : ModelType)

def Addition.apply : Addition → Registry → Registry
  | add type, r => (r.add type).2
  | register candidate, r => (r.register candidate).2

/-- The registry after a row of calls. -/
def addAll (r : Registry) (additions : List Addition) : Registry :=
  additions.foldl (fun r addition => addition.apply r) r

theorem Addition.grows_apply (addition : Addition) (r : Registry) : r.Grows (addition.apply r) := by
  cases addition with
  | add type => exact List.prefix_append ..
  | register candidate => exact grows_register r candidate

theorem grows_addAll (r : Registry) (additions : List Addition) : r.Grows (r.addAll additions) := by
  induction additions generalizing r with
  | nil => exact Grows.refl r
  | cons addition rest ih => exact (addition.grows_apply r).trans (ih _)

/-- A registry can be brought to every registry that begins with its members, and to no other. -/
theorem grows_iff_exists_additions : r.Grows r' ↔ ∃ additions, r' = r.addAll additions := by
  constructor
  · rintro ⟨more, members⟩
    refine ⟨more.map .add, ?_⟩
    have added : (r.addAll (more.map .add)).members = r.members ++ more := by
      clear members
      induction more generalizing r with
      | nil => exact (List.append_nil r.members).symm
      | cons type rest ih =>
        rw [List.append_cons]
        exact ih
    exact congrArg ofList (members.symm.trans added.symm)
  · rintro ⟨additions, rfl⟩
    exact grows_addAll r additions

end WrapperSynthesis.Registry
