import WrapperSynthesis.Proofs.Service.Consistency

/-! Registering the same candidates in another order. The new members come in another order and
are numbered differently, but they have the same keys (`perm_keys_registerAll`). A handle of one
registry is carried over to the other by way of its key (`renumbers_registerAll`). -/

namespace WrapperSynthesis.Registry

/-- `f` carries the handles of `r` over to `r'`, which both grew from `base`: the old handles stay
as they are, and a new one leads to a member with the same key that wraps the same type. -/
structure Renumbers (base r r' : Registry) (f : TypeId → TypeId) : Prop where
  kept : ∀ id, base.hasId id = true → f id = id
  injective : ∀ id id', r.hasId id = true → r.hasId id' = true → f id = f id' → id = id'
  alike : ∀ id type, r.get? id = some type → ∃ type', r'.get? (f id) = some type' ∧
    type'.key = type.key ∧ type'.target? = type.target?

def renumber (base r r' : Registry) (id : TypeId) : TypeId :=
  if base.hasId id = true then id
  else ((r.get? id).bind fun type => r'.idOf? type.key).getD id

variable {base r r' : Registry} {id id' : TypeId} {key : TypeKey} {type : ModelType}
  {first second : List ModelType}

theorem idOf?_eq_none_iff : r.idOf? key = none ↔ key ∉ r.members.map ModelType.key := by
  simp [idOf?]

theorem renumber_of_idOf? (grows : base.Grows r) (grows' : base.Grows r')
    (h : r.idOf? key = some id) (h' : r'.idOf? key = some id') : base.renumber r r' id = id' := by
  obtain ⟨type, found, _, hk⟩ := exists_of_idOf? h
  by_cases known : base.hasId id = true
  · have member : key ∈ base.members.map ModelType.key := by
      rw [grows.get?_eq known] at found
      exact List.mem_map.mpr ⟨type, mem_of_get? found, hk⟩
    cases old : base.idOf? key with
    | none => exact absurd member (idOf?_eq_none_iff.mp old)
    | some canonical =>
      have same := Option.some.inj ((grows.idOf? old).symm.trans h)
      have same' := Option.some.inj ((grows'.idOf? old).symm.trans h')
      rw [renumber, if_pos known, ← same, same']
  · rw [renumber, if_neg known, found, Option.bind_some, hk, h', Option.getD_some]

/-! ### The keys of the new members -/

theorem mem_keys_registerAll :
    key ∈ (r.registerAll first).members.map ModelType.key ↔
      key ∈ r.members.map ModelType.key ∨ key ∈ first.map ModelType.key := by
  have absent : key ∉ (r.registerAll first).members.map ModelType.key ↔
      key ∉ r.members.map ModelType.key ∧ key ∉ first.map ModelType.key := by
    rw [← idOf?_eq_none_iff, ← canonical?_eq_none_iff, canonical?_registerAll,
      Option.or_eq_none_iff, canonical?_eq_none_iff, idOf?_eq_none_iff]
    simp
  rw [← Decidable.not_iff_not, absent, not_or]

theorem mem_keys_newcomers :
    key ∈ (r.newcomers first).map ModelType.key ↔
      key ∈ first.map ModelType.key ∧ key ∉ r.members.map ModelType.key := by
  constructor
  · intro h
    obtain ⟨type, new, rfl⟩ := List.mem_map.mp h
    obtain ⟨asked, absent⟩ := of_mem_newcomers new
    exact ⟨List.mem_map_of_mem asked, idOf?_eq_none_iff.mp absent⟩
  · rintro ⟨asked, absent⟩
    have registered := (@mem_keys_registerAll r key first).mpr (.inr asked)
    rw [members_registerAll, List.map_append, List.mem_append] at registered
    exact registered.resolve_left absent

theorem perm_keys_registerAll (r : Registry) (same : first.Perm second) :
    ((r.registerAll first).members.map ModelType.key).Perm
      ((r.registerAll second).members.map ModelType.key) := by
  rw [members_registerAll, members_registerAll, List.map_append, List.map_append]
  have distinct := nodup_key_newcomers r first
  have distinct' := nodup_key_newcomers r second
  refine .append_left _ ((List.perm_ext_iff_of_nodup distinct distinct').mpr ?_)
  intro key
  rw [mem_keys_newcomers, mem_keys_newcomers, (same.map _).mem_iff]

/-- A new member is the canonical one of its key, and the key is new. -/
theorem idOf?_of_new (new : ¬ r.hasId id = true)
    (found : (r.registerAll first).get? id = some type) :
    r.idOf? type.key = none ∧ (r.registerAll first).idOf? type.key = some id := by
  induction first generalizing r with
  | nil => exact absurd (hasId_of_get? found) new
  | cons candidate rest ih =>
    rw [registerAll_cons] at found ⊢
    have grows := grows_registerAll (r.register candidate).2 rest
    -- The candidate that reaches `id` is the new member, and nothing after it displaces it.
    by_cases early : (r.register candidate).2.hasId id = true
    · cases h : r.idOf? candidate.key with
      | some _ =>
        rw [register_of_idOf? h] at early
        exact absurd early new
      | none =>
        have canonical := idOf?_register r candidate
        rw [grows.get?_eq early] at found
        rw [register_of_none h] at early found canonical grows ⊢
        have last : id = ⟨r.size⟩ := by
          rw [hasId_iff] at early new
          have bound : id.index < r.size + 1 := by simpa [size] using early
          exact congrArg TypeId.mk (by omega)
        subst last
        obtain rfl : candidate = type := by simpa [Registry.get?, size] using found
        exact ⟨h, grows.idOf? canonical⟩
    · obtain ⟨absent, canonical⟩ := ih early found
      exact ⟨(idOf?_register_eq_none_iff.mp absent).2, canonical⟩

/-! ### The renumbering -/

section Renumbering

variable (same : first.Perm second)
include same

theorem exists_renumber_of_new (new : ¬ r.hasId id = true)
    (found : (r.registerAll first).get? id = some type) :
    ∃ id' type', r.renumber (r.registerAll first) (r.registerAll second) id = id' ∧
      (r.registerAll second).get? id' = some type' ∧ type'.key = type.key ∧ type' ∈ second ∧
      (r.registerAll second).idOf? type.key = some id' ∧ ¬ r.hasId id' = true := by
  obtain ⟨absent, canonical⟩ := idOf?_of_new new found
  have member : type.key ∈ (r.registerAll second).members.map ModelType.key :=
    (perm_keys_registerAll r same).subset (List.mem_map_of_mem (mem_of_get? found))
  cases h : (r.registerAll second).idOf? type.key with
  | none => exact absurd member (idOf?_eq_none_iff.mp h)
  | some id' =>
    have moved := renumber_of_idOf? (grows_registerAll r first) (grows_registerAll r second)
      canonical h
    obtain ⟨type', found', _, hk⟩ := exists_of_idOf? h
    rw [← hk, idOf?_eq_none_iff] at absent
    refine ⟨id', type', moved, found', hk, ?_, rfl, ?_⟩
    · rcases mem_of_mem_registerAll (mem_of_get? found') with old | asked
      · exact absurd (List.mem_map_of_mem old) absent
      · exact asked.1
    · intro old
      rw [(grows_registerAll r second).get?_eq old] at found'
      exact absent (List.mem_map_of_mem (mem_of_get? found'))

/-- Candidates that are registered in another order are numbered differently and otherwise lead to
the same types, when those with one new key wrap one type. -/
theorem renumbers_registerAll
    (agree : ∀ type ∈ first, ∀ type' ∈ first, r.idOf? type.key = none →
      type'.key = type.key → type'.target? = type.target?) :
    r.Renumbers (r.registerAll first) (r.registerAll second)
      (r.renumber (r.registerAll first) (r.registerAll second)) where
  kept id known := if_pos known
  injective id id' known known' equal := by
    obtain ⟨type, found⟩ := hasId_eq_true_iff.mp known
    obtain ⟨type', found'⟩ := hasId_eq_true_iff.mp known'
    -- Old handles stay among the old ones, and new handles among the new ones.
    by_cases old : r.hasId id = true <;> by_cases old' : r.hasId id' = true
    · rwa [renumber, if_pos old, renumber, if_pos old'] at equal
    · obtain ⟨_, _, moved, _, _, _, _, new⟩ := exists_renumber_of_new same old' found'
      rw [← moved, ← equal, renumber, if_pos old] at new
      exact absurd old new
    · obtain ⟨_, _, moved, _, _, _, _, new⟩ := exists_renumber_of_new same old found
      rw [← moved, equal, renumber, if_pos old'] at new
      exact absurd old' new
    · obtain ⟨_, _, moved, _, _, _, h, _⟩ := exists_renumber_of_new same old found
      obtain ⟨_, _, moved', _, _, _, h', _⟩ := exists_renumber_of_new same old' found'
      rw [← moved', ← equal, moved] at h'
      have canonical := (idOf?_of_new old found).2
      rw [key_eq_of_idOf? h h', (idOf?_of_new old' found').2] at canonical
      exact (Option.some.inj canonical).symm
  alike id type found := by
    by_cases old : r.hasId id = true
    · rw [(grows_registerAll r first).get?_eq old] at found
      rw [renumber, if_pos old, (grows_registerAll r second).get?_eq old]
      exact ⟨type, found, rfl, rfl⟩
    · obtain ⟨id', type', moved, found', hk, asked', _, _⟩ := exists_renumber_of_new same old found
      have absent := (idOf?_of_new old found).1
      have asked : type ∈ first := by
        rcases mem_of_mem_registerAll (mem_of_get? found) with member | asked
        · exact absurd (List.mem_map_of_mem member) (idOf?_eq_none_iff.mp absent)
        · exact asked.1
      rw [moved]
      exact ⟨type', found', hk, agree type asked type' (same.symm.subset asked') absent hk⟩

/-- Where the first candidate of every key is one and the same, so are the members. -/
theorem get?_renumber
    (firsts : ∀ key, (first.find? fun type => type.key = key) =
      second.find? fun type => type.key = key)
    (known : (r.registerAll first).hasId id = true) :
    (r.registerAll second).get? (r.renumber (r.registerAll first) (r.registerAll second) id) =
      (r.registerAll first).get? id := by
  by_cases old : r.hasId id = true
  · rw [renumber, if_pos old, (grows_registerAll r first).get?_eq old,
      (grows_registerAll r second).get?_eq old]
  · obtain ⟨type, found⟩ := hasId_eq_true_iff.mp known
    obtain ⟨id', _, moved, _, _, _, canonical', _⟩ := exists_renumber_of_new same old found
    have canonical := (idOf?_of_new old found).2
    have member := (r.registerAll first).get?_idOf? type.key
    have member' := (r.registerAll second).get?_idOf? type.key
    rw [canonical, Option.bind_some, canonical?_registerAll, firsts] at member
    rw [canonical', Option.bind_some, canonical?_registerAll] at member'
    rw [moved, member, member']

end Renumbering

end WrapperSynthesis.Registry
