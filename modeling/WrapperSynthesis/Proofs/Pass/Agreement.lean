import Mathlib.Data.List.Nodup
import WrapperSynthesis.Proofs.Pass.FirstRefusal

/-! When no method of a service is refused, said without the order of the methods: every paginated
method has a body, and those that ask for one handle agree on what it resolves to
(`forall_not_bad_iff`). So the answer is the same for every order (`Service.Agrees.reorder`). -/

namespace WrapperSynthesis

/-- `t` is `s` with its methods in another order. -/
structure Service.Reorders (s t : Service) : Prop where
  name : t.name = s.name
  methods : s.methods.Perm t.methods
  types : t.types = s.types

/-- The methods agree with each other, and with the handles that are registered already. -/
structure Service.Agrees (naming : Naming) (settings : GenerationSettings) (s : Service) :
    Prop where
  bodies : ∀ m ∈ s.methods, (settings.kindOf m).isPaginated = true → m.returnType.body ≠ none
  /-- A registered handle was made for the method that asks for it, or it has the result asked
  for. -/
  loaded : ∀ h ∈ handlesOf naming settings s.methods, ∀ old, s.types.handle? h.key = some old →
    (old.group, old.method) = (h.group, h.method) ∨ old.result = h.result
  /-- A new handle is asked for with one result. -/
  fresh : ∀ h ∈ handlesOf naming settings s.methods, ∀ h' ∈ handlesOf naming settings s.methods,
    s.types.handle? h.key = none → h'.key = h.key → h'.result = h.result

variable {naming : Naming} {settings : GenerationSettings} {s t : Service}

namespace Service

theorem Reorders.symm (h : s.Reorders t) : t.Reorders s :=
  ⟨h.name.symm, h.methods.symm, h.types.symm⟩

theorem Reorders.mem_handlesOf_iff (h : s.Reorders t) {asked : PollingHandle} :
    asked ∈ handlesOf naming settings t.methods ↔ asked ∈ handlesOf naming settings s.methods :=
  (h.methods.symm.flatMap_right _).mem_iff

theorem Reorders.consistent (h : s.Reorders t) (consistent : s.Consistent) : t.Consistent where
  distinct := (h.methods.map _).nodup consistent.distinct
  registered m hm := by
    rw [h.types]
    exact consistent.registered m (h.methods.symm.subset hm)
  slots m hm := by
    rw [h.types]
    exact consistent.slots m (h.methods.symm.subset hm)
  targets := by
    rw [h.types]
    exact consistent.targets

theorem Agrees.reorder (agrees : s.Agrees naming settings) (h : s.Reorders t) :
    t.Agrees naming settings where
  bodies m hm := agrees.bodies m (h.methods.symm.subset hm)
  loaded asked ha := by
    rw [h.types]
    exact agrees.loaded asked (h.mem_handlesOf_iff.mp ha)
  fresh asked ha asked' ha' := by
    rw [h.types]
    exact agrees.fresh asked (h.mem_handlesOf_iff.mp ha) asked' (h.mem_handlesOf_iff.mp ha')

theorem mem_handlesOf_of_settled {key : TypeKey} {settled : PollingHandle}
    (found : s.settledHandle? naming settings key = some settled)
    (new : s.types.handle? key = none) :
    settled ∈ handlesOf naming settings s.methods ∧ settled.key = key := by
  rw [settledHandle?, new, Option.none_or] at found
  exact ⟨List.mem_of_find?_eq_some found, by simpa using List.find?_some found⟩

theorem exists_settled_of_asked {h : PollingHandle}
    (hh : h ∈ handlesOf naming settings s.methods) :
    ∃ settled, s.settledHandle? naming settings h.key = some settled := by
  rw [← Option.isSome_iff_exists, settledHandle?, Option.isSome_or, Bool.or_eq_true,
    List.find?_isSome]
  exact .inr ⟨h, hh, by simp⟩

/-- When no method is bad, the new handle of a key has the result with which it is asked for. -/
theorem result_of_settled (distinct : (s.methods.map Method.identity).Nodup)
    (good : ∀ m ∈ s.methods, ¬ s.Bad naming settings m) {h settled : PollingHandle}
    (hh : h ∈ handlesOf naming settings s.methods) (new : s.types.handle? h.key = none)
    (found : s.settledHandle? naming settings h.key = some settled) :
    settled.result = h.result := by
  obtain ⟨m, hm, asked⟩ := mem_handlesOf.mp hh
  obtain ⟨n, hn, first⟩ := mem_handlesOf.mp (mem_handlesOf_of_settled found new).1
  obtain ⟨_, _, hr⟩ := Method.of_mem_handles asked
  obtain ⟨hg, hname, hr'⟩ := Method.of_mem_handles first
  by_contra differs
  refine good m hm (.inr ⟨h, asked, settled, found, ?_, hr ▸ differs⟩)
  intro own
  -- The method that settled the handle is then the very one that asks for it.
  have same : n.identity = m.identity := by
    rw [← own, hg, hname]
    rfl
  obtain rfl := List.inj_on_of_nodup_map distinct hn hm same
  exact differs (hr'.trans hr.symm)

theorem forall_not_bad_iff (distinct : (s.methods.map Method.identity).Nodup) :
    (∀ m ∈ s.methods, ¬ s.Bad naming settings m) ↔ s.Agrees naming settings := by
  constructor
  · intro good
    refine ⟨?_, ?_, ?_⟩
    · intro m hm paginated none
      exact good m hm (.inl ⟨paginated, none⟩)
    · intro h hh old loaded
      obtain ⟨m, hm, asked⟩ := mem_handlesOf.mp hh
      obtain ⟨hg, hname, hr⟩ := Method.of_mem_handles asked
      have settled : s.settledHandle? naming settings h.key = some old := by
        rw [settledHandle?, loaded, Option.some_or]
      by_contra neither
      rw [not_or, hg, hname, hr] at neither
      exact good m hm (.inr ⟨h, asked, old, settled, neither⟩)
    · intro h hh h' hh' new same
      -- Both requests have the result of the first one for the key.
      obtain ⟨settled, found⟩ := exists_settled_of_asked hh
      have result := result_of_settled distinct good hh new found
      rw [← same] at new found
      exact (result_of_settled distinct good hh' new found).symm.trans result
  · rintro agrees m hm (⟨paginated, none⟩ | ⟨h, asked, settled, found, foreign, differs⟩)
    · exact agrees.bodies m hm paginated none
    · have hh := mem_handlesOf.mpr ⟨m, hm, asked⟩
      obtain ⟨hg, hname, hr⟩ := Method.of_mem_handles asked
      cases loaded : s.types.handle? h.key with
      | some old =>
        rw [settledHandle?, loaded, Option.some_or, Option.some.injEq] at found
        subst found
        rcases agrees.loaded h hh old loaded with own | result
        · rw [hg, hname] at own
          exact foreign own
        · exact differs (result.trans hr)
      | none =>
        obtain ⟨first, same⟩ := mem_handlesOf_of_settled found loaded
        exact differs ((agrees.fresh h hh settled first loaded same).trans hr)

theorem Consistent.exists_ok_iff_agrees (consistent : s.Consistent) :
    (∃ report s', (Service.augment naming settings).run s = .ok report s') ↔
      s.Agrees naming settings := by
  have survives : s.Survives naming settings
      (s.types.registerAll (candidatesOf naming settings s.methods)) :=
    consistent.survives (Registry.grows_registerAll _ _)
  rw [exists_ok_iff_survives, and_iff_left survives, firstRefusal?_eq_none_iff,
    forall_not_bad_iff consistent.distinct]

end Service

end WrapperSynthesis
