import WrapperSynthesis.Proofs.Pass.Settled

/-! When the working copy of a pass is free of faults, said of the service that went in and of the
registry that came out (`exists_ok_iff_survives`). A return type that points at nothing need not be
found out: the pass may have registered a wrapper at this very position, or it may have dropped the
reference unseen (`Method.Forgets`). -/

namespace WrapperSynthesis

namespace ReturnType

variable {returnType : ReturnType} {id : TypeId}

theorem mem_referenced_of_headers (h : returnType.headers = some id) :
    id ∈ returnType.referenced := by
  cases returnType with
  | response r => simp only [headers] at h; simp [referenced, h]
  | pagedOperation c => simp only [headers] at h; simp [referenced, h]

theorem mem_referenced_of_body (h : returnType.body = some id) : id ∈ returnType.referenced := by
  cases returnType with
  | response r => simp only [body] at h; simp [referenced, h]
  | pagedOperation c => cases h

theorem mem_referenced_iff {element : TypeId} (h : returnType.body = some element) :
    id ∈ returnType.referenced ↔ id = element ∨ returnType.headers = some id := by
  cases returnType with
  | response r => simp only [body] at h; simp [referenced, headers, h]
  | pagedOperation c => cases h

end ReturnType

/-- A method returns page iterators, handles that it asks for and its old headers, and the rest of
what it returned before only when it is plain. -/
theorem Method.Rewired.of_mem_referenced {naming : Naming} {types : Registry} {m m' : Method}
    {kind : OperationKind} {outcome : Outcome} (rewired : m.Rewired naming types kind outcome m')
    {id : TypeId} (hid : id ∈ m'.returnType.referenced) :
    (kind = .plain ∧ id ∈ m.returnType.referenced) ∨ m.returnType.headers = some id ∨
      (∃ element needsPreparer, types.idOf? (.pageIterator element needsPreparer) = some id) ∨
      ∃ h ∈ m.handles naming kind, types.idOf? h.key = some id := by
  cases rewired with
  | plain => exact .inl ⟨rfl, hid⟩
  | paginated _ hp =>
    rcases (ReturnType.mem_referenced_iff rfl).mp hid with rfl | hs
    · exact .inr (.inr (.inl ⟨_, _, hp⟩))
    · exact .inr (.inl hs)
  | longRunning hh =>
    rcases (ReturnType.mem_referenced_iff rfl).mp hid with rfl | hs
    · exact .inr (.inr (.inr ⟨_, by simp [handles], hh⟩))
    · exact .inr (.inl hs)
  | paginatedLongRunning _ hh hl hp hs =>
    simp only [Method.returnType_returning, ReturnType.referenced, List.mem_append, List.mem_cons,
      List.not_mem_nil, or_false, Option.mem_toList] at hid
    rcases hid with (rfl | rfl | rfl) | hid
    · exact .inr (.inr (.inr ⟨m.handle naming, by simp [handles], hh⟩))
    · exact .inr (.inr (.inr ⟨m.listAllHandle naming, by simp [handles], hl⟩))
    · exact .inr (.inr (.inl ⟨_, _, hp⟩))
    · exact .inr (.inl (hs.symm.trans hid))

/-- `id` leaves the return type of the method unseen: the method becomes long-running, and the
reference is a slot of a composed return type, or it is a body that gives way to a handle which was
made for the method before the pass and has another result. -/
def Method.Forgets (naming : Naming) (settings : GenerationSettings) (types : Registry) (m : Method)
    (id : TypeId) : Prop :=
  settings.kindOf m = .longRunning ∧ m.returnType.headers ≠ some id ∧
    (m.returnType.body = some id → ∃ old, types.handle? (m.handle naming).key = some old ∧
      old.originatesFrom m.group m.name = true ∧ old.result ≠ some id)

/-- What has to hold of a service for the working copy with the registry `final` to have no
fault. -/
structure Service.Survives (naming : Naming) (settings : GenerationSettings) (s : Service)
    (final : Registry) : Prop where
  distinct : (s.methods.map Method.identity).Nodup
  targets : ∀ type ∈ s.types.members, ∀ target, type.target? = some target →
    final.hasId target = true
  references : ∀ m ∈ s.methods, ∀ id ∈ m.returnType.referenced,
    final.hasId id = true ∨ m.Forgets naming settings s.types id
  slots : ∀ m ∈ s.methods, settings.kindOf m = .plain → final.FitsSlots m.returnType

variable {naming : Naming} {settings : GenerationSettings} {s s' : Service} {report : Report}

theorem Registry.holdsHandle_of_idOf? {types : Registry} {h : PollingHandle} {id : TypeId}
    (hid : types.idOf? h.key = some id) : types.HoldsHandle id h.listAll := by
  obtain ⟨type, found, _, hk⟩ := exists_of_idOf? hid
  obtain ⟨handle, rfl, _, hl⟩ := ModelType.exists_of_key_eq_pollingHandle hk
  exact ⟨handle, found, hl⟩

theorem Registry.holdsPager_of_idOf? {types : Registry} {element id : TypeId}
    {needsPreparer : Bool} (hid : types.idOf? (.pageIterator element needsPreparer) = some id) :
    types.HoldsPager id := by
  obtain ⟨type, found, _, hk⟩ := exists_of_idOf? hid
  obtain ⟨pager, rfl, _⟩ := ModelType.exists_of_key_eq_pageIterator hk
  exact ⟨pager, found⟩

/-- Wrapping puts wrappers of the right kinds into the slots of a return type. -/
theorem Method.Rewired.fitsSlots {types : Registry} {m m' : Method} {kind : OperationKind}
    {outcome : Outcome} (rewired : m.Rewired naming types kind outcome m')
    (old : kind = .plain → types.FitsSlots m.returnType) : types.FitsSlots m'.returnType := by
  cases rewired with
  | plain => exact old rfl
  | paginated | longRunning => trivial
  | paginatedLongRunning _ hh hl hp _ =>
    exact ⟨Registry.holdsHandle_of_idOf? hh, Registry.holdsHandle_of_idOf? hl,
      Registry.holdsPager_of_idOf? hp⟩

theorem Registry.hasId_element {types : Registry} {element id : TypeId} {needsPreparer : Bool}
    (targets : ∀ type ∈ types.members, ∀ target, type.target? = some target →
      types.hasId target = true)
    (hid : types.idOf? (.pageIterator element needsPreparer) = some id) :
    types.hasId element = true := by
  obtain ⟨type, found, _, hk⟩ := exists_of_idOf? hid
  obtain ⟨pager, rfl, he, _⟩ := ModelType.exists_of_key_eq_pageIterator hk
  exact targets _ (mem_of_get? found) element (by simp [ModelType.target?, he])

/-- Every wrapper that a method asks for wraps the method's body. -/
theorem Method.target?_of_mem_candidates {m : Method} {kind : OperationKind} {type : ModelType}
    (ht : type ∈ m.candidates naming kind) : type.target? = m.returnType.body := by
  obtain ⟨_, h, built, rfl⟩ | ⟨p, built, rfl⟩ := exists_of_mem_candidates ht
  · exact result_of_pollingHandle built
  · obtain ⟨element, hb, rfl⟩ := exists_of_pageIterator built
    exact hb.symm

namespace Reworked

/-- In a working copy without faults every reference of the service is registered, or it was
forgotten. -/
theorem survives (h : Reworked naming settings s s' report)
    (allowed : firstRefusal? naming settings s.methods s.types = none)
    (consistent : s'.Consistent) : s.Survives naming settings s'.types := by
  obtain ⟨distinct, registered, slots, targets⟩ := consistent
  rw [h.identities] at distinct
  have old : ∀ type ∈ s.types.members, type ∈ s'.types.members := h.grows.subset
  refine ⟨distinct, fun type ht => targets type (old type ht), fun m hm id hid => ?_,
    fun m hm plain => ?_⟩
  · obtain ⟨m', hm', outcome, rewired⟩ := h.exists_after hm
    have known := registered m' hm'
    generalize hk : settings.kindOf m = kind at rewired
    -- A wrapper keeps what it replaces, except for a handle that was loaded with another result.
    cases rewired with
    | plain => exact .inl (known id hid)
    | paginated hb hp =>
      rcases (ReturnType.mem_referenced_iff hb).mp hid with rfl | hs
      · exact .inl (Registry.hasId_element targets hp)
      · exact .inl (known id (ReturnType.mem_referenced_of_headers hs))
    | paginatedLongRunning hb _ _ hp hs =>
      rcases (ReturnType.mem_referenced_iff hb).mp hid with rfl | hs'
      · exact .inl (Registry.hasId_element targets hp)
      · exact .inl (known id (ReturnType.mem_referenced_of_headers (hs.trans hs')))
    | longRunning hh =>
      by_cases known' : s'.types.hasId id = true
      · exact .inl known'
      · refine .inr ⟨hk, fun hs => ?_, fun hb => ?_⟩
        · exact known' (known id (ReturnType.mem_referenced_of_headers hs))
        · have asked : m.handle naming ∈ m.handles naming (settings.kindOf m) := by
            simp [hk, Method.handles]
          obtain ⟨found, hf, _, own⟩ := exists_handle? allowed distinct hm asked
          rw [← h.types] at hf
          have member := Registry.mem_of_get? (Registry.get?_of_idOf?_key hh hf)
          -- The results of the working copy are registered, so the handle does not resolve to this
          -- body.
          have stale : found.result ≠ some id := fun hr => known' (targets _ member id hr)
          rw [hb] at own
          obtain ⟨loaded, origin⟩ := own.resolve_left stale
          exact ⟨found, loaded, origin, stale⟩
  · obtain ⟨m', hm', outcome, rewired⟩ := h.exists_after hm
    rw [plain] at rewired
    cases rewired
    exact slots m hm'

/-- Nothing else is asked of the service. -/
theorem consistent_of_survives (h : Reworked naming settings s s' report)
    (allowed : firstRefusal? naming settings s.methods s.types = none)
    (survives : s.Survives naming settings s'.types) : s'.Consistent := by
  obtain ⟨distinct, targets, references, slots⟩ := survives
  have headers : ∀ m ∈ s.methods, ∀ id, m.returnType.headers = some id →
      s'.types.hasId id = true := fun m hm id hs =>
    (references m hm id (ReturnType.mem_referenced_of_headers hs)).resolve_right
      fun forgotten => forgotten.2.1 hs
  refine ⟨by rw [h.identities]; exact distinct, fun m' hm' id hid => ?_, fun m' hm' => ?_,
    fun type ht target htarget => ?_⟩
  · obtain ⟨m, hm, outcome, rewired⟩ := h.exists_before hm'
    rcases rewired.of_mem_referenced hid with ⟨plain, old⟩ | hs | ⟨_, _, hp⟩ | ⟨_, _, hh⟩
    · refine (references m hm id old).resolve_right fun forgotten => ?_
      rw [forgotten.1] at plain
      cases plain
    · exact headers m hm id hs
    · exact Registry.hasId_of_idOf? hp
    · exact Registry.hasId_of_idOf? hh
  · obtain ⟨m, hm, outcome, rewired⟩ := h.exists_before hm'
    exact rewired.fitsSlots (slots m hm)
  · rw [h.types] at ht
    rcases Registry.mem_of_mem_registerAll ht with ht | ⟨ht, new⟩
    · exact targets type ht target htarget
    · obtain ⟨m, hm, hc⟩ := List.mem_flatMap.mp ht
      have qualified := unqualified?_of_firstRefusal? allowed hm
      have hb := (Method.target?_of_mem_candidates hc).symm.trans htarget
      refine (references m hm target (ReturnType.mem_referenced_of_body hb)).resolve_right ?_
      -- A forgotten body gives way to an older handle of the key, but this key is new.
      rintro ⟨hk, _, older⟩
      obtain ⟨old, loaded, _⟩ := older hb
      rw [Method.candidates_of_qualified qualified, hk] at hc
      obtain rfl : type = .pollingHandle (m.handle naming) := by
        simpa [Method.handles, Method.pagers] using hc
      rw [ModelType.key_pollingHandle] at new
      rw [Registry.handle?, Registry.canonical?_eq_none_iff.mpr new] at loaded
      cases loaded

end Reworked

/-- A pass succeeds exactly when it refuses no method and the service survives it. -/
theorem exists_ok_iff_survives (s : Service) :
    (∃ report s', (Service.augment naming settings).run s = .ok report s') ↔
      firstRefusal? naming settings s.methods s.types = none ∧
      s.Survives naming settings
        (s.types.registerAll (candidatesOf naming settings s.methods)) := by
  constructor
  · rintro ⟨report, s', ok⟩
    obtain ⟨allowed, reworked, faultless⟩ := reworked_of_run_augment ok
    have survives := reworked.survives allowed ((Service.faults_eq_nil_iff s').mp faultless)
    rw [reworked.types] at survives
    exact ⟨allowed, survives⟩
  · rintro ⟨allowed, survives⟩
    obtain ⟨s', report, reworked, hrun⟩ := run_augment_of_not_refused allowed
    rw [← reworked.types] at survives
    have consistent := reworked.consistent_of_survives allowed survives
    rw [if_pos ((Service.faults_eq_nil_iff s').mpr consistent)] at hrun
    exact ⟨report, s', hrun⟩

theorem Service.Consistent.survives (consistent : s.Consistent) {final : Registry}
    (grows : s.types.Grows final) : s.Survives naming settings final where
  distinct := consistent.distinct
  targets type ht target htarget := grows.hasId (consistent.targets type ht target htarget)
  references m hm id hid := .inl (grows.hasId (consistent.registered m hm id hid))
  slots m hm _ := grows.fitsSlots (consistent.slots m hm)

end WrapperSynthesis
