import WrapperSynthesis.Proofs.Pass.Walk

/-! A pass compared with a batch. The pass registers and looks up wrappers method by method, in a
registry that grows. The outcome is that of a batch: collect the candidates of all methods as they
are before the pass, append those with a new key, and look every candidate up in the final registry
(`batch_of_run_augment`). -/

namespace WrapperSynthesis

/-- The wrappers that a return type may hold: its handles without the headers. -/
def ReturnType.wrappers : ReturnType → List TypeId
  | .response r => r.body.toList
  | .pagedOperation c => [c.handle, c.listAllHandle, c.pager]

/-- `m'` is `m` wrapped as the given kind: all that `m` asks for can be built, and `m'` returns the
canonical members for it. -/
def Method.ReturnsCanonical (naming : Naming) (types : Registry) (m m' : Method) :
    OperationKind → Prop
  | .plain => m.candidates naming .plain = [] ∧ m' = m
  | .paginated => ∃ pager id, m.pageIterator = .ok pager ∧
      m.candidates naming .paginated = [.pageIterator pager] ∧
      types.canonicalOf (.pageIterator pager) = .ok id ∧
      m' = m.returning (.response ⟨some id, m.returnType.headers⟩)
  | .longRunning => ∃ handle id, m.pollingHandle naming none = .ok handle ∧
      m.candidates naming .longRunning = [.pollingHandle handle] ∧
      types.canonicalOf (.pollingHandle handle) = .ok id ∧
      m' = m.returning (.response ⟨some id, m.returnType.headers⟩)
  | .paginatedLongRunning => ∃ handle listAll pager composed,
      m.pollingHandle naming none = .ok handle ∧
      m.pollingHandle naming (some (m.listAllName naming)) = .ok listAll ∧
      m.pageIterator = .ok pager ∧
      m.candidates naming .paginatedLongRunning =
        [.pollingHandle handle, .pollingHandle listAll, .pageIterator pager] ∧
      types.canonicalOf (.pollingHandle handle) = .ok composed.handle ∧
      types.canonicalOf (.pollingHandle listAll) = .ok composed.listAllHandle ∧
      types.canonicalOf (.pageIterator pager) = .ok composed.pager ∧
      composed.headers = m.returnType.headers ∧ m' = m.returning (.pagedOperation composed)

variable {naming : Naming} {settings : GenerationSettings}

namespace Method

variable {types : Registry} {m m' n n' : Method} {kind kind' : OperationKind}

theorem Rewired.returnsCanonical {outcome : Outcome} (qualified : m.unqualified? kind = none)
    (rewired : m.Rewired naming types kind outcome m') :
    m.ReturnsCanonical naming types m' kind := by
  have built : m.candidates naming kind = (m.handles naming kind).map .pollingHandle ++
      (m.pagers kind).map .pageIterator := candidates_of_qualified qualified
  cases rewired with
  | plain => exact ⟨rfl, rfl⟩
  | @paginated element pager hb hp =>
    have hk := isPaginated_of_unqualified? qualified rfl
    refine ⟨_, pager, pageIterator_of_paginated hk hb, ?_, Registry.canonicalOf_eq_ok_iff.mpr hp,
      rfl⟩
    simp [built, handles, pagers, hb]
  | @longRunning handle hh =>
    have hk := isLongRunning_of_unqualified? qualified rfl
    refine ⟨_, handle, pollingHandle_none hk, ?_, Registry.canonicalOf_eq_ok_iff.mpr hh, rfl⟩
    simp [built, handles, pagers]
  | @paginatedLongRunning element composed hb hh hl hp hs =>
    have hk := isPaginated_of_unqualified? qualified rfl
    have hk' := isLongRunning_of_unqualified? qualified rfl
    refine ⟨_, _, _, composed, pollingHandle_none hk', pollingHandle_listAllName hk',
      pageIterator_of_paginated hk hb, ?_, Registry.canonicalOf_eq_ok_iff.mpr hh,
      Registry.canonicalOf_eq_ok_iff.mpr hl, Registry.canonicalOf_eq_ok_iff.mpr hp, hs, rfl⟩
    simp [built, handles, pagers, hb]

/-- The wrappers that a method returns are the canonical members for its candidates, one for
one. -/
theorem ReturnsCanonical.forall₂ (h : m.ReturnsCanonical naming types m' kind)
    (wrapped : kind ≠ .plain) :
    List.Forall₂ (fun candidate id => types.canonicalOf candidate = .ok id)
      (m.candidates naming kind) m'.returnType.wrappers := by
  cases kind with
  | plain => exact absurd rfl wrapped
  | paginated | longRunning =>
    obtain ⟨_, _, _, candidates, canonical, rfl⟩ := h
    rw [candidates]
    exact .cons canonical .nil
  | paginatedLongRunning =>
    obtain ⟨_, _, _, _, _, _, _, candidates, handle, listAll, pager, _, rfl⟩ := h
    rw [candidates]
    exact .cons handle (.cons listAll (.cons pager .nil))

/-- Two methods share a wrapper exactly when they ask for one with the same key. -/
theorem ReturnsCanonical.exists_shared_iff (h : m.ReturnsCanonical naming types m' kind)
    (h' : n.ReturnsCanonical naming types n' kind') (wrapped : kind ≠ .plain)
    (wrapped' : kind' ≠ .plain) :
    (∃ id ∈ m'.returnType.wrappers, id ∈ n'.returnType.wrappers) ↔
      ∃ candidate ∈ m.candidates naming kind, ∃ candidate' ∈ n.candidates naming kind',
        candidate.key = candidate'.key := by
  have pairs := h.forall₂ wrapped
  have pairs' := h'.forall₂ wrapped'
  constructor
  · rintro ⟨id, hid, hid'⟩
    obtain ⟨candidate, hc, canonical⟩ := exists_of_forall₂ pairs.flip hid
    obtain ⟨candidate', hc', canonical'⟩ := exists_of_forall₂ pairs'.flip hid'
    rw [Registry.canonicalOf_eq_ok_iff] at canonical canonical'
    exact ⟨candidate, hc, candidate', hc', Registry.key_eq_of_idOf? canonical canonical'⟩
  · rintro ⟨candidate, hc, candidate', hc', same⟩
    obtain ⟨id, hid, canonical⟩ := exists_of_forall₂ pairs hc
    obtain ⟨id', hid', canonical'⟩ := exists_of_forall₂ pairs' hc'
    rw [Registry.canonicalOf_eq_ok_iff] at canonical canonical'
    rw [same, canonical', Option.some.injEq] at canonical
    exact ⟨id, hid, canonical ▸ hid'⟩

end Method

/-- What a pass that succeeds amounts to. The registry is the old one followed by the candidates
with a new key, in order, and these are all that the report counts. Every method returns the
canonical members for the candidates that it asked for before the pass, so two methods share a
wrapper exactly when they ask for the same key. -/
theorem batch_of_run_augment {s s' : Service} {report : Report}
    (ok : (Service.augment naming settings).run s = .ok report s') :
    s'.types.members =
      s.types.members ++ s.types.newcomers (candidatesOf naming settings s.methods) ∧
    List.Forall₂ (fun m m' => m.ReturnsCanonical naming s'.types m' (settings.kindOf m))
      s.methods s'.methods ∧
    (∀ p ∈ s.methods.zip s'.methods, ∀ q ∈ s.methods.zip s'.methods,
      settings.kindOf p.1 ≠ .plain → settings.kindOf q.1 ≠ .plain →
      ((∃ id ∈ p.2.returnType.wrappers, id ∈ q.2.returnType.wrappers) ↔
        ∃ candidate ∈ p.1.candidates naming (settings.kindOf p.1),
          ∃ candidate' ∈ q.1.candidates naming (settings.kindOf q.1),
            candidate.key = candidate'.key)) ∧
    report.typesAdded =
      (s.types.newcomers (candidatesOf naming settings s.methods)).length ∧
    (∀ type ∈ s.types.newcomers (candidatesOf naming settings s.methods),
      type.isSynthetic = true) ∧
    ((s.types.newcomers (candidatesOf naming settings s.methods)).map ModelType.key).Nodup := by
  obtain ⟨allowed, reworked, _⟩ := reworked_of_run_augment ok
  have members : s'.types.members =
      s.types.members ++ s.types.newcomers (candidatesOf naming settings s.methods) := by
    rw [reworked.types]
    exact Registry.members_registerAll _ _
  have canonical : List.Forall₂
      (fun m m' => m.ReturnsCanonical naming s'.types m' (settings.kindOf m))
      s.methods s'.methods := by
    refine reworked.rewired.imp fun m m' => ?_
    rintro ⟨hm, outcome, rewired⟩
    exact rewired.returnsCanonical (unqualified?_of_firstRefusal? allowed hm)
  refine ⟨members, canonical, ?_, ?_, ?_, Registry.nodup_key_newcomers _ _⟩
  · rintro ⟨m, m'⟩ hp ⟨n, n'⟩ hq wrapped wrapped'
    have first := (List.forall₂_iff_zip.mp canonical).2 hp
    have second := (List.forall₂_iff_zip.mp canonical).2 hq
    exact first.exists_shared_iff second wrapped wrapped'
  · have size : s'.types.size =
        s.types.size + (s.types.newcomers (candidatesOf naming settings s.methods)).length := by
      rw [Registry.size, members, List.length_append]
      rfl
    have counted : report.typesAdded = s'.types.size - s.types.size := by
      rw [reworked.report_eq]
    omega
  · intro type new
    obtain ⟨m, _, asked⟩ := List.mem_flatMap.mp (Registry.of_mem_newcomers new).1
    exact Method.isSynthetic_of_mem_candidates asked

/-! ### A registry that holds some of the wrappers already -/

/-- The page iterator of `List` is registered already. `Create` and `widgetsCreate` ask for one
handle, and `widgetsCreate` pages over the same body as `List`. -/
def overlappingService : Service where
  name := "widgets"
  methods := [
    { group := "widgets", name := "List", kind := .paginated,
      returnType := .response ⟨some ⟨0⟩, none⟩ },
    { group := "widgets", name := "Create", kind := .longRunning,
      returnType := .response ⟨some ⟨0⟩, none⟩ },
    { name := "widgetsCreate", kind := .paginatedLongRunning,
      returnType := .response ⟨some ⟨0⟩, none⟩ }]
  types := .ofList [.ofComposite "Widget", .pageIterator (.ofElement ⟨0⟩ false)]

/-- The service after its pass: two handles are new. -/
def overlappingServiceAugmented : Service where
  name := "widgets"
  methods := [
    { group := "widgets", name := "List", kind := .paginated,
      returnType := .response ⟨some ⟨1⟩, none⟩ },
    { group := "widgets", name := "Create", kind := .longRunning,
      returnType := .response ⟨some ⟨2⟩, none⟩ },
    { name := "widgetsCreate", kind := .paginatedLongRunning,
      returnType := .pagedOperation ⟨⟨2⟩, ⟨3⟩, ⟨1⟩, none⟩ }]
  types := .ofList [.ofComposite "Widget", .pageIterator (.ofElement ⟨0⟩ false),
    .pollingHandle ⟨"widgetsCreate", false, "widgets", "Create", some ⟨0⟩⟩,
    .pollingHandle ⟨"widgetsCreateAll", true, "", "widgetsCreate", some ⟨0⟩⟩]

theorem batch_overlappingService :
    (Service.augment joinedName {}).run overlappingService =
      .ok ⟨3, 1, 1, 1, 2, [⟨"widgetsCreate", ["widgets.Create", "widgetsCreate"]⟩]⟩
        overlappingServiceAugmented ∧
    overlappingService.types.newcomers (candidatesOf joinedName {} overlappingService.methods) =
      overlappingServiceAugmented.types.members.drop 2 ∧
    overlappingServiceAugmented.types.members = overlappingService.types.members ++
      overlappingService.types.newcomers
        (candidatesOf joinedName {} overlappingService.methods) :=
  ⟨rfl, by decide, (batch_of_run_augment rfl).1⟩

end WrapperSynthesis
