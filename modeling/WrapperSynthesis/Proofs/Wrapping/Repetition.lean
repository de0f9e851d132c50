import WrapperSynthesis.Proofs.Wrapping.Refusal

/-! Wrapping a method again after the registry has grown. The method as it was is wrapped in the
same way, and the registry stays as it is (`run_wrapAs_again`). The wrapped method is another one:
its page iterator is wrapped once more, its polling handle is kept or refused, and its composed
response has no body that could be wrapped (`run_wrapAs_wrapped`). -/

namespace WrapperSynthesis

variable {naming : Naming} {kind : OperationKind} {m : Method} {types later : Registry}

namespace Method

theorem Rewired.unique {types' : Registry} {outcome outcome' : Outcome} {m' m'' : Method}
    (grows : types.Grows types') (first : m.Rewired naming types kind outcome m')
    (second : m.Rewired naming types' kind outcome' m'') : outcome' = outcome ∧ m'' = m' := by
  -- A canonical handle stays canonical while the registry grows, so both name the same wrappers.
  cases first.grows grows with
  | plain =>
    cases second
    exact ⟨rfl, rfl⟩
  | paginated hb hp =>
    cases second with
    | paginated hb' hp' =>
      obtain rfl := Option.some.inj (hb.symm.trans hb')
      obtain rfl := Option.some.inj (hp.symm.trans hp')
      exact ⟨rfl, rfl⟩
  | longRunning hh =>
    cases second with
    | longRunning hh' =>
      obtain rfl := Option.some.inj (hh.symm.trans hh')
      exact ⟨rfl, rfl⟩
  | @paginatedLongRunning _ composed hb hh hl hp hs =>
    cases second with
    | @paginatedLongRunning _ composed' hb' hh' hl' hp' hs' =>
      obtain rfl := Option.some.inj (hb.symm.trans hb')
      have same : composed' = composed := by
        obtain ⟨handle, listAll, pager, headers⟩ := composed
        obtain ⟨handle', listAll', pager', headers'⟩ := composed'
        obtain rfl := Option.some.inj (hh.symm.trans hh')
        obtain rfl := Option.some.inj (hl.symm.trans hl')
        obtain rfl := Option.some.inj (hp.symm.trans hp')
        obtain rfl : headers = m.returnType.headers := hs
        obtain rfl : headers' = m.returnType.headers := hs'
        rfl
      exact ⟨congrArg Outcome.pagedLongRunning same, by rw [same]⟩

/-- A method that is not refused gets, for each handle that it asks for, one that it shares without
conflict. -/
theorem exists_handle?_of_not_refused (allowed : m.refusal? naming kind types = none)
    {asked : PollingHandle} (hh : asked ∈ m.handles naming kind) :
    ∃ found, (types.registerAll (m.candidates naming kind)).handle? asked.key = some found ∧
      (found.originatesFrom m.group m.name = true ∨ found.result = m.returnType.body) := by
  have qualified := unqualified?_of_refusal? allowed
  have own := (of_mem_handles hh).2.2
  have free := List.findSome?_eq_none_iff.mp (Option.or_eq_none_iff.mp allowed).2 asked hh
  rw [Registry.handle?_registerAll, filterMap_candidates (isLongRunning_of_unqualified? qualified),
    find?_handles hh]
  cases met : types.handle? asked.key with
  | some found =>
    refine ⟨found, rfl, ?_⟩
    rw [← own]
    exact conflict?_eq_none_iff.mp free found met
  | none => exact ⟨asked, rfl, .inr own⟩

theorem refusal?_again (allowed : m.refusal? naming kind types = none)
    (grows : (types.registerAll (m.candidates naming kind)).Grows later) :
    m.refusal? naming kind later = none := by
  have qualified := unqualified?_of_refusal? allowed
  refine Option.or_eq_none_iff.mpr ⟨qualified, List.findSome?_eq_none_iff.mpr ?_⟩
  intro asked hh
  rw [conflict?_eq_none_iff, (of_mem_handles hh).2.2]
  intro found hf
  -- The handle that the first wrapping left is still the canonical one.
  obtain ⟨first, hfirst, shared⟩ := exists_handle?_of_not_refused allowed hh
  rw [grows.handle? hfirst] at hf
  obtain rfl := Option.some.inj hf
  exact shared

end Method

namespace Wrapping

variable {outcome : Outcome} {w : Workpiece}

/-- A method is wrapped again, as it was the first time, after further calls have made the registry
grow. It gets the same wrappers, and the registry takes up nothing. -/
theorem run_wrapAs_again (run : (wrapAs naming kind).run ⟨m, types⟩ = .ok outcome w)
    (additions : List Registry.Addition) :
    (wrapAs naming kind).run ⟨m, w.types.addAll additions⟩ =
      .ok outcome ⟨w.method, w.types.addAll additions⟩ := by
  obtain ⟨allowed, registered, rewired⟩ := of_run_wrapAs run
  have grows := Registry.grows_addAll w.types additions
  generalize w.types.addAll additions = later at grows ⊢
  have known : later.registerAll (m.candidates naming kind) = later := by
    refine Registry.registerAll_of_registered fun type ht => ?_
    obtain ⟨id, found⟩ := @Registry.exists_idOf?_registerAll types type _ ht
    rw [← registered] at found
    exact ⟨id, grows.idOf? found⟩
  have allowed' : m.refusal? naming kind later = none :=
    Method.refusal?_again allowed (registered ▸ grows)
  obtain ⟨outcome', m', run', rewired'⟩ := run_wrapAs_of_not_refused allowed'
  rw [known] at run' rewired'
  obtain ⟨rfl, rfl⟩ := rewired.unique grows rewired'
  exact run'

/-- The handle of `widgets.Export` has the name that a method `widgetsExport` asks for. -/
def adoptedTypes : Registry := .ofList [.ofComposite "Widget", .ofComposite "Gadget",
  .pollingHandle ⟨"widgetsExport", false, "widgets", "Export", some ⟨0⟩⟩]

/-- A method outside all groups. -/
def adoptingMethod : Method where
  name := "widgetsExport"
  kind := .paginatedLongRunning
  returnType := .response ⟨some ⟨0⟩, some ⟨1⟩⟩

/-- Members with the keys of the wrappers, and with other results and pages. -/
def laterAdditions : List Registry.Addition := [
  .add (.pollingHandle ⟨"widgetsExport", false, "", "widgetsExport", none⟩),
  .register (.pollingHandle ⟨"widgetsExportAll", true, "widgets", "Export", some ⟨1⟩⟩),
  .register (.pageIterator ⟨⟨0⟩, false, ⟨⟨1⟩, true⟩⟩)]

theorem run_wrapAs_again_adoptingMethod :
    let composed : PagedOperation := ⟨⟨2⟩, ⟨3⟩, ⟨4⟩, some ⟨1⟩⟩
    let wrapped := adoptingMethod.returning (.pagedOperation composed)
    let final := adoptedTypes.registerAll
      (adoptingMethod.candidates joinedName .paginatedLongRunning)
    (wrapAs joinedName .paginatedLongRunning).run ⟨adoptingMethod, adoptedTypes⟩ =
      .ok (.pagedLongRunning composed) ⟨wrapped, final⟩ ∧
    (final.addAll laterAdditions).size = 6 ∧
    (wrapAs joinedName .paginatedLongRunning).run
        ⟨adoptingMethod, final.addAll laterAdditions⟩ =
      .ok (.pagedLongRunning composed) ⟨wrapped, final.addAll laterAdditions⟩ := by
  intro composed wrapped final
  have first : (wrapAs joinedName .paginatedLongRunning).run ⟨adoptingMethod, adoptedTypes⟩ =
      .ok (.pagedLongRunning composed) ⟨wrapped, final⟩ := rfl
  exact ⟨first, rfl, run_wrapAs_again first laterAdditions⟩

/-! ### The wrapped method -/

theorem run_wrapAs_paged {element pager : TypeId} (paginated : m.kind.isPaginated = true)
    (canonical : later.idOf? (.pageIterator element m.needsPreparer) = some pager) :
    ∃ pager' final p,
      (wrapAs naming .paginated).run
          ⟨m.returning (.response ⟨some pager, m.returnType.headers⟩), later⟩ =
        .ok (.paged pager')
          ⟨m.returning (.response ⟨some pager', m.returnType.headers⟩), final⟩ ∧
      final.get? pager' = some (.pageIterator p) ∧
      p.element = pager ∧ p.needsPreparer = m.needsPreparer ∧
      later.Grows final ∧ final.size ≤ later.size + 1 ∧ (pager' = pager ↔ element = pager) := by
  let m' := m.returning (.response ⟨some pager, m.returnType.headers⟩)
  let candidate : ModelType := .pageIterator (.ofElement pager m.needsPreparer)
  have built : m'.pageIterator = .ok (.ofElement pager m.needsPreparer) :=
    Method.pageIterator_of_paginated (m := m') paginated rfl
  have grows := Registry.grows_register later candidate
  have canonical' := Registry.idOf?_register later candidate
  obtain ⟨type, found, _, hk⟩ := Registry.exists_of_idOf? canonical'
  obtain ⟨p, rfl, element', preparer'⟩ := ModelType.exists_of_key_eq_pageIterator hk
  refine ⟨(later.register candidate).1, (later.register candidate).2, p, ?_, found, element',
    preparer', grows, Registry.size_register_le later candidate, ?_⟩
  · simp only [wrapAs, map_eq_pure_bind, EStateM.run_bind, run_wrapPaginated]
    rw [built]
    rfl
  · have first := grows.idOf? canonical
    constructor
    · intro same
      rw [same] at canonical'
      have keys := Registry.key_eq_of_idOf? first canonical'
      exact (TypeKey.pageIterator.inj keys).1
    · rintro rfl
      exact Option.some.inj (canonical'.symm.trans first)

theorem run_wrapAs_polled {handle : TypeId} {h : PollingHandle}
    (longRunning : m.kind.isLongRunning = true)
    (canonical : later.idOf? (m.handle naming).key = some handle)
    (met : later.handle? (m.handle naming).key = some h) :
    let polled := m.returning (.response ⟨some handle, m.returnType.headers⟩)
    (wrapAs naming .longRunning).run ⟨polled, later⟩ =
      if h.originatesFrom m.group m.name = true ∨ h.result = some handle then
        .ok (.longRunning handle) ⟨polled, later⟩
      else .error (.handleConflict h.name m.qualifiedName h.origin) ⟨polled, later⟩ := by
  intro polled
  have name : h.name = m.handleName naming := by
    have keys := Registry.key_of_handle? met
    exact (TypeKey.pollingHandle.inj keys).1
  have built : polled.pollingHandle naming none = .ok (polled.handle naming) :=
    Method.pollingHandle_none (m := polled) longRunning
  have known : later.register (.pollingHandle (polled.handle naming)) = (handle, later) :=
    Registry.register_of_idOf? canonical
  -- The body is the handle itself now, so a handle of another origin would have to resolve to
  -- itself.
  by_cases shared : h.originatesFrom m.group m.name = true ∨ h.result = some handle
  · have free : polled.conflict? later (polled.handle naming) = none := by
      rw [Method.conflict?_eq_none_iff]
      intro found hf
      obtain rfl := Option.some.inj (met.symm.trans hf)
      exact shared
    rw [if_pos shared]
    simp only [wrapAs, map_eq_pure_bind, EStateM.run_bind, run_wrapLongRunning, built, free, known]
    rfl
  · have taken : polled.conflict? later (polled.handle naming) =
        some (.handleConflict h.name m.qualifiedName h.origin) := by
      have differs :
          (!h.originatesFrom m.group m.name && decide (h.result ≠ some handle)) = true := by
        simpa using shared
      have met' : later.handle? (polled.handle naming).key = some h := met
      rw [Method.conflict?, met', name]
      exact if_pos differs
    rw [if_neg shared]
    simp only [wrapAs, map_eq_pure_bind, EStateM.run_bind, run_wrapLongRunning, built, taken]

theorem run_wrapAs_composed {composed : PagedOperation} (paginated : m.kind.isPaginated = true) :
    (wrapAs naming .paginatedLongRunning).run ⟨m.returning (.pagedOperation composed), later⟩ =
      .error (.precondition m.qualifiedName .pageBody)
        ⟨m.returning (.pagedOperation composed), later⟩ := by
  refine run_wrapAs_of_refusal ?_
  have unqualified : (m.returning (.pagedOperation composed)).unqualified? .paginatedLongRunning =
      some (.precondition m.qualifiedName .pageBody) := by
    simp only [Method.unqualified?, Method.returning, paginated]
    rfl
  rw [Method.refusal?, unqualified]
  rfl

/-- A wrapped method is wrapped once more as the same kind, after further calls have made the
registry grow. A page iterator is wrapped in a new one, unless it was its own element. A polling
handle stays if it was made for this method, and it is refused if it was made for another one,
unless it was its own result. A composed response has no body and is refused. -/
theorem run_wrapAs_wrapped {outcome : Outcome} {w : Workpiece}
    (run : (wrapAs naming kind).run ⟨m, types⟩ = .ok outcome w)
    (additions : List Registry.Addition) :
    let later := w.types.addAll additions
    let again := (wrapAs naming kind).run ⟨w.method, later⟩
    match kind with
    | .plain => again = .ok outcome ⟨w.method, later⟩
    | .paginated => ∃ pager pager' final p,
        outcome = .paged pager ∧
        again = .ok (.paged pager')
          ⟨m.returning (.response ⟨some pager', m.returnType.headers⟩), final⟩ ∧
        final.get? pager' = some (.pageIterator p) ∧
        p.element = pager ∧ p.needsPreparer = m.needsPreparer ∧
        later.Grows final ∧ final.size ≤ later.size + 1 ∧
        (pager' = pager ↔ m.returnType.body = some pager)
    | .longRunning => ∃ handle h,
        outcome = .longRunning handle ∧ w.types.get? handle = some (.pollingHandle h) ∧
        again =
          if h.originatesFrom m.group m.name = true ∨ m.returnType.body = some handle then
            .ok outcome ⟨w.method, later⟩
          else .error (.handleConflict h.name m.qualifiedName h.origin) ⟨w.method, later⟩
    | .paginatedLongRunning =>
        again = .error (.precondition m.qualifiedName .pageBody) ⟨w.method, later⟩ := by
  intro later again
  obtain ⟨allowed, registered, rewired⟩ := of_run_wrapAs run
  have grows : w.types.Grows later := Registry.grows_addAll w.types additions
  have qualified := Method.unqualified?_of_refusal? allowed
  obtain ⟨m', types'⟩ := w
  cases rewired with
  | plain => rfl
  | @paginated element pager body canonical =>
    have paginated := Method.isPaginated_of_unqualified? qualified rfl
    obtain ⟨pager', final, p, run', found, element', preparer', grows', size, same⟩ :=
      run_wrapAs_paged paginated (grows.idOf? canonical)
    refine ⟨pager, pager', final, p, rfl, run', found, element', preparer', grows', size, ?_⟩
    rw [same, body, Option.some.injEq]
  | @longRunning handle canonical =>
    have longRunning := Method.isLongRunning_of_unqualified? qualified rfl
    have asked : m.handle naming ∈ m.handles naming .longRunning := List.mem_singleton_self _
    obtain ⟨h, met, shared⟩ := Method.exists_handle?_of_not_refused allowed asked
    rw [← registered] at met
    refine ⟨handle, h, rfl, Registry.get?_of_idOf?_key canonical met, ?_⟩
    have polled := run_wrapAs_polled longRunning (grows.idOf? canonical) (grows.handle? met)
    -- A handle of another method was only shared because it resolves to the body.
    have same : (h.originatesFrom m.group m.name = true ∨ h.result = some handle) ↔
        (h.originatesFrom m.group m.name = true ∨ m.returnType.body = some handle) := by
      rcases shared with own | result
      · simp only [own, true_or]
      · rw [result]
    simp only [same] at polled
    exact polled
  | @paginatedLongRunning _ composed =>
    exact run_wrapAs_composed (Method.isPaginated_of_unqualified? qualified rfl)

/-- Wrapped as a long-running method, `widgetsExport` shares the handle of `widgets.Export` once and
not twice. -/
theorem run_wrapAs_wrapped_adoptingMethod :
    let polled := adoptingMethod.returning (.response ⟨some ⟨2⟩, some ⟨1⟩⟩)
    (wrapAs joinedName .longRunning).run ⟨adoptingMethod, adoptedTypes⟩ =
      .ok (.longRunning ⟨2⟩) ⟨polled, adoptedTypes⟩ ∧
    (wrapAs joinedName .longRunning).run ⟨polled, adoptedTypes.addAll laterAdditions⟩ =
      .error (.handleConflict "widgetsExport" "widgetsExport" "widgets.Export")
        ⟨polled, adoptedTypes.addAll laterAdditions⟩ := by
  intro polled
  have first : (wrapAs joinedName .longRunning).run ⟨adoptingMethod, adoptedTypes⟩ =
      .ok (.longRunning ⟨2⟩) ⟨polled, adoptedTypes⟩ := rfl
  obtain ⟨handle, h, outcome, found, again⟩ := run_wrapAs_wrapped first laterAdditions
  cases outcome
  obtain rfl : _ = h := ModelType.pollingHandle.inj (Option.some.inj found)
  exact ⟨first, again.trans (if_neg (by decide))⟩

end Wrapping

end WrapperSynthesis
