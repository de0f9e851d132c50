import WrapperSynthesis.Wrapper.Wrapping
import WrapperSynthesis.Proofs.Wrapping.Candidates

/-! What wrapping one method does. A method is refused when it does not qualify for its kind or
when one of its handles is taken (`Method.refusal?`). Then nothing changes
(`run_wrapAs_of_refusal`). Otherwise its candidates are registered in order and it returns their
canonical handles (`run_wrapAs_of_not_refused`), and nothing else is a success (`of_run_wrapAs`). -/

namespace WrapperSynthesis

namespace Method

/-- The method with another return type. -/
def returning (m : Method) (returnType : ReturnType) : Method := { m with returnType }

@[simp] theorem returnType_returning (m : Method) (returnType : ReturnType) :
    (m.returning returnType).returnType = returnType := rfl

/-- Why the method may not share the handle that has the key of a candidate: the handle was made for
another method and resolves to another type. -/
def conflict? (types : Registry) (m : Method) (candidate : PollingHandle) : Option WrapError :=
  match types.handle? candidate.key with
  | some existing =>
    if !existing.originatesFrom m.group m.name && existing.result ≠ candidate.result then
      some (.handleConflict candidate.name m.qualifiedName existing.origin)
    else none
  | none => none

theorem conflict?_eq_none_iff {types : Registry} {m : Method} {h : PollingHandle} :
    m.conflict? types h = none ↔ ∀ found, types.handle? h.key = some found →
      found.originatesFrom m.group m.name = true ∨ found.result = h.result := by
  rw [conflict?]
  cases types.handle? h.key with
  | none => simp
  | some found =>
    cases ho : found.originatesFrom m.group m.name <;> by_cases hr : found.result = h.result <;>
      simp [ho, hr]

/-- Why the method cannot be wrapped as the given kind: it does not qualify, or one of the handles
that it asks for is taken. -/
def refusal? (naming : Naming) (kind : OperationKind) (types : Registry) (m : Method) :
    Option WrapError :=
  (m.unqualified? kind).or ((m.handles naming kind).findSome? (m.conflict? types))

theorem findSome?_handles_composed (naming : Naming) (m : Method)
    (check : PollingHandle → Option WrapError) :
    (m.handles naming .paginatedLongRunning).findSome? check =
      (check (m.handle naming)).or (check (m.listAllHandle naming)) := by
  simp only [handles, List.findSome?_cons, List.findSome?_nil]
  cases check (m.handle naming) <;> cases check (m.listAllHandle naming) <;> rfl

theorem unqualified?_of_refusal? {naming : Naming} {kind : OperationKind} {types : Registry}
    {m : Method} (h : m.refusal? naming kind types = none) : m.unqualified? kind = none :=
  (Option.or_eq_none_iff.mp h).1

/-- A method before and after it is wrapped as the given kind, with its wrappers registered in
`types`. -/
inductive Rewired (naming : Naming) (types : Registry) (m : Method) :
    OperationKind → Outcome → Method → Prop
  | plain : Rewired naming types m .plain .unchanged m
  | paginated {element pager : TypeId} :
      m.returnType.body = some element →
      types.idOf? (.pageIterator element m.needsPreparer) = some pager →
      Rewired naming types m .paginated (.paged pager)
        (m.returning (.response ⟨some pager, m.returnType.headers⟩))
  | longRunning {handle : TypeId} :
      types.idOf? (m.handle naming).key = some handle →
      Rewired naming types m .longRunning (.longRunning handle)
        (m.returning (.response ⟨some handle, m.returnType.headers⟩))
  | paginatedLongRunning {element : TypeId} {composed : PagedOperation} :
      m.returnType.body = some element →
      types.idOf? (m.handle naming).key = some composed.handle →
      types.idOf? (m.listAllHandle naming).key = some composed.listAllHandle →
      types.idOf? (.pageIterator element m.needsPreparer) = some composed.pager →
      composed.headers = m.returnType.headers →
      Rewired naming types m .paginatedLongRunning (.pagedLongRunning composed)
        (m.returning (.pagedOperation composed))

theorem Rewired.grows {naming : Naming} {types types' : Registry} {m m' : Method}
    {kind : OperationKind} {outcome : Outcome} (h : types.Grows types')
    (rewired : m.Rewired naming types kind outcome m') :
    m.Rewired naming types' kind outcome m' := by
  cases rewired with
  | plain => exact .plain
  | paginated hb hp => exact .paginated hb (h.idOf? hp)
  | longRunning hh => exact .longRunning (h.idOf? hh)
  | paginatedLongRunning hb hh hl hp hs =>
    exact .paginatedLongRunning hb (h.idOf? hh) (h.idOf? hl) (h.idOf? hp) hs

/-- Rewiring replaces the return type and nothing else. -/
theorem Rewired.exists_returning {naming : Naming} {types : Registry} {m m' : Method}
    {kind : OperationKind} {outcome : Outcome} (rewired : m.Rewired naming types kind outcome m') :
    ∃ returnType, m' = m.returning returnType := by
  cases rewired with
  | plain => exact ⟨m.returnType, rfl⟩
  | paginated | longRunning | paginatedLongRunning => exact ⟨_, rfl⟩

end Method

namespace Wrapping

theorem reused?_eq_handle? (types : Registry) (candidate : PollingHandle) :
    reused? types candidate = types.handle? candidate.key := by
  rw [Registry.handle?, ← Registry.get?_idOf?]
  simp only [reused?, TypeTable.canonicalOf_registry, Registry.canonicalOf,
    ModelType.key_pollingHandle]
  cases types.idOf? candidate.key <;> rfl

variable {naming : Naming} {kind : OperationKind} {m : Method} {types : Registry}

theorem run_checkShared (candidate : PollingHandle) (w : Workpiece) :
    (checkShared candidate).run w =
      match w.method.conflict? w.types candidate with
      | some e => .error e w
      | none => .ok () w := by
  simp only [checkShared, EStateM.run_bind, EStateM.run_get, reused?_eq_handle?, Method.conflict?]
  cases w.types.handle? candidate.key with
  | none => rfl
  | some existing =>
    by_cases h : (!existing.originatesFrom w.method.group w.method.name &&
        decide (existing.result ≠ candidate.result)) = true
    · simp only [h, ite_true]; rfl
    · simp only [h]; rfl

theorem run_require_ok {α : Type} (a : α) (w : Workpiece) : (require (.ok a)).run w = .ok a w := rfl

theorem run_wrapPaginated (m : Method) (types : Registry) :
    wrapPaginated.run ⟨m, types⟩ =
      match m.pageIterator with
      | .error e => .error e ⟨m, types⟩
      | .ok pager =>
        .ok (types.register (.pageIterator pager)).1
          ⟨m.returning (.response ⟨some (types.register (.pageIterator pager)).1,
            m.returnType.headers⟩), (types.register (.pageIterator pager)).2⟩ := by
  simp only [wrapPaginated, EStateM.run_bind, EStateM.run_get]
  cases m.pageIterator <;> rfl

theorem run_wrapLongRunning (naming : Naming) (m : Method) (types : Registry) :
    (wrapLongRunning naming).run ⟨m, types⟩ =
      match m.pollingHandle naming none with
      | .error e => .error e ⟨m, types⟩
      | .ok handle =>
        match m.conflict? types handle with
        | some e => .error e ⟨m, types⟩
        | none =>
          .ok (types.register (.pollingHandle handle)).1
            ⟨m.returning (.response ⟨some (types.register (.pollingHandle handle)).1,
              m.returnType.headers⟩), (types.register (.pollingHandle handle)).2⟩ := by
  simp only [wrapLongRunning, EStateM.run_bind, EStateM.run_get]
  cases m.pollingHandle naming none with
  | error e => rfl
  | ok handle =>
    simp only [run_require_ok, run_checkShared]
    cases m.conflict? types handle <;> rfl

/-- Both checks are made before the first wrapper is registered. -/
theorem run_wrapPaginatedLongRunning (naming : Naming) (m : Method) (types : Registry) :
    (wrapPaginatedLongRunning naming).run ⟨m, types⟩ =
      match m.pageIterator, m.pollingHandle naming none,
        m.pollingHandle naming (some (m.listAllName naming)) with
      | .ok pager, .ok handle, .ok listAll =>
        match (m.conflict? types handle).or (m.conflict? types listAll) with
        | some e => .error e ⟨m, types⟩
        | none =>
          let first := types.register (.pollingHandle handle)
          let second := first.2.register (.pollingHandle listAll)
          let third := second.2.register (.pageIterator pager)
          let composed := ⟨first.1, second.1, third.1, m.returnType.headers⟩
          .ok composed ⟨m.returning (.pagedOperation composed), third.2⟩
      | .error e, _, _ | .ok _, .error e, _ | .ok _, .ok _, .error e => .error e ⟨m, types⟩ := by
  simp only [wrapPaginatedLongRunning, EStateM.run_bind, EStateM.run_get]
  cases m.pageIterator with
  | error e => rfl
  | ok pager =>
    cases m.pollingHandle naming none with
    | error e => rfl
    | ok handle =>
      cases m.pollingHandle naming (some (m.listAllName naming)) with
      | error e => rfl
      | ok listAll =>
        simp only [run_require_ok, run_checkShared]
        cases m.conflict? types handle with
        | some e => rfl
        | none =>
          simp only [Option.none_or]
          cases m.conflict? types listAll <;> rfl

/-! ### A method that is refused -/

/-- A refused method and the registry stay as they are. -/
theorem run_wrapAs_of_refusal {e : WrapError} (h : m.refusal? naming kind types = some e) :
    (wrapAs naming kind).run ⟨m, types⟩ = .error e ⟨m, types⟩ := by
  cases kind with
  | plain => simp [Method.refusal?, Method.unqualified?, Method.handles] at h
  | paginated =>
    simp only [Method.refusal?, Method.handles, List.findSome?_nil, Option.or_none] at h
    have hp := Method.pageIterator_of_unqualified? h
    simp only [wrapAs, map_eq_pure_bind, EStateM.run_bind, run_wrapPaginated, hp]
  | longRunning =>
    simp only [Method.refusal?, Method.handles] at h
    simp only [wrapAs, map_eq_pure_bind, EStateM.run_bind, run_wrapLongRunning]
    -- The method does not qualify, or its handle is taken.
    cases hu : m.unqualified? .longRunning with
    | some e' =>
      rw [hu] at h
      cases h
      rw [Method.pollingHandle_of_unqualified? none hu]
    | none =>
      rw [hu] at h
      rw [Method.pollingHandle_none (Method.isLongRunning_of_unqualified? hu rfl)]
      have hc : m.conflict? types (m.handle naming) = some e := by
        simpa using h
      simp only [hc]
  | paginatedLongRunning =>
    simp only [wrapAs, map_eq_pure_bind, EStateM.run_bind, run_wrapPaginatedLongRunning]
    rw [Method.refusal?, Method.unqualified?_paginatedLongRunning] at h
    -- The page iterator is built first, so what it lacks is the reason even when the handles are
    -- taken.
    cases hp : m.unqualified? .paginated with
    | some e' =>
      rw [hp] at h
      cases h
      rw [Method.pageIterator_of_unqualified? hp]
    | none =>
      obtain ⟨element, hb⟩ := Method.exists_body_of_unqualified? hp rfl
      rw [Method.pageIterator_of_paginated (Method.isPaginated_of_unqualified? hp rfl) hb]
      cases hl : m.unqualified? .longRunning with
      | some e' =>
        rw [hp, hl] at h
        cases h
        rw [Method.pollingHandle_of_unqualified? none hl]
      | none =>
        have hk := Method.isLongRunning_of_unqualified? hl rfl
        rw [Method.pollingHandle_none hk, Method.pollingHandle_listAllName hk]
        rw [hp, hl, Option.or_none, Option.none_or, Method.findSome?_handles_composed] at h
        simp only [h]

/-! ### A method that is not refused -/

/-- The registry takes up the candidates of a method that is not refused, and the method returns
their canonical handles. -/
theorem run_wrapAs_of_not_refused (h : m.refusal? naming kind types = none) :
    ∃ outcome m',
      (wrapAs naming kind).run ⟨m, types⟩ =
        .ok outcome ⟨m', types.registerAll (m.candidates naming kind)⟩ ∧
      m.Rewired naming (types.registerAll (m.candidates naming kind)) kind outcome m' := by
  have hu := Method.unqualified?_of_refusal? h
  have hc := (Option.or_eq_none_iff.mp h).2
  -- The candidates of a qualified method are its handles and then its page iterator.
  rw [Method.candidates_of_qualified hu]
  cases kind with
  | plain => exact ⟨.unchanged, m, rfl, .plain⟩
  | paginated =>
    obtain ⟨element, hb⟩ := Method.exists_body_of_unqualified? hu rfl
    have hp := Method.pageIterator_of_paginated (Method.isPaginated_of_unqualified? hu rfl) hb
    let pager : ModelType := .pageIterator (.ofElement element m.needsPreparer)
    have hr : Method.handles naming .paginated m = [] := rfl
    have hps : m.pagers .paginated = [.ofElement element m.needsPreparer] := by
      simp [Method.pagers, hb]
    rw [hr, hps]
    refine ⟨.paged (types.register pager).1, m.returning (.response
      ⟨some (types.register pager).1, m.returnType.headers⟩), ?_, ?_⟩
    · simp only [wrapAs, map_eq_pure_bind, EStateM.run_bind, run_wrapPaginated, hp]
      rfl
    · exact .paginated hb (types.idOf?_register pager)
  | longRunning =>
    have hk := Method.isLongRunning_of_unqualified? hu rfl
    let handle : ModelType := .pollingHandle (m.handle naming)
    have hn : m.conflict? types (m.handle naming) = none := by
      simpa [Method.handles] using hc
    refine ⟨.longRunning (types.register handle).1, m.returning (.response
      ⟨some (types.register handle).1, m.returnType.headers⟩), ?_, ?_⟩
    · simp only [wrapAs, map_eq_pure_bind, EStateM.run_bind, run_wrapLongRunning,
        Method.pollingHandle_none hk, hn]
      rfl
    · exact .longRunning (types.idOf?_register handle)
  | paginatedLongRunning =>
    obtain ⟨element, hb⟩ := Method.exists_body_of_unqualified? hu rfl
    have hp := Method.pageIterator_of_paginated (Method.isPaginated_of_unqualified? hu rfl) hb
    have hk := Method.isLongRunning_of_unqualified? hu rfl
    have hps : m.pagers .paginatedLongRunning = [.ofElement element m.needsPreparer] := by
      simp [Method.pagers, hb]
    rw [Method.findSome?_handles_composed] at hc
    rw [hps]
    -- The registries after each of the three wrappers.
    let first := types.register (.pollingHandle (m.handle naming))
    let second := first.2.register (.pollingHandle (m.listAllHandle naming))
    let third := second.2.register (.pageIterator (.ofElement element m.needsPreparer))
    let composed : PagedOperation := ⟨first.1, second.1, third.1, m.returnType.headers⟩
    refine ⟨.pagedLongRunning composed, m.returning (.pagedOperation composed), ?_, ?_⟩
    · simp only [wrapAs, map_eq_pure_bind, EStateM.run_bind, run_wrapPaginatedLongRunning, hp,
        Method.pollingHandle_none hk, Method.pollingHandle_listAllName hk, hc]
      rfl
    · -- Each wrapper keeps its canonical handle while the later ones are registered.
      have grows2 : second.2.Grows third.2 := Registry.grows_register _ _
      have grows1 : first.2.Grows third.2 := (Registry.grows_register _ _).trans grows2
      exact .paginatedLongRunning hb (grows1.idOf? (Registry.idOf?_register _ _))
        (grows2.idOf? (Registry.idOf?_register _ _)) (Registry.idOf?_register _ _) rfl

theorem of_run_wrapAs {outcome : Outcome} {w : Workpiece}
    (run : (wrapAs naming kind).run ⟨m, types⟩ = .ok outcome w) :
    m.refusal? naming kind types = none ∧
      w.types = types.registerAll (m.candidates naming kind) ∧
      m.Rewired naming w.types kind outcome w.method := by
  cases refused : m.refusal? naming kind types with
  | some e =>
    rw [run_wrapAs_of_refusal refused] at run
    cases run
  | none =>
    obtain ⟨outcome', m', run', rewired⟩ := run_wrapAs_of_not_refused refused
    rw [run'] at run
    cases run
    exact ⟨rfl, rfl, rewired⟩

end Wrapping

end WrapperSynthesis
