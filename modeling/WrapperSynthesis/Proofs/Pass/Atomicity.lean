import WrapperSynthesis.Proofs.Pass.Walk
import WrapperSynthesis.Proofs.Service.Editing

/-! Failures change nothing. Wrapping a method looks at its workpiece before it changes it: all that
can fail only inspects (`Inspects`), and from the first change on nothing fails (`NeverFails`). A
pass may fail in the middle of its walk, with wrappers registered for the methods before, or at its
end, but the service is replaced only when it succeeds (`run_augment_eq_error_iff`). -/

namespace WrapperSynthesis

/-! ### Wrapping a method -/

namespace Wrapping

theorem inspects_require {α : Type} (found : Except WrapError α) :
    Inspects (require found : Wrapping α) := by
  cases found with
  | ok a => exact inspects_pure a
  | error e => exact inspects_throw e

theorem inspects_checkShared (candidate : PollingHandle) : Inspects (checkShared candidate) := by
  intro w
  rw [stateAfter, run_checkShared]
  cases w.method.conflict? w.types candidate <;> rfl

theorem neverFails_register (type : ModelType) : NeverFails (register type) :=
  fun _ => ⟨_, _, rfl⟩

theorem neverFails_setReturnType (returnType : ReturnType) :
    NeverFails (setReturnType returnType : Wrapping Unit) :=
  fun _ => ⟨_, _, rfl⟩

theorem failsClean_wrapPaginated : FailsClean wrapPaginated := by
  refine inspects_get.bind_failsClean fun w => ?_
  refine (inspects_require _).bind_failsClean fun candidate => NeverFails.failsClean ?_
  refine (neverFails_register _).bind fun pager => ?_
  exact (neverFails_setReturnType _).bind fun _ => neverFails_pure pager

theorem failsClean_wrapLongRunning (naming : Naming) : FailsClean (wrapLongRunning naming) := by
  refine inspects_get.bind_failsClean fun w => ?_
  refine (inspects_require _).bind_failsClean fun candidate => ?_
  refine (inspects_checkShared candidate).bind_failsClean fun _ => NeverFails.failsClean ?_
  refine (neverFails_register _).bind fun handle => ?_
  exact (neverFails_setReturnType _).bind fun _ => neverFails_pure handle

/-- All three wrappers are built, and both handles checked, before the first one is registered. -/
theorem failsClean_wrapPaginatedLongRunning (naming : Naming) :
    FailsClean (wrapPaginatedLongRunning naming) := by
  refine inspects_get.bind_failsClean fun w => ?_
  refine (inspects_require _).bind_failsClean fun pager => ?_
  refine (inspects_require _).bind_failsClean fun handle => ?_
  refine (inspects_require _).bind_failsClean fun listAll => ?_
  refine (inspects_checkShared handle).bind_failsClean fun _ => ?_
  refine (inspects_checkShared listAll).bind_failsClean fun _ => NeverFails.failsClean ?_
  refine (neverFails_register _).bind fun first => ?_
  refine (neverFails_register _).bind fun second => ?_
  refine (neverFails_register _).bind fun third => ?_
  exact (neverFails_setReturnType _).bind fun _ => neverFails_pure _

theorem failsClean_wrapAs (naming : Naming) (kind : OperationKind) :
    FailsClean (wrapAs naming kind) := by
  cases kind with
  | plain => exact (neverFails_pure _).failsClean
  | paginated => exact failsClean_wrapPaginated.map _
  | longRunning => exact (failsClean_wrapLongRunning naming).map _
  | paginatedLongRunning => exact (failsClean_wrapPaginatedLongRunning naming).map _

theorem failsClean_wrap (naming : Naming) : FailsClean (wrap naming) :=
  inspects_get.bind_failsClean fun w => failsClean_wrapAs naming w.method.kind

end Wrapping

/-! ### A pass -/

variable {naming : Naming} {settings : GenerationSettings}

theorem result_ofMethods_cons {m : Method} {rest : List Method} {types : Registry}
    {outcome : Outcome} {w : Workpiece}
    (ran : (Wrapping.wrapAs naming (settings.kindOf m)).run ⟨m, types⟩ = .ok outcome w) :
    (Walk.ofMethods naming settings (m :: rest) types).result =
      (Walk.ofMethods naming settings rest w.types).result.map
        fun (methods, types) => (w.method :: methods, types) := by
  simp only [Walk.ofMethods, ran]

theorem result_ofMethods_cons_of_error {m : Method} {rest : List Method} {types : Registry}
    {e : WrapError} {w : Workpiece}
    (ran : (Wrapping.wrapAs naming (settings.kindOf m)).run ⟨m, types⟩ = .error e w) :
    (Walk.ofMethods naming settings (m :: rest) types).result = .error e := by
  simp only [Walk.ofMethods, ran]

/-- The walk stops at a method: those before it have been wrapped, and on the registry with their
wrappers it fails with `e`. -/
def StopsWith (naming : Naming) (settings : GenerationSettings) (methods : List Method)
    (types : Registry) (e : WrapError) : Prop :=
  ∃ before m after done known, methods = before ++ m :: after ∧
    (Walk.ofMethods naming settings before types).result = .ok (done, known) ∧
    (Wrapping.wrapAs naming (settings.kindOf m)).run ⟨m, known⟩ = .error e ⟨m, known⟩

theorem stopsWith_cons_iff {m : Method} {rest : List Method} {types : Registry} {e : WrapError} :
    StopsWith naming settings (m :: rest) types e ↔
      (Wrapping.wrapAs naming (settings.kindOf m)).run ⟨m, types⟩ = .error e ⟨m, types⟩ ∨
      ∃ outcome w, (Wrapping.wrapAs naming (settings.kindOf m)).run ⟨m, types⟩ = .ok outcome w ∧
        StopsWith naming settings rest w.types e := by
  constructor
  · rintro ⟨before, m', after, done, known, split, reached, failed⟩
    -- Whether the first method of the walk is the one that fails.
    cases before with
    | nil =>
      cases split
      cases reached
      exact .inl failed
    | cons first before =>
      cases split
      cases ran : (Wrapping.wrapAs naming (settings.kindOf m)).run ⟨m, types⟩ with
      | error e' w =>
        rw [result_ofMethods_cons_of_error ran] at reached
        cases reached
      | ok outcome w =>
        rw [result_ofMethods_cons ran] at reached
        cases walked : (Walk.ofMethods naming settings before w.types).result with
        | error e' =>
          rw [walked] at reached
          cases reached
        | ok final =>
          rw [walked] at reached
          cases reached
          exact .inr ⟨outcome, w, rfl, before, m', after, final.1, final.2, rfl, walked, failed⟩
  · rintro (failed | ⟨outcome, w, ran, before, m', after, done, known, rfl, reached, failed⟩)
    · exact ⟨[], m, rest, [], types, rfl, rfl, failed⟩
    · refine ⟨m :: before, m', after, w.method :: done, known, rfl, ?_, failed⟩
      rw [result_ofMethods_cons ran, reached]
      rfl

theorem result_ofMethods_eq_error_iff {methods : List Method} {types : Registry} {e : WrapError} :
    (Walk.ofMethods naming settings methods types).result = .error e ↔
      StopsWith naming settings methods types e := by
  induction methods generalizing types with
  | nil => simp [Walk.ofMethods, StopsWith]
  | cons m rest ih =>
    rw [stopsWith_cons_iff]
    cases ran : (Wrapping.wrapAs naming (settings.kindOf m)).run ⟨m, types⟩ with
    | error e' w =>
      -- The failure is clean, so the registry of the stop is the one that was reached.
      obtain rfl := Wrapping.failsClean_wrapAs naming _ _ _ _ ran
      simp [result_ofMethods_cons_of_error ran]
    | ok outcome w =>
      rw [result_ofMethods_cons ran]
      have later : (Walk.ofMethods naming settings rest w.types).result = .error e ↔
          StopsWith naming settings rest w.types e := ih
      cases walked : (Walk.ofMethods naming settings rest w.types).result <;>
        simp [Except.map, ← later, walked]

/-- How a pass over the service fails: a method is refused, with the wrappers of all methods before
it registered, or all methods have been wrapped and the working copy has faults. -/
inductive FailsWith (naming : Naming) (settings : GenerationSettings) (s : Service) :
    PassError → Prop
  | refused {e : WrapError} :
      StopsWith naming settings s.methods s.types e → FailsWith naming settings s (.wrap e)
  | invalid {methods : List Method} {types : Registry} :
      (Walk.ofMethods naming settings s.methods s.types).result = .ok (methods, types) →
      ({ s with methods, types } : Service).faults ≠ [] →
      FailsWith naming settings s (.invalid ({ s with methods, types } : Service).faults)

theorem result_ofService_eq_error_iff {s : Service} {e : PassError} :
    (Pass.ofService naming settings s).result = .error e ↔ FailsWith naming settings s e := by
  simp only [Pass.ofService]
  constructor
  · intro failed
    cases walked : (Walk.ofMethods naming settings s.methods s.types).result with
    | error e' =>
      rw [walked] at failed
      cases failed
      exact .refused (result_ofMethods_eq_error_iff.mp walked)
    | ok final =>
      rw [walked] at failed
      by_cases faultless : ({ s with methods := final.1, types := final.2 } : Service).faults = []
      · simp [Service.diagnostics, Diagnostics.hasErrors, faultless] at failed
      · simp only [Service.toPlain_eq, Service.diagnostics, Diagnostics.hasErrors,
          List.isEmpty_eq_false_iff.mpr faultless,
          Bool.not_false, ite_true] at failed
        cases failed
        exact .invalid walked faultless
  · rintro (stops | ⟨walked, faulty⟩)
    · rw [result_ofMethods_eq_error_iff.mpr stops]
    · simp [walked, Service.diagnostics, Diagnostics.hasErrors,
        List.isEmpty_eq_false_iff.mpr faulty]

theorem run_augment_eq_error_iff {s s' : Service} {e : PassError} :
    (Service.augment naming settings).run s = .error e s' ↔
      s' = s ∧ FailsWith naming settings s e := by
  rw [run_augment, ← result_ofService_eq_error_iff]
  cases (Pass.ofService naming settings s).result with
  | ok final => simp
  | error e' =>
    rw [EStateM.Result.error.injEq, Except.error.injEq, and_comm, eq_comm (a := s)]

/-- A failure changes nothing, however late it comes: neither the method and the registry when a
method cannot be wrapped, nor the service when a pass fails. -/
theorem unchanged_of_failure (naming : Naming) :
    (∀ kind w e w', (Wrapping.wrapAs naming kind).run w = .error e w' ↔
      w' = w ∧ w.method.refusal? naming kind w.types = some e) ∧
    FailsClean (Wrapping.wrap naming) ∧ FailsClean Wrapping.wrapPaginated ∧
    FailsClean (Wrapping.wrapLongRunning naming) ∧
    FailsClean (Wrapping.wrapPaginatedLongRunning naming) ∧
    ∀ settings s e s', (Service.augment naming settings).run s = .error e s' ↔
      s' = s ∧ FailsWith naming settings s e := by
  refine ⟨fun kind w e w' => ?_, Wrapping.failsClean_wrap naming, Wrapping.failsClean_wrapPaginated,
    Wrapping.failsClean_wrapLongRunning naming,
    Wrapping.failsClean_wrapPaginatedLongRunning naming,
    fun settings s e s' => run_augment_eq_error_iff⟩
  constructor
  · intro failed
    obtain rfl := Wrapping.failsClean_wrapAs naming kind w e w' failed
    refine ⟨rfl, ?_⟩
    cases refused : w'.method.refusal? naming kind w'.types with
    | none =>
      obtain ⟨outcome, m', ran, _⟩ := Wrapping.run_wrapAs_of_not_refused refused
      rw [failed] at ran
      cases ran
    | some e' =>
      rw [Wrapping.run_wrapAs_of_refusal refused] at failed
      cases failed
      rfl
  · rintro ⟨rfl, refused⟩
    exact Wrapping.run_wrapAs_of_refusal refused

/-! ### A conflict over the last of three wrappers -/

/-- The list-all handle of `List` is taken by a method that is gone. Its other wrappers are free,
and `Create` before it can be wrapped. -/
def takenService : Service where
  name := "widgets"
  methods := [
    { group := "widgets", name := "Create", kind := .longRunning,
      returnType := .response ⟨some ⟨0⟩, none⟩ },
    { group := "widgets", name := "List", kind := .paginatedLongRunning,
      returnType := .response ⟨some ⟨1⟩, none⟩ }]
  types := .ofList [.ofComposite "Widget", .ofComposite "Gadget",
    .pollingHandle ⟨"widgetsListAll", true, "gadgets", "List", some ⟨0⟩⟩]

/-- `List` is tried on the registry that holds the handle of `Create`. -/
theorem run_augment_takenService :
    (Service.augment joinedName {}).run takenService =
      .error (.wrap (.handleConflict "widgetsListAll" "widgets.List" "gadgets.List"))
        takenService := by
  refine ((unchanged_of_failure joinedName).2.2.2.2.2 _ _ _ _).mpr ⟨rfl, .refused ?_⟩
  let m := takenService.methods[1]
  let known := takenService.types.registerAll
    [.pollingHandle ⟨"widgetsCreate", false, "widgets", "Create", some ⟨0⟩⟩]
  have refused : m.refusal? joinedName .paginatedLongRunning known =
      some (.handleConflict "widgetsListAll" "widgets.List" "gadgets.List") := by decide
  have failed := ((unchanged_of_failure joinedName).1 _ ⟨m, known⟩ _ _).mpr ⟨rfl, refused⟩
  exact ⟨takenService.methods.take 1, m, [], _, known, rfl, rfl, failed⟩

end WrapperSynthesis
