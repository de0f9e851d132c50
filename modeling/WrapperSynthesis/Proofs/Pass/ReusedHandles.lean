import WrapperSynthesis.Proofs.Pass.SharedHandles

/-! What the polling handles of a method resolve to when some were registered before the pass. They
resolve to the body that the method returned, whether they are new or were made for another method.
A handle that was registered for this very method is the exception: it is reused as it is
(`forall_polls_of_run_augment`), and it may be out of date when the method has changed
(`exists_ok_outdatedService`). -/

namespace WrapperSynthesis

/-- `id` is the handle that `m` asked for. It resolves to the body of `m`, or it was registered for
this very method before the pass. -/
def Method.Receives (before types : Registry) (m : Method) (asked : PollingHandle) (id : TypeId) :
    Prop :=
  ∃ h, types.get? id = some (.pollingHandle h) ∧ h.key = asked.key ∧
    (h.result = m.returnType.body ∨
      before.handle? asked.key = some h ∧ h.originatesFrom m.group m.name = true)

/-- `m'` is `m` after it was wrapped as the given kind, with the polling handles that it
received. -/
def Method.Polls (naming : Naming) (before types : Registry) (m m' : Method) : OperationKind → Prop
  | .plain | .paginated => True
  | .longRunning => ∃ handle, m.Receives before types (m.handle naming) handle ∧
      m' = m.returning (.response ⟨some handle, m.returnType.headers⟩)
  | .paginatedLongRunning => ∃ composed,
      m.Receives before types (m.handle naming) composed.handle ∧
      m.Receives before types (m.listAllHandle naming) composed.listAllHandle ∧
      composed.headers = m.returnType.headers ∧ m' = m.returning (.pagedOperation composed)

variable {naming : Naming} {settings : GenerationSettings}

theorem Method.Rewired.polls {before types : Registry} {m m' : Method} {kind : OperationKind}
    {outcome : Outcome} (rewired : m.Rewired naming types kind outcome m')
    (received : ∀ h ∈ m.handles naming kind, ∀ id, types.idOf? h.key = some id →
      m.Receives before types h id) :
    m.Polls naming before types m' kind := by
  cases rewired with
  | plain | paginated => trivial
  | longRunning hh => exact ⟨_, received (m.handle naming) (by simp [handles]) _ hh, rfl⟩
  | @paginatedLongRunning _ composed _ hh hl _ hs =>
    exact ⟨composed, received (m.handle naming) (by simp [handles]) _ hh,
      received (m.listAllHandle naming) (by simp [handles]) _ hl, hs, rfl⟩

/-- After a pass every method that is wrapped as a long-running one returns handles with the body
that it returned before. A handle that was registered for this very method before the pass keeps
the result that it has. -/
theorem forall_polls_of_run_augment {s s' : Service} {report : Report}
    (ok : (Service.augment naming settings).run s = .ok report s') :
    List.Forall₂ (fun m m' => m.Polls naming s.types s'.types m' (settings.kindOf m))
      s.methods s'.methods := by
  obtain ⟨allowed, reworked, faultless⟩ := reworked_of_run_augment ok
  have distinct := ((Service.faults_eq_nil_iff s').mp faultless).distinct
  rw [reworked.identities] at distinct
  refine reworked.rewired.imp fun m m' => ?_
  rintro ⟨hm, outcome, rewired⟩
  refine rewired.polls fun h hh id hid => ?_
  obtain ⟨found, hf, hk, own⟩ := exists_handle? allowed distinct hm hh
  rw [← reworked.types] at hf
  exact ⟨found, Registry.get?_of_idOf?_key hid hf, hk, own⟩

/-! ### A method that was changed after an earlier pass -/

/-- The handle of `Create` dates from the time when the method returned a `Widget`. -/
def outdatedService : Service where
  name := "widgets"
  methods := [
    { name := "Create", kind := .longRunning, returnType := .response ⟨some ⟨1⟩, none⟩ },
    { name := "Export", kind := .paginatedLongRunning, returnType := .response ⟨some ⟨1⟩, none⟩ }]
  types := .ofList [.ofComposite "Widget", .ofComposite "Gadget",
    .pollingHandle ⟨"Create", false, "", "Create", some ⟨0⟩⟩]

/-- `Create` polls for a `Widget` again, and `Export` for a `Gadget`. -/
def outdatedServiceAugmented : Service where
  name := "widgets"
  methods := [
    { name := "Create", kind := .longRunning, returnType := .response ⟨some ⟨2⟩, none⟩ },
    { name := "Export", kind := .paginatedLongRunning,
      returnType := .pagedOperation ⟨⟨3⟩, ⟨4⟩, ⟨5⟩, none⟩ }]
  types := .ofList [.ofComposite "Widget", .ofComposite "Gadget",
    .pollingHandle ⟨"Create", false, "", "Create", some ⟨0⟩⟩,
    .pollingHandle ⟨"Export", false, "", "Export", some ⟨1⟩⟩,
    .pollingHandle ⟨"ExportAll", true, "", "Export", some ⟨1⟩⟩,
    .pageIterator (.ofElement ⟨1⟩ false)]

theorem forall_polls_outdatedService :
    (Service.augment joinedName {}).run outdatedService =
      .ok ⟨2, 0, 1, 1, 3, []⟩ outdatedServiceAugmented ∧
    List.Forall₂ (fun m m' => m.Polls joinedName outdatedService.types
        outdatedServiceAugmented.types m' (GenerationSettings.kindOf {} m))
      outdatedService.methods outdatedServiceAugmented.methods :=
  ⟨rfl, forall_polls_of_run_augment rfl⟩

/-- The pass succeeds, although `Create` now returns a handle with another result than its body, to
which it did not refer before. -/
theorem exists_ok_outdatedService :
    outdatedService.faults = [] ∧
    (Service.augment joinedName {}).run outdatedService =
      .ok ⟨2, 0, 1, 1, 3, []⟩ outdatedServiceAugmented ∧
    ∃ m ∈ outdatedService.methods, ∃ m' ∈ outdatedServiceAugmented.methods,
      m'.identity = m.identity ∧ GenerationSettings.kindOf {} m = .longRunning ∧
      ∃ handle h, m'.returnType.body = some handle ∧
        outdatedServiceAugmented.types.get? handle = some (.pollingHandle h) ∧
        h.result ≠ m.returnType.body ∧ handle ∉ m.returnType.referenced :=
  ⟨rfl, rfl, _, List.mem_cons_self, _, List.mem_cons_self, rfl, rfl, ⟨2⟩, _, rfl, rfl, by decide,
    by decide⟩

end WrapperSynthesis
