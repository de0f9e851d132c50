import WrapperSynthesis.Proofs.Pass.SharedHandles

/-! What the methods return after a pass: wrappers of the very body that they returned before it,
with their headers (`forall_boundTo_of_run_augment`). Methods that share a polling handle agree on
its result. -/

namespace WrapperSynthesis

namespace Registry

/-- `id` is a polling handle of the given name and list-all marker, and resolves to `result`. -/
def ResolvesTo (r : Registry) (id : TypeId) (name : String) (listAll : Bool)
    (result : Option TypeId) : Prop :=
  ∃ h, r.get? id = some (.pollingHandle h) ∧ h.name = name ∧ h.listAll = listAll ∧
    h.result = result

/-- `id` is an iterator over pages of `body`. -/
def PagesOver (r : Registry) (id : TypeId) (body : Option TypeId) (needsPreparer : Bool) : Prop :=
  ∃ p, r.get? id = some (.pageIterator p) ∧ some p.element = body ∧ p.needsPreparer = needsPreparer

end Registry

/-- `m'` is `m` after it was wrapped as the given kind: it returns wrappers of the body of `m`. -/
def Method.BoundTo (naming : Naming) (types : Registry) (m m' : Method) : OperationKind → Prop
  | .plain => m' = m
  | .paginated => ∃ pager, types.PagesOver pager m.returnType.body m.needsPreparer ∧
      m' = m.returning (.response ⟨some pager, m.returnType.headers⟩)
  | .longRunning => ∃ handle,
      types.ResolvesTo handle (m.handleName naming) false m.returnType.body ∧
      m' = m.returning (.response ⟨some handle, m.returnType.headers⟩)
  | .paginatedLongRunning => ∃ handle listAllHandle pager,
      types.ResolvesTo handle (m.handleName naming) false m.returnType.body ∧
      types.ResolvesTo listAllHandle (m.listAllName naming) true m.returnType.body ∧
      types.PagesOver pager m.returnType.body m.needsPreparer ∧
      m' = m.returning (.pagedOperation ⟨handle, listAllHandle, pager, m.returnType.headers⟩)

variable {naming : Naming} {settings : GenerationSettings}

theorem Registry.pagesOver_of_idOf? {types : Registry} {m : Method} {element pager : TypeId}
    (hb : m.returnType.body = some element)
    (hp : types.idOf? (.pageIterator element m.needsPreparer) = some pager) :
    types.PagesOver pager m.returnType.body m.needsPreparer := by
  obtain ⟨type, found, _, hk⟩ := exists_of_idOf? hp
  obtain ⟨p, rfl, he, hn⟩ := ModelType.exists_of_key_eq_pageIterator hk
  exact ⟨p, found, by rw [he, hb], hn⟩

/-- A method that was rewired is bound to its own body when the handles that it gets have its body
as their result. -/
theorem Method.Rewired.boundTo {types : Registry} {m m' : Method} {kind : OperationKind}
    {outcome : Outcome} (rewired : m.Rewired naming types kind outcome m')
    (own : ∀ h ∈ m.handles naming kind, ∀ id, types.idOf? h.key = some id →
      types.ResolvesTo id h.name h.listAll m.returnType.body) :
    m.BoundTo naming types m' kind := by
  cases rewired with
  | plain => rfl
  | paginated hb hp => exact ⟨_, Registry.pagesOver_of_idOf? hb hp, rfl⟩
  | longRunning hh =>
    exact ⟨_, own (m.handle naming) (by simp [handles]) _ hh, rfl⟩
  | @paginatedLongRunning _ composed hb hh hl hp hs =>
    refine ⟨_, _, _, own (m.handle naming) (by simp [handles]) _ hh,
      own (m.listAllHandle naming) (by simp [handles]) _ hl, Registry.pagesOver_of_idOf? hb hp, ?_⟩
    rw [← hs]

/-- After a pass over a service without polling handles every method returns wrappers of its own
former body: a handle that it shares with other methods resolves to the same type for all of
them. -/
theorem forall_boundTo_of_run_augment {s s' : Service} {report : Report}
    (fresh : s.types.pollingHandles = [])
    (h : (Service.augment naming settings).run s = .ok report s') :
    List.Forall₂ (fun m m' => m.BoundTo naming s'.types m' (settings.kindOf m))
      s.methods s'.methods := by
  obtain ⟨allowed, reworked, faultless⟩ := reworked_of_run_augment h
  have distinct := ((Service.faults_eq_nil_iff s').mp faultless).distinct
  rw [reworked.identities] at distinct
  have absent : ∀ h : PollingHandle, s.types.handle? h.key = none := by
    intro h
    rw [Registry.handle?_key, Registry.handles_eq, fresh]
    rfl
  refine reworked.rewired.imp fun m m' => ?_
  rintro ⟨hm, outcome, rewired⟩
  refine rewired.boundTo fun h hh id hid => ?_
  obtain ⟨found, hf, hk, own⟩ := exists_handle? allowed distinct hm hh
  rw [← reworked.types] at hf
  rw [absent h] at own
  rw [PollingHandle.key, PollingHandle.key, TypeKey.pollingHandle.injEq] at hk
  exact ⟨found, Registry.get?_of_idOf?_key hid hf, hk.1, hk.2, own.resolve_right (by simp)⟩

/-! ### Two methods with one handle -/

/-- Both methods ask for a handle named `widgetsCreate`, and they have the same body. -/
def sharingService : Service where
  name := "widgets"
  methods := [
    { group := "widgets", name := "Create", kind := .longRunning,
      returnType := .response ⟨some ⟨0⟩, none⟩ },
    { name := "widgetsCreate", kind := .paginatedLongRunning,
      returnType := .response ⟨some ⟨0⟩, none⟩ }]
  types := .ofList [.ofComposite "Widget"]

/-- The service once its methods share the handle of the first one. -/
def sharingServiceAugmented : Service where
  name := "widgets"
  methods := [
    { group := "widgets", name := "Create", kind := .longRunning,
      returnType := .response ⟨some ⟨1⟩, none⟩ },
    { name := "widgetsCreate", kind := .paginatedLongRunning,
      returnType := .pagedOperation ⟨⟨1⟩, ⟨2⟩, ⟨3⟩, none⟩ }]
  types := .ofList [.ofComposite "Widget",
    .pollingHandle ⟨"widgetsCreate", false, "widgets", "Create", some ⟨0⟩⟩,
    .pollingHandle ⟨"widgetsCreateAll", true, "", "widgetsCreate", some ⟨0⟩⟩,
    .pageIterator (.ofElement ⟨0⟩ false)]

theorem forall_boundTo_sharingService :
    sharingService.types.pollingHandles = [] ∧
    (Service.augment joinedName {}).run sharingService =
      .ok ⟨2, 0, 1, 1, 3, [⟨"widgetsCreate", ["widgets.Create", "widgetsCreate"]⟩]⟩
        sharingServiceAugmented ∧
    List.Forall₂ (fun m m' => m.BoundTo joinedName sharingServiceAugmented.types m'
        (GenerationSettings.kindOf {} m))
      sharingService.methods sharingServiceAugmented.methods :=
  ⟨rfl, rfl, forall_boundTo_of_run_augment rfl rfl⟩

end WrapperSynthesis
