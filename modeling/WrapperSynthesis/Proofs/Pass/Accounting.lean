import WrapperSynthesis.Proofs.Pass.Acceptance

/-! What a report says of a pass over a service without wrappers, compared with the service before
and after it (`report_of_run_augment`). The counters follow the kinds of the methods, and a wrapped
method really returns something else: its body lies among the old types and its wrapper behind them,
however many methods share that wrapper. -/

namespace WrapperSynthesis

variable {naming : Naming} {settings : GenerationSettings}

/-! ### Wrappers lie behind the old types -/

theorem ModelType.isSynthetic_congr {a b : ModelType} (same : a.key = b.key) :
    a.isSynthetic = b.isSynthetic := by
  cases a <;> cases b <;> first | rfl | cases same

/-- A canonical wrapper is no member of a registry that had no wrappers. -/
theorem Registry.Grows.hasId_eq_false {r r' : Registry} (grows : r.Grows r')
    (fresh : ∀ type ∈ r.members, type.isSynthetic = false) {type : ModelType} {id : TypeId}
    (synthetic : type.isSynthetic = true) (found : r'.idOf? type.key = some id) :
    r.hasId id = false := by
  obtain ⟨member, hget, _, hk⟩ := exists_of_idOf? found
  by_contra known
  rw [grows.get?_eq (by simpa using known)] at hget
  have old := fresh member (mem_of_get? hget)
  rw [ModelType.isSynthetic_congr hk, synthetic] at old
  cases old

namespace Method.Rewired

variable {types : Registry} {m m' : Method} {kind : OperationKind} {outcome : Outcome}

/-- A method that is wrapped gets a wrapper, which takes the place of its body or comes without a
body. -/
theorem exists_wrapper (rewired : m.Rewired naming types kind outcome m')
    (wrapped : kind ≠ .plain) :
    ∃ (type : ModelType) (id : TypeId), type.isSynthetic = true ∧ types.idOf? type.key = some id ∧
      (m'.returnType.body = some id ∨ m'.returnType.body = none ∧ m.returnType.body ≠ none) := by
  cases rewired with
  | plain => exact absurd rfl wrapped
  | @paginated element pager _ hp =>
    exact ⟨.pageIterator (.ofElement element m.needsPreparer), pager, rfl, hp, .inl rfl⟩
  | longRunning hh => exact ⟨.pollingHandle (m.handle naming), _, rfl, hh, .inl rfl⟩
  | paginatedLongRunning hb hh =>
    refine ⟨.pollingHandle (m.handle naming), _, rfl, hh, .inr ⟨rfl, ?_⟩⟩
    rw [hb]
    exact Option.some_ne_none _

/-- Where the old types hold the method's body and no wrapper, exactly the methods that are plain
keep their return type. -/
theorem returnType_eq_iff (rewired : m.Rewired naming types kind outcome m') {old : Registry}
    (grows : old.Grows types) (fresh : ∀ type ∈ old.members, type.isSynthetic = false)
    (registered : ∀ id, m.returnType.body = some id → old.hasId id = true) :
    m.returnType = m'.returnType ↔ kind = .plain := by
  constructor
  · intro same
    by_contra wrapped
    obtain ⟨type, id, synthetic, found, body | ⟨none, some⟩⟩ := rewired.exists_wrapper wrapped
    · have new := grows.hasId_eq_false fresh synthetic found
      rw [registered id (by rw [same, body])] at new
      cases new
    · exact some (by rw [same, none])
  · rintro rfl
    cases rewired
    rfl

end Method.Rewired

/-! ### Counting methods -/

theorem countP_zip_of_forall₂ {α β : Type} {R : α → β → Prop} {p : α × β → Bool} {q : α → Bool}
    (same : ∀ a b, R a b → p (a, b) = q a) {l : List α} {l' : List β} (h : List.Forall₂ R l l') :
    (l.zip l').countP p = l.countP q := by
  induction h with
  | nil => rfl
  | cons hr _ ih => rw [List.zip_cons_cons, List.countP_cons, List.countP_cons, ih, same _ _ hr]

/-- The number of methods that are wrapped as the given kind. -/
def GenerationSettings.countKind (settings : GenerationSettings) (kind : OperationKind)
    (methods : List Method) : Nat :=
  methods.countP fun m => settings.kindOf m = kind

theorem countKind_cons (kind : OperationKind) (m : Method) (rest : List Method) :
    settings.countKind kind (m :: rest) =
      settings.countKind kind rest + if settings.kindOf m = kind then 1 else 0 := by
  simp [GenerationSettings.countKind, List.countP_cons]

theorem count_kindOf (kind : OperationKind) (methods : List Method) :
    (methods.map settings.kindOf).count kind = settings.countKind kind methods := by
  rw [List.count, List.countP_map]
  exact List.countP_congr fun m _ => by simp

/-- Every method that is not plain is of one of the three other kinds. -/
theorem countP_not_plain (methods : List Method) :
    methods.countP (fun m => settings.kindOf m ≠ .plain) =
      settings.countKind .paginated methods + settings.countKind .longRunning methods +
        settings.countKind .paginatedLongRunning methods := by
  induction methods with
  | nil => rfl
  | cons m rest ih =>
    rw [List.countP_cons, ih, countKind_cons, countKind_cons, countKind_cons]
    cases settings.kindOf m <;> simp <;> omega

theorem length_candidatesOf_le_countKind (naming : Naming) (settings : GenerationSettings)
    (methods : List Method) :
    (candidatesOf naming settings methods).length ≤
      settings.countKind .paginated methods + settings.countKind .longRunning methods +
        3 * settings.countKind .paginatedLongRunning methods := by
  induction methods with
  | nil => exact Nat.le_refl 0
  | cons m rest ih =>
    have := m.length_candidates_le naming (settings.kindOf m)
    rw [candidatesOf_cons, List.length_append, countKind_cons, countKind_cons, countKind_cons]
    cases hk : settings.kindOf m <;>
      simp only [hk, OperationKind.wrapperCount, reduceCtorEq, ite_true, ite_false] at this ⊢ <;>
      omega

/-! ### The report -/

namespace Reworked

variable {s s' : Service} {report : Report}

theorem members (h : Reworked naming settings s s' report) :
    s'.types.members =
      s.types.members ++ s.types.newcomers (candidatesOf naming settings s.methods) := by
  rw [h.types, Registry.members_registerAll]

/-- All new members of the registry are wrappers. -/
theorem syntheticCount_eq (h : Reworked naming settings s s' report) :
    s'.types.syntheticCount =
      s.types.syntheticCount +
        (s.types.newcomers (candidatesOf naming settings s.methods)).length := by
  rw [Registry.syntheticCount, Registry.syntheticCount, h.members, List.countP_append,
    Nat.add_right_inj, List.countP_eq_length]
  intro type new
  obtain ⟨m, _, asked⟩ := List.mem_flatMap.mp (Registry.of_mem_newcomers new).1
  exact Method.isSynthetic_of_mem_candidates asked

/-- A method that is wrapped makes the registry grow when it had no wrappers before. -/
theorem size_lt (h : Reworked naming settings s s' report)
    (fresh : ∀ type ∈ s.types.members, type.isSynthetic = false) {m : Method} (hm : m ∈ s.methods)
    (wrapped : settings.kindOf m ≠ .plain) : s.types.size < s'.types.size := by
  obtain ⟨m', _, outcome, rewired⟩ := h.exists_after hm
  obtain ⟨type, id, synthetic, found, _⟩ := rewired.exists_wrapper wrapped
  have new := h.grows.hasId_eq_false fresh synthetic found
  have known := Registry.hasId_iff.mp (Registry.hasId_of_idOf? found)
  rw [← Bool.not_eq_true, Registry.hasId_iff] at new
  omega

end Reworked

/-- The report of a pass over a sound service without wrappers accounts for every method: it counts
the methods of each kind, those whose return type is another one afterwards, and the wrappers that
were added. -/
theorem report_of_run_augment {s s' : Service} {report : Report} (faultless : s.faults = [])
    (fresh : ∀ type ∈ s.types.members, type.isSynthetic = false)
    (ok : (Service.augment naming settings).run s = .ok report s') :
    report.methods = s.methods.length ∧
    report.paged = settings.countKind .paginated s.methods ∧
    report.longRunning = settings.countKind .longRunning s.methods ∧
    report.pagedLongRunning = settings.countKind .paginatedLongRunning s.methods ∧
    s'.methods.map Method.identity = s.methods.map Method.identity ∧
    report.wrapped = (s.methods.zip s'.methods).countP (fun p => p.1.returnType ≠ p.2.returnType) ∧
    s'.types.size = s.types.size + report.typesAdded ∧
    s'.types.syntheticCount = s.types.syntheticCount + report.typesAdded ∧
    report.typesAdded ≤ report.paged + report.longRunning + 3 * report.pagedLongRunning ∧
    (0 < report.wrapped → 0 < report.typesAdded) := by
  obtain ⟨_, reworked, _⟩ := reworked_of_run_augment ok
  have consistent := (Service.faults_eq_nil_iff s).mp faultless
  have counts := reworked.report_eq
  simp only [count_kindOf] at counts
  have wrapped : report.wrapped = s.methods.countP fun m => settings.kindOf m ≠ .plain := by
    rw [countP_not_plain, counts]
    rfl
  -- A wrapped method returns a synthesized type, and none was registered before the pass.
  have changed : (s.methods.zip s'.methods).countP (fun p => p.1.returnType ≠ p.2.returnType) =
      s.methods.countP fun m => settings.kindOf m ≠ .plain := by
    refine countP_zip_of_forall₂ (fun m m' => ?_) reworked.rewired
    rintro ⟨hm, outcome, rewired⟩
    have kept := rewired.returnType_eq_iff reworked.grows fresh fun id hb =>
      consistent.registered m hm id (ReturnType.mem_referenced_of_body hb)
    simp only [ne_eq, kept]
  have size : s'.types.size =
      s.types.size + (s.types.newcomers (candidatesOf naming settings s.methods)).length := by
    rw [Registry.size, reworked.members, List.length_append]
    rfl
  have added : report.typesAdded =
      (s.types.newcomers (candidatesOf naming settings s.methods)).length := by
    rw [counts]
    simp only [size, Nat.add_sub_cancel_left]
  have bound : s'.types.size ≤ s.types.size + (candidatesOf naming settings s.methods).length := by
    rw [reworked.types]
    exact Registry.size_registerAll_le _ _
  have asked := length_candidatesOf_le_countKind naming settings s.methods
  refine ⟨by rw [counts], by rw [counts], by rw [counts], by rw [counts], reworked.identities,
    wrapped.trans changed.symm, by rw [added, size],
    by rw [added, reworked.syntheticCount_eq], ?_, ?_⟩
  · rw [counts] at added ⊢
    simp only at added ⊢
    omega
  · intro some
    rw [wrapped, List.countP_pos_iff] at some
    obtain ⟨m, hm, hk⟩ := some
    have grown := reworked.size_lt fresh hm (by simpa using hk)
    omega

/-! ### All kinds, a shared handle and a shared page iterator -/

/-- `Create` and `widgetsCreate` ask for one handle, `List` and `Export` for one page iterator. -/
def mixedService : Service where
  name := "widgets"
  methods := [
    { group := "widgets", name := "Get", returnType := .response ⟨some ⟨0⟩, none⟩ },
    { group := "widgets", name := "List", kind := .paginated,
      returnType := .response ⟨some ⟨0⟩, some ⟨1⟩⟩ },
    { group := "widgets", name := "Create", kind := .longRunning,
      returnType := .response ⟨some ⟨0⟩, none⟩ },
    { name := "widgetsCreate", kind := .longRunning, returnType := .response ⟨some ⟨0⟩, none⟩ },
    { group := "widgets", name := "Export", kind := .paginatedLongRunning,
      returnType := .response ⟨some ⟨0⟩, none⟩ }]
  types := .ofList [.ofComposite "Widget", .ofPrimitive "string"]

def mixedServiceAugmented : Service where
  name := "widgets"
  methods := [
    { group := "widgets", name := "Get", returnType := .response ⟨some ⟨0⟩, none⟩ },
    { group := "widgets", name := "List", kind := .paginated,
      returnType := .response ⟨some ⟨2⟩, some ⟨1⟩⟩ },
    { group := "widgets", name := "Create", kind := .longRunning,
      returnType := .response ⟨some ⟨3⟩, none⟩ },
    { name := "widgetsCreate", kind := .longRunning, returnType := .response ⟨some ⟨3⟩, none⟩ },
    { group := "widgets", name := "Export", kind := .paginatedLongRunning,
      returnType := .pagedOperation ⟨⟨4⟩, ⟨5⟩, ⟨2⟩, none⟩ }]
  types := .ofList [.ofComposite "Widget", .ofPrimitive "string",
    .pageIterator (.ofElement ⟨0⟩ false),
    .pollingHandle ⟨"widgetsCreate", false, "widgets", "Create", some ⟨0⟩⟩,
    .pollingHandle ⟨"widgetsExport", false, "widgets", "Export", some ⟨0⟩⟩,
    .pollingHandle ⟨"widgetsExportAll", true, "widgets", "Export", some ⟨0⟩⟩]

theorem report_mixedService :
    mixedService.faults = [] ∧
    (∀ type ∈ mixedService.types.members, type.isSynthetic = false) ∧
    (Service.augment joinedName {}).run mixedService =
      .ok ⟨5, 1, 2, 1, 4, [⟨"widgetsCreate", ["widgets.Create", "widgetsCreate"]⟩]⟩
        mixedServiceAugmented ∧
    4 = (mixedService.methods.zip mixedServiceAugmented.methods).countP
      (fun p => p.1.returnType ≠ p.2.returnType) ∧
    mixedServiceAugmented.types.size = mixedService.types.size + 4 := by
  have faultless : mixedService.faults = [] := rfl
  have fresh : ∀ type ∈ mixedService.types.members, type.isSynthetic = false := by decide
  have ok : (Service.augment joinedName {}).run mixedService =
      .ok ⟨5, 1, 2, 1, 4, [⟨"widgetsCreate", ["widgets.Create", "widgetsCreate"]⟩]⟩
        mixedServiceAugmented := rfl
  obtain ⟨-, -, -, -, -, changed, size, -⟩ := report_of_run_augment faultless fresh ok
  exact ⟨faultless, fresh, ok, changed, size⟩

end WrapperSynthesis
