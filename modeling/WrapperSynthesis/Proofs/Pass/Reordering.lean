import Mathlib.Data.List.Perm.Basic
import Mathlib.Data.List.Sort
import WrapperSynthesis.Proofs.Pass.Agreement
import WrapperSynthesis.Proofs.Pass.Warnings
import WrapperSynthesis.Proofs.Registry.Renumbering

/-! A pass does not depend on the order of the methods, as far as its clients can tell
(`run_augment_of_reorders`). The wrappers are numbered in the order in which methods ask for them,
and a shared handle names the first method as its origin. Apart from that both passes come to the
same registry, the same return types, the same counts and the same names to warn of. -/

namespace WrapperSynthesis

/-- Renumbers the wrappers of a return type. The headers are not wrapped. -/
def ReturnType.renumber (f : TypeId → TypeId) : ReturnType → ReturnType
  | .response r => .response { r with body := r.body.map f }
  | .pagedOperation c => .pagedOperation { c with
      handle := f c.handle, listAllHandle := f c.listAllHandle, pager := f c.pager }

namespace Method

def renumber (f : TypeId → TypeId) (m : Method) : Method := m.returning (m.returnType.renumber f)

/-- Some type appears in the return types of both methods. -/
def Shares (m n : Method) : Prop := ∃ id ∈ m.returnType.referenced, id ∈ n.returnType.referenced

end Method

variable {naming : Naming} {settings : GenerationSettings} {f : TypeId → TypeId}

theorem ReturnType.referenced_renumber {returnType : ReturnType}
    (kept : ∀ id, returnType.headers = some id → f id = id) :
    (returnType.renumber f).referenced = returnType.referenced.map f := by
  have fixed : ∀ headers : Option TypeId, (∀ id, headers = some id → f id = id) →
      headers.toList.map f = headers.toList := by
    intro headers kept
    cases headers with
    | none => rfl
    | some id => rw [Option.toList_some, List.map_singleton, kept id rfl]
  cases returnType with
  | response r =>
    rw [renumber, referenced, referenced, List.map_append, fixed r.headers kept]
    cases r.body <;> rfl
  | pagedOperation c =>
    rw [renumber, referenced, referenced, List.map_append, fixed c.headers kept]
    rfl

theorem ReturnType.renumber_of_kept {returnType : ReturnType}
    (kept : ∀ id ∈ returnType.referenced, f id = id) : returnType.renumber f = returnType := by
  cases returnType with
  | response r =>
    obtain ⟨body, headers⟩ := r
    cases body with
    | none => rfl
    | some id => simp [renumber, kept id (by simp [referenced])]
  | pagedOperation c =>
    simp only [renumber]
    rw [kept c.handle (by simp [referenced]), kept c.listAllHandle (by simp [referenced]),
      kept c.pager (by simp [referenced])]

theorem Method.shares_renumber_iff {m n : Method} {known : TypeId → Prop}
    (injective : ∀ id id', known id → known id' → f id = f id' → id = id')
    (hm : ∀ id ∈ m.returnType.referenced, known id)
    (hn : ∀ id ∈ n.returnType.referenced, known id)
    (kept : ∀ id, m.returnType.headers = some id → f id = id)
    (kept' : ∀ id, n.returnType.headers = some id → f id = id) :
    (m.renumber f).Shares (n.renumber f) ↔ m.Shares n := by
  simp only [Shares, renumber, returnType_returning, ReturnType.referenced_renumber kept,
    ReturnType.referenced_renumber kept', List.mem_map]
  constructor
  · rintro ⟨_, ⟨id, hid, rfl⟩, id', hid', equal⟩
    obtain rfl := injective id' id (hn id' hid') (hm id hid) equal
    exact ⟨id', hid, hid'⟩
  · rintro ⟨id, hid, hid'⟩
    exact ⟨f id, ⟨id, hid, rfl⟩, id, hid', rfl⟩

namespace Method.Rewired

variable {types types' : Registry} {m m' m'' : Method} {kind : OperationKind}
  {outcome outcome' : Outcome}

theorem headers_eq (rewired : m.Rewired naming types kind outcome m') :
    m'.returnType.headers = m.returnType.headers := by
  cases rewired with
  | plain | paginated | longRunning => rfl
  | paginatedLongRunning _ _ _ _ hs => exact hs

theorem eq_renumber (rewired : m.Rewired naming types kind outcome m')
    (rewired' : m.Rewired naming types' kind outcome' m'')
    (carries : ∀ key id id', types.idOf? key = some id → types'.idOf? key = some id' → f id = id')
    (kept : ∀ id ∈ m.returnType.referenced, f id = id) : m'' = m'.renumber f := by
  cases rewired with
  | plain =>
    cases rewired'
    rw [renumber, ReturnType.renumber_of_kept kept]
    rfl
  | paginated hb hp =>
    cases rewired' with
    | paginated hb' hp' =>
      obtain rfl := Option.some.inj (hb.symm.trans hb')
      rw [← carries _ _ _ hp hp']
      rfl
  | longRunning hh =>
    cases rewired' with
    | longRunning hh' =>
      rw [← carries _ _ _ hh hh']
      rfl
  | @paginatedLongRunning _ composed hb hh hl hp hs =>
    cases rewired' with
    | @paginatedLongRunning _ composed' hb' hh' hl' hp' hs' =>
      obtain rfl := Option.some.inj (hb.symm.trans hb')
      obtain ⟨handle, listAll, pager, headers⟩ := composed'
      have slots := carries _ _ _ hh hh'
      have slots' := carries _ _ _ hl hl'
      have slots'' := carries _ _ _ hp hp'
      simp only at slots slots' slots'' hs'
      rw [← slots, ← slots', ← slots'', hs', ← hs]
      rfl

end Method.Rewired

namespace Service.Consistent

variable {s : Service} {types types' : Registry} {m m' m'' : Method} {kind : OperationKind}
  {outcome outcome' : Outcome}

/-- A method that was wrapped on two registries that grew from one and the same. -/
theorem eq_renumber (consistent : s.Consistent) (hm : m ∈ s.methods) (grows : s.types.Grows types)
    (grows' : s.types.Grows types') (rewired : m.Rewired naming types kind outcome m')
    (rewired' : m.Rewired naming types' kind outcome' m'') :
    m'' = m'.renumber (s.types.renumber types types') := by
  refine rewired.eq_renumber rewired' ?_ ?_
  · intro key id id' h h'
    exact Registry.renumber_of_idOf? grows grows' h h'
  · intro id hid
    exact if_pos (consistent.registered m hm id hid)

theorem hasId_of_headers (consistent : s.Consistent) (hm : m ∈ s.methods)
    (rewired : m.Rewired naming types kind outcome m') {id : TypeId}
    (headers : m'.returnType.headers = some id) : s.types.hasId id = true := by
  rw [rewired.headers_eq] at headers
  exact consistent.registered m hm id (ReturnType.mem_referenced_of_headers headers)

end Service.Consistent

theorem eq_map_of_forall₂ {α β γ : Type} {R : α → β → Prop} {S : α → γ → Prop} {g : β → γ}
    {l : List α} {l' : List β} {l'' : List γ} (h : List.Forall₂ R l l') (h' : List.Forall₂ S l l'')
    (step : ∀ a b c, R a b → S a c → c = g b) : l'' = l'.map g := by
  induction h generalizing l'' with
  | nil =>
    cases h'
    rfl
  | cons first _ ih =>
    cases h' with
    | cons first' rest' => rw [List.map_cons, ← step _ _ _ first first', ih rest']

section TwoOrders

variable {s s' t t' : Service} {report report' : Report}

theorem Service.Agrees.target?_eq (agrees : s.Agrees naming settings) :
    ∀ type ∈ candidatesOf naming settings s.methods,
      ∀ type' ∈ candidatesOf naming settings s.methods, s.types.idOf? type.key = none →
        type'.key = type.key → type'.target? = type.target? := by
  intro type asked type' asked' new same
  cases type with
  | pollingHandle h =>
    obtain ⟨h', rfl, _⟩ := ModelType.exists_of_key_eq_pollingHandle same
    have hh := mem_handlesOf_of_mem_candidatesOf asked
    have hh' := mem_handlesOf_of_mem_candidatesOf asked'
    have absent : s.types.handle? h.key = none := by
      rw [ModelType.key_pollingHandle, ← Registry.canonical?_eq_none_iff] at new
      rw [Registry.handle?, new, Option.bind_none]
    exact agrees.fresh h hh h' hh' absent same
  | pageIterator p =>
    obtain ⟨p', rfl, he, _⟩ := ModelType.exists_of_key_eq_pageIterator same
    rw [ModelType.target?, ModelType.target?, he]
  | primitive | composite =>
    obtain ⟨m, _, asked⟩ := List.mem_flatMap.mp asked
    cases Method.isSynthetic_of_mem_candidates asked

namespace Reworked

variable (reworked : Reworked naming settings s s' report)
  (reworked' : Reworked naming settings t t' report') (reorders : s.Reorders t)
include reworked reworked' reorders

theorem perm_keys : (s'.types.members.map ModelType.key).Perm
    (t'.types.members.map ModelType.key) := by
  rw [reworked.types, reworked'.types, reorders.types]
  exact Registry.perm_keys_registerAll _ (reorders.methods.flatMap_right _)

theorem report_eq_of_reorders : report' = { report with warnings := report'.warnings } := by
  have sizes : s'.types.size = t'.types.size := by
    have lengths := (reworked.perm_keys reworked' reorders).length_eq
    rwa [List.length_map, List.length_map] at lengths
  have kinds : ∀ kind, (s.methods.map settings.kindOf).count kind =
      (t.methods.map settings.kindOf).count kind :=
    fun kind => (reorders.methods.map settings.kindOf).count_eq kind
  rw [reworked.report_eq, reworked'.report_eq, reorders.methods.length_eq, kinds, kinds, kinds,
    sizes, reorders.types]

theorem renumbers (agrees : s.Agrees naming settings) :
    s.types.Renumbers s'.types t'.types (s.types.renumber s'.types t'.types) := by
  rw [reworked.types, reworked'.types, reorders.types]
  exact Registry.renumbers_registerAll (reorders.methods.flatMap_right _) agrees.target?_eq

theorem perm_renumber (consistent : s.Consistent) :
    t'.methods.Perm
      (s'.methods.map (Method.renumber (s.types.renumber s'.types t'.types))) := by
  have grows' := reworked'.grows
  rw [reorders.types] at grows'
  obtain ⟨methods, rewired', same⟩ := List.perm_comp_forall₂ reorders.methods reworked'.rewired
  refine same.symm.trans (.of_eq (eq_map_of_forall₂ reworked.rewired rewired' ?_))
  rintro m m' m'' ⟨hm, _, rewired⟩ ⟨_, _, rewired'⟩
  exact consistent.eq_renumber hm reworked.grows grows' rewired rewired'

omit reworked' reorders in
theorem kept_headers (consistent : s.Consistent) (r : Registry) :
    ∀ m ∈ s'.methods, ∀ id, m.returnType.headers = some id →
      s.types.renumber s'.types r id = id := by
  intro m' hm' id headers
  obtain ⟨m, hm, _, rewired⟩ := reworked.exists_before hm'
  exact if_pos (consistent.hasId_of_headers hm rewired headers)

/-- An origin that is noted after one pass is noted after the other, if by another method. -/
theorem notedOrigins_subset (consistent : s.Consistent) (agrees : s.Agrees naming settings) :
    s'.notedOrigins ⊆ t'.notedOrigins := by
  have renumbers := reworked.renumbers reworked' reorders agrees
  have methods := reworked.perm_renumber reworked' reorders consistent
  have headers := reworked.kept_headers consistent t'.types
  rintro ⟨name, label⟩ noted
  rw [Service.notedOrigins, List.mem_append, List.mem_flatMap] at noted
  -- An origin of a new handle may be a method that shares the handle after the other pass.
  rcases noted with own | ⟨m', hm', shared⟩
  · obtain ⟨h, hh, rfl, rfl⟩ := Service.mem_handleOrigins_iff.mp own
    rw [reworked.types] at hh
    rcases Registry.mem_of_mem_registerAll hh with old | ⟨asked, _⟩
    · rw [← reorders.types] at old
      have member := reworked'.grows.subset old
      exact List.mem_append_left _ (Service.mem_handleOrigins_iff.mpr ⟨h, member, rfl, rfl⟩)
    · have asked := reorders.mem_handlesOf_iff.mpr (mem_handlesOf_of_mem_candidatesOf asked)
      exact reworked'.mem_notedOrigins_of_asked asked
  · obtain ⟨longRunning, id, hid, h, found, _, rfl, rfl⟩ := Service.mem_sharedOrigins_iff.mp shared
    obtain ⟨type, found', same, _⟩ := renumbers.alike id _ found
    obtain ⟨h', rfl, hn, hl⟩ := ModelType.exists_of_key_eq_pollingHandle same
    have returned : s.types.renumber s'.types t'.types id ∈
        (m'.renumber (s.types.renumber s'.types t'.types)).returnType.referenced := by
      rw [Method.renumber, Method.returnType_returning,
        ReturnType.referenced_renumber (headers m' hm')]
      exact List.mem_map_of_mem hid
    have member := methods.symm.subset (List.mem_map_of_mem hm')
    have noted := Service.mem_notedOrigins_of_referenced member longRunning returned found'
    rw [hn, hl] at noted
    exact noted

end Reworked

/-- Two passes over a service without faults, one of them with the methods in another order.
Either both succeed or neither does. When they succeed, the reports differ at most in the origins
that their warnings list, the registries hold the same keys, and the methods return the same types
but for a renumbering of the new wrappers, so they share what they shared. -/
theorem run_augment_of_reorders (faultless : s.faults = []) (reorders : s.Reorders t) :
    ((∃ report s', (Service.augment naming settings).run s = .ok report s') ↔
      ∃ report' t', (Service.augment naming settings).run t = .ok report' t') ∧
    ∀ report s' report' t', (Service.augment naming settings).run s = .ok report s' →
      (Service.augment naming settings).run t = .ok report' t' →
      report' = { report with warnings := report'.warnings } ∧
      report'.warnings.map Collision.name = report.warnings.map Collision.name ∧
      s.types.Grows s'.types ∧ s.types.Grows t'.types ∧
      (s'.types.members.map ModelType.key).Perm (t'.types.members.map ModelType.key) ∧
      ∃ f, s.types.Renumbers s'.types t'.types f ∧
        t'.methods.Perm (s'.methods.map (Method.renumber f)) ∧
        ∀ m ∈ s'.methods, (∀ id ∈ m.returnType.referenced, s'.types.hasId id = true) ∧
          ∀ n ∈ s'.methods, (m.renumber f).Shares (n.renumber f) ↔ m.Shares n := by
  have consistent := (Service.faults_eq_nil_iff s).mp faultless
  have consistent' := reorders.consistent consistent
  constructor
  · rw [consistent.exists_ok_iff_agrees, consistent'.exists_ok_iff_agrees]
    exact ⟨fun agrees => agrees.reorder reorders, fun agrees => agrees.reorder reorders.symm⟩
  · intro report s' report' t' ok ok'
    -- Success does not depend on the order, and it makes methods that share a key agree on the
    -- result.
    have agrees : s.Agrees naming settings := consistent.exists_ok_iff_agrees.mp ⟨_, _, ok⟩
    obtain ⟨_, reworked, faultless'⟩ := reworked_of_run_augment ok
    obtain ⟨_, reworked', _⟩ := reworked_of_run_augment ok'
    have grows' := reworked'.grows
    rw [reorders.types] at grows'
    have renumbers := reworked.renumbers reworked' reorders agrees
    have headers := reworked.kept_headers consistent t'.types
    have registered := ((Service.faults_eq_nil_iff s').mp faultless').registered
    have names : ∀ name, name ∈ t'.collisions.map Collision.name ↔
        name ∈ s'.collisions.map Collision.name := by
      intro name
      have noted := reworked.notedOrigins_subset reworked' reorders consistent agrees
      have noted' := reworked'.notedOrigins_subset reworked reorders.symm consistent'
        (agrees.reorder reorders)
      -- A warning needs two origins, and the two passes note the same ones.
      have equal : ∀ origin, origin ∈ t'.notedOrigins ↔ origin ∈ s'.notedOrigins :=
        fun origin => ⟨fun h => noted' h, fun h => noted h⟩
      simp only [Service.mem_collisions_iff, equal]
    refine ⟨reworked.report_eq_of_reorders reworked' reorders, ?_, reworked.grows, grows',
      reworked.perm_keys reworked' reorders, _, renumbers,
      reworked.perm_renumber reworked' reorders consistent, ?_⟩
    · rw [reworked.warnings, reworked'.warnings]
      exact t'.pairwise_name_collisions.eq_of_mem_iff s'.pairwise_name_collisions names
    · intro m hm
      refine ⟨registered m hm, ?_⟩
      intro n hn
      exact Method.shares_renumber_iff renumbers.injective (registered m hm) (registered n hn)
        (headers m hm) (headers n hn)

end TwoOrders

/-! ### A queue and its reverse -/

/-- `Create` and `widgetsCreate` ask for one handle, and `List` for a page iterator. -/
def queuedService : Service where
  name := "widgets"
  methods := [
    { group := "widgets", name := "Create", kind := .longRunning,
      returnType := .response ⟨some ⟨0⟩, none⟩ },
    { name := "widgetsCreate", kind := .longRunning,
      returnType := .response ⟨some ⟨0⟩, none⟩ },
    { group := "widgets", name := "List", kind := .paginated,
      returnType := .response ⟨some ⟨0⟩, some ⟨0⟩⟩ }]
  types := .ofList [.ofComposite "Widget"]

def queuedServiceReversed : Service :=
  { queuedService with methods := queuedService.methods.reverse }

/-- The handle comes first, and `Create` is its origin. -/
def queuedServiceAugmented : Service where
  name := "widgets"
  methods := [
    { group := "widgets", name := "Create", kind := .longRunning,
      returnType := .response ⟨some ⟨1⟩, none⟩ },
    { name := "widgetsCreate", kind := .longRunning,
      returnType := .response ⟨some ⟨1⟩, none⟩ },
    { group := "widgets", name := "List", kind := .paginated,
      returnType := .response ⟨some ⟨2⟩, some ⟨0⟩⟩ }]
  types := .ofList [.ofComposite "Widget",
    .pollingHandle ⟨"widgetsCreate", false, "widgets", "Create", some ⟨0⟩⟩,
    .pageIterator (.ofElement ⟨0⟩ false)]

/-- The page iterator comes first, and `widgetsCreate` is the origin of the handle. -/
def queuedServiceReversedAugmented : Service where
  name := "widgets"
  methods := [
    { group := "widgets", name := "List", kind := .paginated,
      returnType := .response ⟨some ⟨1⟩, some ⟨0⟩⟩ },
    { name := "widgetsCreate", kind := .longRunning,
      returnType := .response ⟨some ⟨2⟩, none⟩ },
    { group := "widgets", name := "Create", kind := .longRunning,
      returnType := .response ⟨some ⟨2⟩, none⟩ }]
  types := .ofList [.ofComposite "Widget", .pageIterator (.ofElement ⟨0⟩ false),
    .pollingHandle ⟨"widgetsCreate", false, "", "widgetsCreate", some ⟨0⟩⟩]

theorem run_augment_queuedServiceReversed :
    queuedService.faults = [] ∧ queuedService.Reorders queuedServiceReversed ∧
    (Service.augment joinedName {}).run queuedService =
      .ok ⟨3, 1, 2, 0, 2, [⟨"widgetsCreate", ["widgets.Create", "widgetsCreate"]⟩]⟩
        queuedServiceAugmented ∧
    (Service.augment joinedName {}).run queuedServiceReversed =
      .ok ⟨3, 1, 2, 0, 2, [⟨"widgetsCreate", ["widgetsCreate", "widgets.Create"]⟩]⟩
        queuedServiceReversedAugmented ∧
    ∃ f, queuedService.types.Renumbers queuedServiceAugmented.types
        queuedServiceReversedAugmented.types f ∧
      queuedServiceReversedAugmented.methods.Perm
        (queuedServiceAugmented.methods.map (Method.renumber f)) := by
  have reorders : queuedService.Reorders queuedServiceReversed :=
    ⟨rfl, (List.reverse_perm _).symm, rfl⟩
  have ok : (Service.augment joinedName {}).run queuedService =
      .ok ⟨3, 1, 2, 0, 2, [⟨"widgetsCreate", ["widgets.Create", "widgetsCreate"]⟩]⟩
        queuedServiceAugmented := rfl
  have ok' : (Service.augment joinedName {}).run queuedServiceReversed =
      .ok ⟨3, 1, 2, 0, 2, [⟨"widgetsCreate", ["widgetsCreate", "widgets.Create"]⟩]⟩
        queuedServiceReversedAugmented := rfl
  obtain ⟨_, _, _, _, _, f, renumbers, methods, _⟩ :=
    (run_augment_of_reorders rfl reorders).2 _ _ _ _ ok ok'
  exact ⟨rfl, reorders, ok, ok', f, renumbers, methods⟩

end WrapperSynthesis
