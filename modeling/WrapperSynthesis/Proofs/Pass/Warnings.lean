import WrapperSynthesis.Proofs.Pass.Acceptance
import WrapperSynthesis.Proofs.Service.OriginTable
import WrapperSynthesis.Proofs.Text.ByteOrder
import WrapperSynthesis.Proofs.Wrapping.PascalCase

/-! Which handle names a pass warns of. The origins that are noted for a service without older
handles are those of the handles that its methods ask for (`mem_notedOrigins_iff`). Origins are
noted by their labels, and a label shows the qualified name of a method: two methods whose
identities differ but are shown alike count as one (`warnings_of_run_augment`). -/

namespace WrapperSynthesis

variable {naming : Naming} {settings : GenerationSettings}

namespace Method.Rewired

variable {types : Registry} {m m' : Method} {kind : OperationKind} {outcome : Outcome}

theorem exists_mem_referenced (rewired : m.Rewired naming types kind outcome m') {h : PollingHandle}
    (hh : h ∈ m.handles naming kind) :
    ∃ id ∈ m'.returnType.referenced, types.idOf? h.key = some id := by
  cases rewired with
  | plain | paginated => cases hh
  | longRunning hid =>
    rw [handles, List.mem_singleton] at hh
    subst hh
    exact ⟨_, by simp [ReturnType.referenced], hid⟩
  | paginatedLongRunning _ hid hl _ _ =>
    simp only [handles, List.mem_cons, List.not_mem_nil, or_false] at hh
    rcases hh with rfl | rfl
    · exact ⟨_, by simp [ReturnType.referenced], hid⟩
    · exact ⟨_, by simp [ReturnType.referenced], hl⟩

end Method.Rewired

/-- The name is synthesized for two handles that `view` tells apart. -/
def Service.Clashes {α : Type} (naming : Naming) (settings : GenerationSettings) (s : Service)
    (view : PollingHandle → α) (name : String) : Prop :=
  ∃ h ∈ handlesOf naming settings s.methods, ∃ h' ∈ handlesOf naming settings s.methods,
    h.name = name ∧ h'.name = name ∧ view h ≠ view h'

theorem Service.clashes_congr {α β : Type} {s : Service} {view : PollingHandle → α}
    {view' : PollingHandle → β} {name : String}
    (alike : ∀ h ∈ handlesOf naming settings s.methods, ∀ h' ∈ handlesOf naming settings s.methods,
      h.name = h'.name → (view h = view h' ↔ view' h = view' h')) :
    s.Clashes naming settings view name ↔ s.Clashes naming settings view' name := by
  refine exists_congr fun h => and_congr_right fun hh => exists_congr fun h' =>
    and_congr_right fun hh' => and_congr_right fun hn => and_congr_right fun hn' => ?_
  exact not_congr (alike h hh h' hh' (hn.trans hn'.symm))

namespace Reworked

variable {s s' : Service} {report : Report}

theorem not_mem_of_fresh (fresh : s.types.pollingHandles = []) (h : PollingHandle) :
    .pollingHandle h ∉ s.types.members := by
  rw [← Registry.mem_handles, Registry.handles_eq, fresh]
  exact List.not_mem_nil

theorem mem_handlesOf_of_mem (h : Reworked naming settings s s' report)
    (fresh : s.types.pollingHandles = []) {found : PollingHandle}
    (hf : .pollingHandle found ∈ s'.types.members) :
    found ∈ handlesOf naming settings s.methods := by
  rw [h.types] at hf
  rcases Registry.mem_of_mem_registerAll hf with old | ⟨asked, _⟩
  · exact absurd old (not_mem_of_fresh fresh found)
  · exact mem_handlesOf_of_mem_candidatesOf asked

/-- The handles that a method returns are canonical for those that it asks for. -/
theorem exists_mem_handles (h : Reworked naming settings s s' report)
    (fresh : s.types.pollingHandles = []) (consistent : s.Consistent) {m m' : Method}
    {outcome : Outcome} (hm : m ∈ s.methods)
    (rewired : m.Rewired naming s'.types (settings.kindOf m) outcome m') {id : TypeId}
    (hid : id ∈ m'.returnType.referenced) {found : PollingHandle}
    (hf : s'.types.get? id = some (.pollingHandle found)) :
    ∃ asked ∈ m.handles naming (settings.kindOf m), asked.key = found.key := by
  have known : ∀ id ∈ m.returnType.referenced, s'.types.get? id ≠ some (.pollingHandle found) := by
    intro id old hf
    rw [h.grows.get?_eq (consistent.registered m hm id old)] at hf
    exact not_mem_of_fresh fresh found (Registry.mem_of_get? hf)
  rcases rewired.of_mem_referenced hid with ⟨_, old⟩ | hs | ⟨_, _, hp⟩ | ⟨asked, ha, hh⟩
  · exact absurd hf (known id old)
  · exact absurd hf (known id (ReturnType.mem_referenced_of_headers hs))
  · obtain ⟨type, hget, _, hk⟩ := Registry.exists_of_idOf? hp
    obtain rfl := Option.some.inj (hget.symm.trans hf)
    cases hk
  · obtain ⟨type, hget, _, hk⟩ := Registry.exists_of_idOf? hh
    obtain rfl := Option.some.inj (hget.symm.trans hf)
    exact ⟨asked, ha, hk.symm⟩

/-- Every handle that a method asks for is noted, whichever method it was made for. -/
theorem mem_notedOrigins_of_asked (h : Reworked naming settings s s' report)
    {asked : PollingHandle} (ha : asked ∈ handlesOf naming settings s.methods) :
    (asked.name, Collision.label asked.origin asked.listAll) ∈ s'.notedOrigins := by
  obtain ⟨m, hm, ha⟩ := mem_handlesOf.mp ha
  obtain ⟨m', hm', outcome, rewired⟩ := h.exists_after hm
  obtain ⟨id, hid, hh⟩ := rewired.exists_mem_referenced ha
  obtain ⟨type, hget, _, hk⟩ := Registry.exists_of_idOf? hh
  obtain ⟨found, rfl, hn, hl⟩ := ModelType.exists_of_key_eq_pollingHandle hk
  have longRunning : m.kind.isLongRunning = true :=
    OperationKind.isLongRunning_of_masked (Method.isLongRunning_of_mem_handles ha)
  obtain ⟨returnType, rfl⟩ := rewired.exists_returning
  have noted := Service.mem_notedOrigins_of_referenced hm' longRunning hid hget
  rw [hn, hl] at noted
  rw [Method.origin_of_mem_handles ha]
  exact noted

/-- The origins that are noted for the working copy are those of the handles that its methods ask
for. -/
theorem mem_notedOrigins_iff (h : Reworked naming settings s s' report)
    (fresh : s.types.pollingHandles = []) (consistent : s.Consistent) {name label : String} :
    (name, label) ∈ s'.notedOrigins ↔ ∃ asked ∈ handlesOf naming settings s.methods,
      asked.name = name ∧ Collision.label asked.origin asked.listAll = label := by
  rw [Service.notedOrigins, List.mem_append, Service.mem_handleOrigins_iff, List.mem_flatMap]
  constructor
  · rintro (⟨found, hf, shown⟩ | ⟨m', hm', shared⟩)
    · exact ⟨found, h.mem_handlesOf_of_mem fresh hf, shown⟩
    · obtain ⟨_, id, hid, found, hf, _, hn, hl⟩ := Service.mem_sharedOrigins_iff.mp shared
      obtain ⟨m, hm, outcome, rewired⟩ := h.exists_before hm'
      obtain ⟨asked, ha, hk⟩ := h.exists_mem_handles fresh consistent hm rewired hid hf
      rw [PollingHandle.key, PollingHandle.key, TypeKey.pollingHandle.injEq] at hk
      obtain ⟨returnType, rfl⟩ := rewired.exists_returning
      refine ⟨asked, mem_handlesOf.mpr ⟨m, hm, ha⟩, hk.1.trans hn, ?_⟩
      rw [Method.origin_of_mem_handles ha, hk.2]
      exact hl
  · rintro ⟨asked, ha, rfl, rfl⟩
    have noted := h.mem_notedOrigins_of_asked ha
    rwa [Service.notedOrigins, List.mem_append, Service.mem_handleOrigins_iff,
      List.mem_flatMap] at noted

theorem mem_warnings_iff (h : Reworked naming settings s s' report)
    (fresh : s.types.pollingHandles = []) (consistent : s.Consistent) {name : String} :
    name ∈ report.warnings.map Collision.name ↔
      s.Clashes naming settings (fun asked => Collision.label asked.origin asked.listAll) name := by
  simp only [h.warnings, Service.mem_collisions_iff, h.mem_notedOrigins_iff fresh consistent]
  constructor
  · rintro ⟨_, _, ⟨first, hf, hn, rfl⟩, ⟨second, hs, hn', rfl⟩, differ⟩
    exact ⟨first, hf, second, hs, hn, hn', differ⟩
  · rintro ⟨first, hf, second, hs, hn, hn', differ⟩
    exact ⟨_, _, ⟨first, hf, hn, rfl⟩, ⟨second, hs, hn', rfl⟩, differ⟩

end Reworked

/-- In upper camel case, two labels of a name differ exactly when they show different handles. -/
theorem clashes_label_iff {s : Service} {name : String} :
    s.Clashes pascalCase settings (fun h => Collision.label h.origin h.listAll) name ↔
      s.Clashes pascalCase settings (fun h => (h.origin, h.listAll)) name := by
  refine Service.clashes_congr fun h hh h' hh' same => ?_
  obtain ⟨m, _, hm⟩ := mem_handlesOf.mp hh
  obtain ⟨m', _, hm'⟩ := mem_handlesOf.mp hh'
  exact label_eq_iff hm hm' same

/-- The warnings of a pass over a service without faults and without older handles. Their names
ascend byte by byte. A name is reported exactly when it is synthesized for two handles of different
qualified names or list-all markers, so where qualified names tell the methods apart it is reported
whenever it is synthesized twice. A handle that is shared under different qualified names is
reported. -/
theorem warnings_of_run_augment {s s' : Service} {report : Report} (faultless : s.faults = [])
    (fresh : s.types.pollingHandles = [])
    (ok : (Service.augment pascalCase settings).run s = .ok report s') :
    (report.warnings.map fun c => Text.utf8 c.name).Pairwise (· < ·) ∧
    (∀ name, name ∈ report.warnings.map Collision.name ↔
      s.Clashes pascalCase settings (fun h => (h.origin, h.listAll)) name) ∧
    ((∀ h ∈ handlesOf pascalCase settings s.methods,
        ∀ h' ∈ handlesOf pascalCase settings s.methods,
        h.origin = h'.origin → (h.group, h.method) = (h'.group, h'.method)) →
      ∀ name, name ∈ report.warnings.map Collision.name ↔
        s.Clashes pascalCase settings (fun h => ((h.group, h.method), h.listAll)) name) ∧
    ∀ m ∈ s'.methods, ∀ m' ∈ s'.methods, m.qualifiedName ≠ m'.qualifiedName →
      ∀ id ∈ m.returnType.referenced, id ∈ m'.returnType.referenced →
      ∀ shared, s'.types.get? id = some (.pollingHandle shared) →
        shared.name ∈ report.warnings.map Collision.name := by
  have consistent := (Service.faults_eq_nil_iff s).mp faultless
  obtain ⟨_, reworked, _⟩ := reworked_of_run_augment ok
  have reported : ∀ name, name ∈ report.warnings.map Collision.name ↔
      s.Clashes pascalCase settings (fun h => (h.origin, h.listAll)) name := fun name =>
    (reworked.mem_warnings_iff fresh consistent).trans clashes_label_iff
  refine ⟨?_, reported, fun told name => (reported name).trans ?_, ?_⟩
  · have ascending := s'.pairwise_name_collisions
    rw [← reworked.warnings, List.pairwise_map] at ascending
    rw [List.pairwise_map]
    exact ascending.imp fun less => (Text.lt_iff_utf8_lt _ _).mp less
  · refine Service.clashes_congr fun h hh h' hh' _ => ?_
    rw [Prod.mk.injEq, Prod.mk.injEq]
    refine and_congr_left fun _ => ⟨told h hh h' hh', fun same => ?_⟩
    rw [Prod.mk.injEq] at same
    rw [PollingHandle.origin, PollingHandle.origin, same.1, same.2]
  · intro m' hm' m'' hm'' differ id hid hid' shared found
    obtain ⟨m, hm, _, rewired⟩ := reworked.exists_before hm'
    obtain ⟨n, hn, _, rewired'⟩ := reworked.exists_before hm''
    obtain ⟨h, hh, hk⟩ := reworked.exists_mem_handles fresh consistent hm rewired hid found
    obtain ⟨h', hh', hk'⟩ := reworked.exists_mem_handles fresh consistent hn rewired' hid' found
    rw [PollingHandle.key, PollingHandle.key, TypeKey.pollingHandle.injEq] at hk hk'
    refine (reported shared.name).mpr ⟨h, mem_handlesOf.mpr ⟨m, hm, hh⟩, h',
      mem_handlesOf.mpr ⟨n, hn, hh'⟩, hk.1, hk'.1, fun same => differ ?_⟩
    obtain ⟨_, rfl⟩ := rewired.exists_returning
    obtain ⟨_, rfl⟩ := rewired'.exists_returning
    have origins : h.origin = h'.origin := (Prod.mk.inj same).1
    rw [Method.origin_of_mem_handles hh, Method.origin_of_mem_handles hh'] at origins
    exact origins

/-- Both methods ask for a handle named `AB`, and they are shown differently. -/
def reportedService : Service where
  name := "widgets"
  methods := [
    { name := "a_b", kind := .longRunning },
    { group := "a", name := "b", kind := .longRunning }]

/-- The service once both methods return the handle of the first one. -/
def reportedServiceAugmented : Service where
  name := "widgets"
  methods := [
    { name := "a_b", kind := .longRunning, returnType := .response ⟨some ⟨0⟩, none⟩ },
    { group := "a", name := "b", kind := .longRunning, returnType := .response ⟨some ⟨0⟩, none⟩ }]
  types := .ofList [.pollingHandle { name := "AB", group := "", method := "a_b" }]

theorem warnings_reportedService :
    reportedService.faults = [] ∧ reportedService.types.pollingHandles = [] ∧
    (Service.augment pascalCase {}).run reportedService =
      .ok ⟨2, 0, 2, 0, 1, [⟨"AB", ["a_b", "a.b"]⟩]⟩ reportedServiceAugmented ∧
    reportedService.Clashes pascalCase {} (fun h => (h.origin, h.listAll)) "AB" := by
  have ok : (Service.augment pascalCase {}).run reportedService =
      .ok ⟨2, 0, 2, 0, 1, [⟨"AB", ["a_b", "a.b"]⟩]⟩ reportedServiceAugmented := rfl
  have reported := (warnings_of_run_augment rfl rfl ok).2.1 "AB"
  exact ⟨rfl, rfl, ok, reported.mp List.mem_cons_self⟩

/-- Both methods ask for a handle named `AB`, and both are shown as `a.b`. -/
def unreportedService : Service where
  name := "widgets"
  methods := [
    { name := "a.b", kind := .longRunning },
    { group := "a", name := "b", kind := .longRunning }]

/-- The methods share a handle, and no name is reported. -/
theorem exists_ok_unreportedService :
    unreportedService.faults = [] ∧ unreportedService.types.pollingHandles = [] ∧
    unreportedService.Clashes pascalCase {} (fun h => ((h.group, h.method), h.listAll)) "AB" ∧
    ∃ report s', (Service.augment pascalCase {}).run unreportedService = .ok report s' ∧
      report.warnings = [] := by
  refine ⟨rfl, rfl, ?_, _, _, rfl, rfl⟩
  exact ⟨_, List.mem_cons_self, _, List.mem_cons_of_mem _ List.mem_cons_self, rfl, rfl, by decide⟩

end WrapperSynthesis
