import WrapperSynthesis.Proofs.Pass.Reordering
import WrapperSynthesis.Proofs.Service.Editing

/-! Augmenting a service in two stages, page iterators and polling handles each in a pass of its
own. When no method asks for both, the stages deal with different methods and register different
wrappers (`Stages`), so the second one finds its methods as they were and meets no handle of the
first. The result is that of a single pass but for the numbers of the wrappers
(`run_augmentTwice_of_separate`). -/

namespace WrapperSynthesis

namespace GenerationSettings

/-- Page iterators, and no polling handles. -/
def pagesOnly : GenerationSettings := { longRunningWrappers := false }

/-- Polling handles, and no page iterators. -/
def handlesOnly : GenerationSettings := { pageWrappers := false }

theorem kindOf_all (m : Method) : kindOf {} m = m.kind := by
  rw [kindOf]
  cases m.kind <;> rfl

theorem kindOf_pagesOnly (m : Method) :
    pagesOnly.kindOf m = if m.kind.isPaginated then .paginated else .plain := by
  rw [kindOf]
  cases m.kind <;> rfl

theorem kindOf_handlesOnly (m : Method) :
    handlesOnly.kindOf m = if m.kind.isLongRunning then .longRunning else .plain := by
  rw [kindOf]
  cases m.kind <;> rfl

end GenerationSettings

/-- Augments a service, and then what has become of it with other settings. -/
def Service.augmentTwice (naming : Naming) (first second : GenerationSettings) :
    EStateM PassError Service (Report × Report) := do
  let report ← Service.augment naming first
  let report' ← Service.augment naming second
  return (report, report')

/-- `t` is `s` with other numbers for the types that `base` does not hold. The members are the same
ones. What they and the headers refer to lies in `base`. -/
structure Service.RenumbersTo (base : Registry) (s t : Service) (f : TypeId → TypeId) : Prop where
  name : t.name = s.name
  numbers : base.Renumbers s.types t.types f
  members : ∀ id, s.types.hasId id = true → t.types.get? (f id) = s.types.get? id
  size : t.types.size = s.types.size
  methods : t.methods = s.methods.map (Method.renumber f)
  targets : ∀ type ∈ s.types.members, ∀ target, type.target? = some target → f target = target
  headers : ∀ m ∈ s.methods, ∀ id, m.returnType.headers = some id → f id = id

/-- Every method is left to one of two stages, which wraps it as a single pass would, and no wrapper
is asked for in both stages. -/
structure Stages (naming : Naming) (first second : GenerationSettings) (methods : List Method) :
    Prop where
  kinds : ∀ m ∈ methods,
    first.kindOf m = .plain ∧ second.kindOf m = GenerationSettings.kindOf {} m ∨
      second.kindOf m = .plain ∧ first.kindOf m = GenerationSettings.kindOf {} m
  apart : ∀ type ∈ candidatesOf naming first methods,
    ∀ type' ∈ candidatesOf naming second methods, type.key ≠ type'.key

/-- `t` is `s` after all methods were wrapped and the candidates registered in the given order, in
which the first candidate of each key is that of a single pass. -/
structure Service.CompletesTo (naming : Naming) (s t : Service) (candidates : List ModelType) :
    Prop where
  name : t.name = s.name
  types : t.types = s.types.registerAll candidates
  asked : candidates.Perm (candidatesOf naming {} s.methods)
  first : ∀ key, (candidates.find? fun type => type.key = key) =
    (candidatesOf naming {} s.methods).find? fun type => type.key = key
  methods : List.Forall₂ (fun m m' => m ∈ s.methods ∧ ∃ outcome,
    m.Rewired naming t.types (GenerationSettings.kindOf {} m) outcome m') s.methods t.methods

variable {naming : Naming} {first second : GenerationSettings} {methods : List Method}
  {s s' t t' : Service} {report report' : Report}

/-! ### Two stages that deal with different methods -/

theorem exists_pager_of_mem_candidatesOf {type : ModelType}
    (asked : type ∈ candidatesOf naming .pagesOnly methods) : ∃ p, type = .pageIterator p := by
  obtain ⟨m, _, asked⟩ := List.mem_flatMap.mp asked
  rw [GenerationSettings.kindOf_pagesOnly] at asked
  split at asked
  · obtain ⟨p, _, same⟩ := Method.mem_toList_map_toOption.mp asked
    exact ⟨p, same⟩
  · cases asked

theorem exists_handle_of_mem_candidatesOf {type : ModelType}
    (asked : type ∈ candidatesOf naming .handlesOnly methods) : ∃ h, type = .pollingHandle h := by
  obtain ⟨m, _, asked⟩ := List.mem_flatMap.mp asked
  rw [GenerationSettings.kindOf_handlesOnly] at asked
  split at asked
  · obtain ⟨h, _, same⟩ := Method.mem_toList_map_toOption.mp asked
    exact ⟨h, same⟩
  · cases asked

theorem mem_candidatesOf_of_mem_handlesOf {settings : GenerationSettings} {h : PollingHandle}
    (asked : h ∈ handlesOf naming settings methods) :
    .pollingHandle h ∈ candidatesOf naming settings methods := by
  rw [← filterMap_candidatesOf, List.mem_filterMap] at asked
  obtain ⟨type, asked, same⟩ := asked
  rwa [← ModelType.asPollingHandle?_eq_some.mp same]

theorem find?_flatMap_append {α β : Type} (f g : α → List β) (p : β → Bool) (l : List α)
    (apart : (l.flatMap f).find? p = none ∨ (l.flatMap g).find? p = none) :
    (l.flatMap fun a => f a ++ g a).find? p = (l.flatMap f ++ l.flatMap g).find? p := by
  simp only [List.find?_append, List.find?_flatMap, List.findSome?_eq_none_iff] at apart ⊢
  rcases apart with none | none
  · rw [List.findSome?_eq_none_iff.mpr none, Option.none_or]
    refine findSome?_congr fun a ha => ?_
    rw [none a ha, Option.none_or]
  · rw [List.findSome?_eq_none_iff.mpr none, Option.or_none]
    refine findSome?_congr fun a ha => ?_
    rw [none a ha, Option.or_none]

namespace Stages

theorem symm (stages : Stages naming first second methods) :
    Stages naming second first methods where
  kinds m hm := (stages.kinds m hm).symm
  apart type ht type' ht' same := stages.apart type' ht' type ht same.symm

theorem of_separate (separate : ∀ m ∈ methods, m.kind ≠ .paginatedLongRunning) :
    Stages naming .pagesOnly .handlesOnly methods where
  kinds m hm := by
    rw [GenerationSettings.kindOf_all, GenerationSettings.kindOf_pagesOnly,
      GenerationSettings.kindOf_handlesOnly]
    cases kind : m.kind with
    | plain | longRunning => exact .inl ⟨rfl, rfl⟩
    | paginated => exact .inr ⟨rfl, rfl⟩
    | paginatedLongRunning => exact absurd kind (separate m hm)
  apart type ht type' ht' := by
    obtain ⟨p, rfl⟩ := exists_pager_of_mem_candidatesOf ht
    obtain ⟨h, rfl⟩ := exists_handle_of_mem_candidatesOf ht'
    exact TypeKey.noConfusion

theorem candidatesOf_all (stages : Stages naming first second methods) :
    candidatesOf naming {} methods = methods.flatMap fun m =>
      m.candidates naming (first.kindOf m) ++ m.candidates naming (second.kindOf m) := by
  refine List.flatMap_congr fun m hm => ?_
  rcases stages.kinds m hm with ⟨plain, same⟩ | ⟨plain, same⟩
  · rw [plain, same]
    rfl
  · rw [plain, same]
    exact (List.append_nil _).symm

theorem perm_candidatesOf (stages : Stages naming first second methods) :
    (candidatesOf naming first methods ++ candidatesOf naming second methods).Perm
      (candidatesOf naming {} methods) := by
  rw [stages.candidatesOf_all]
  exact List.flatMap_append_perm methods _ _

/-- Candidates with one key are asked for in one stage, in the order of the methods. -/
theorem find?_candidatesOf (stages : Stages naming first second methods) (key : TypeKey) :
    ((candidatesOf naming first methods ++ candidatesOf naming second methods).find?
        fun type => type.key = key) =
      (candidatesOf naming {} methods).find? fun type => type.key = key := by
  rw [stages.candidatesOf_all]
  refine (find?_flatMap_append _ _ _ methods ?_).symm
  by_contra both
  rw [not_or, ← ne_eq, ← ne_eq, Option.ne_none_iff_exists', Option.ne_none_iff_exists'] at both
  obtain ⟨⟨type, found⟩, type', found'⟩ := both
  have keys : type.key = key := by simpa using List.find?_some found
  have keys' : type'.key = key := by simpa using List.find?_some found'
  exact stages.apart type (List.mem_of_find?_eq_some found) type'
    (List.mem_of_find?_eq_some found') (keys.trans keys'.symm)

theorem key_ne_of_mem_handlesOf (stages : Stages naming first second methods)
    {h h' : PollingHandle} (hh : h ∈ handlesOf naming first methods)
    (hh' : h' ∈ handlesOf naming second methods) : h.key ≠ h'.key :=
  stages.apart _ (mem_candidatesOf_of_mem_handlesOf hh) _ (mem_candidatesOf_of_mem_handlesOf hh')

theorem mem_handlesOf_iff (stages : Stages naming first second methods) {h : PollingHandle} :
    h ∈ handlesOf naming {} methods ↔
      h ∈ handlesOf naming first methods ∨ h ∈ handlesOf naming second methods := by
  rw [← filterMap_candidatesOf, (stages.perm_candidatesOf.symm.filterMap _).mem_iff,
    List.filterMap_append, List.mem_append, filterMap_candidatesOf, filterMap_candidatesOf]

end Stages

/-! ### What the second stage finds -/

section SecondStage

variable (stages : Stages naming first second s.methods)
  (reworked : Reworked naming first s s' report)
include stages reworked

omit reworked in
/-- A method that the second stage does not wrap may be another one by then, but it stays plain. -/
theorem Stages.eq_or_plain {m m' : Method} (hm : m ∈ s.methods) {outcome : Outcome}
    (rewired : m.Rewired naming s'.types (first.kindOf m) outcome m') :
    m' = m ∨ second.kindOf m = .plain ∧ second.kindOf m' = .plain := by
  rcases stages.kinds m hm with ⟨plain, _⟩ | ⟨plain, _⟩
  · rw [plain] at rewired
    cases rewired
    exact .inl rfl
  · obtain ⟨returnType, rfl⟩ := rewired.exists_returning
    exact .inr ⟨plain, plain⟩

theorem Stages.candidatesOf_second :
    candidatesOf naming second s'.methods = candidatesOf naming second s.methods := by
  have pairs : s'.methods.map (fun m => m.candidates naming (second.kindOf m)) =
      s.methods.map fun m => m.candidates naming (second.kindOf m) := by
    rw [← List.forall₂_eq_eq_eq, List.forall₂_map_left_iff, List.forall₂_map_right_iff]
    refine reworked.rewired.flip.imp fun m' m => ?_
    rintro ⟨hm, outcome, rewired⟩
    rcases stages.eq_or_plain hm rewired with rfl | ⟨plain, plain'⟩
    · rfl
    · rw [plain, plain']
      rfl
  rw [candidatesOf, candidatesOf, List.flatMap_def, List.flatMap_def, pairs]

theorem Stages.handlesOf_second :
    handlesOf naming second s'.methods = handlesOf naming second s.methods := by
  rw [← filterMap_candidatesOf, stages.candidatesOf_second reworked, filterMap_candidatesOf]

theorem Stages.handle?_second {h : PollingHandle} (hh : h ∈ handlesOf naming second s.methods) :
    s'.types.handle? h.key = s.types.handle? h.key := by
  have absent :
      (handlesOf naming first s.methods).find? (fun found => found.key = h.key) = none := by
    rw [List.find?_eq_none]
    intro found hf same
    exact stages.key_ne_of_mem_handlesOf hf hh (of_decide_eq_true same)
  rw [reworked.types, handle?_registerAll, absent, Option.or_none]

theorem Stages.agrees_second : s'.Agrees naming second ↔ s.Agrees naming second := by
  have handles := stages.handlesOf_second reworked
  have loaded := fun h => stages.handle?_second reworked (h := h)
  constructor
  · rintro ⟨bodies, registered, fresh⟩
    rw [handles] at registered fresh
    refine ⟨?_, ?_, ?_⟩
    · intro m hm paginated
      obtain ⟨m', hm', outcome, rewired⟩ := reworked.exists_after hm
      -- A method that the second stage wraps was left alone by the first.
      rcases stages.eq_or_plain hm rewired with rfl | ⟨plain, _⟩
      · exact bodies m' hm' paginated
      · rw [plain] at paginated
        cases paginated
    · intro h hh old found
      exact registered h hh old ((loaded h hh).trans found)
    · intro h hh h' hh' new
      exact fresh h hh h' hh' ((loaded h hh).trans new)
  · rintro ⟨bodies, registered, fresh⟩
    refine ⟨?_, ?_, ?_⟩
    · intro m' hm' paginated
      obtain ⟨m, hm, outcome, rewired⟩ := reworked.exists_before hm'
      rcases stages.eq_or_plain hm rewired with rfl | ⟨_, plain⟩
      · exact bodies m' hm paginated
      · rw [plain] at paginated
        cases paginated
    · rw [handles]
      intro h hh old found
      exact registered h hh old ((loaded h hh).symm.trans found)
    · rw [handles]
      intro h hh h' hh' new
      exact fresh h hh h' hh' ((loaded h hh).symm.trans new)

end SecondStage

/-! ### The stages succeed when a single pass does -/

/-- What the methods agree on they agree on when fewer of them are wrapped. -/
theorem Service.Agrees.of_subset {settings fewer : GenerationSettings}
    (agrees : s.Agrees naming settings)
    (paginated : ∀ m ∈ s.methods, (fewer.kindOf m).isPaginated = true →
      (settings.kindOf m).isPaginated = true)
    (asked : handlesOf naming fewer s.methods ⊆ handlesOf naming settings s.methods) :
    s.Agrees naming fewer where
  bodies m hm pages := agrees.bodies m hm (paginated m hm pages)
  loaded h hh := agrees.loaded h (asked hh)
  fresh h hh h' hh' := agrees.fresh h (asked hh) h' (asked hh')

namespace Stages

theorem agrees_first (stages : Stages naming first second s.methods)
    (agrees : s.Agrees naming {}) : s.Agrees naming first := by
  refine agrees.of_subset ?_ ?_
  · intro m hm pages
    rcases stages.kinds m hm with ⟨plain, _⟩ | ⟨_, same⟩
    · rw [plain] at pages
      cases pages
    · rwa [← same]
  · intro h hh
    exact stages.mem_handlesOf_iff.mpr (.inl hh)

theorem agrees_iff (stages : Stages naming first second s.methods) :
    s.Agrees naming {} ↔ s.Agrees naming first ∧ s.Agrees naming second := by
  constructor
  · intro agrees
    exact ⟨stages.agrees_first agrees, stages.symm.agrees_first agrees⟩
  · rintro ⟨agrees, agrees'⟩
    refine ⟨?_, ?_, ?_⟩
    · intro m hm pages
      rcases stages.kinds m hm with ⟨_, same⟩ | ⟨_, same⟩
      · exact agrees'.bodies m hm (same ▸ pages)
      · exact agrees.bodies m hm (same ▸ pages)
    · intro h hh
      rcases stages.mem_handlesOf_iff.mp hh with hh | hh
      · exact agrees.loaded h hh
      · exact agrees'.loaded h hh
    · intro h hh h' hh' new same
      -- Handles that are asked for in different stages differ in their keys.
      rcases stages.mem_handlesOf_iff.mp hh with hh | hh <;>
        rcases stages.mem_handlesOf_iff.mp hh' with hh' | hh'
      · exact agrees.fresh h hh h' hh' new same
      · exact absurd same.symm (stages.key_ne_of_mem_handlesOf hh hh')
      · exact absurd same (stages.key_ne_of_mem_handlesOf hh' hh)
      · exact agrees'.fresh h hh h' hh' new same

end Stages

theorem Service.run_augmentTwice_eq_ok_iff :
    (Service.augmentTwice naming first second).run s = .ok (report, report') t ↔
      ∃ s', (Service.augment naming first).run s = .ok report s' ∧
        (Service.augment naming second).run s' = .ok report' t := by
  simp only [Service.augmentTwice, EStateM.run_bind, EStateM.run_pure]
  cases (Service.augment naming first).run s with
  | error e s' => simp
  | ok found s' =>
    simp only
    cases run : (Service.augment naming second).run s' with
    | error e t' => simp [run]
    | ok found' t' => simp [run, and_assoc]

theorem Stages.exists_ok_augmentTwice_iff (stages : Stages naming first second s.methods)
    (consistent : s.Consistent) :
    (∃ reports t, (Service.augmentTwice naming first second).run s = .ok reports t) ↔
      ∃ report s', (Service.augment naming {}).run s = .ok report s' := by
  rw [consistent.exists_ok_iff_agrees, stages.agrees_iff]
  constructor
  · rintro ⟨⟨report, report'⟩, t, ok⟩
    obtain ⟨s', ok, ok'⟩ := Service.run_augmentTwice_eq_ok_iff.mp ok
    obtain ⟨_, reworked, faultless⟩ := reworked_of_run_augment ok
    have consistent' := (Service.faults_eq_nil_iff s').mp faultless
    have agrees' := consistent'.exists_ok_iff_agrees.mp ⟨_, _, ok'⟩
    have agrees : s.Agrees naming first := consistent.exists_ok_iff_agrees.mp ⟨_, _, ok⟩
    exact ⟨agrees, (stages.agrees_second reworked).mp agrees'⟩
  · rintro ⟨agrees, agrees'⟩
    obtain ⟨report, s', ok⟩ := consistent.exists_ok_iff_agrees.mpr agrees
    obtain ⟨_, reworked, faultless⟩ := reworked_of_run_augment ok
    have consistent' := (Service.faults_eq_nil_iff s').mp faultless
    obtain ⟨report', t, ok'⟩ :=
      consistent'.exists_ok_iff_agrees.mpr ((stages.agrees_second reworked).mpr agrees')
    exact ⟨(report, report'), t, Service.run_augmentTwice_eq_ok_iff.mpr ⟨s', ok, ok'⟩⟩

/-! ### The stages come to what a single pass comes to -/

theorem forall₂_trans {α β γ : Type} {R : α → β → Prop} {S : β → γ → Prop} {T : α → γ → Prop}
    {l : List α} {l' : List β} {l'' : List γ} (h : List.Forall₂ R l l') (h' : List.Forall₂ S l' l'')
    (step : ∀ a b c, R a b → S b c → T a c) : List.Forall₂ T l l'' := by
  induction h generalizing l'' with
  | nil =>
    cases h'
    exact .nil
  | cons first _ ih =>
    cases h' with
    | cons first' rest' => exact .cons (step _ _ _ first first') (ih rest')

theorem Reworked.completesTo (reworked : Reworked naming {} s s' report) :
    s.CompletesTo naming s' (candidatesOf naming {} s.methods) :=
  ⟨reworked.name, reworked.types, .refl _, fun _ => rfl, reworked.rewired⟩

theorem Stages.completesTo (stages : Stages naming first second s.methods)
    (reworked : Reworked naming first s s' report)
    (reworked' : Reworked naming second s' t report') :
    s.CompletesTo naming t
      (candidatesOf naming first s.methods ++ candidatesOf naming second s.methods) where
  name := reworked'.name.trans reworked.name
  types := by
    rw [Registry.registerAll_append, ← reworked.types, ← stages.candidatesOf_second reworked,
      reworked'.types]
  asked := stages.perm_candidatesOf
  first := stages.find?_candidatesOf
  methods := by
    refine forall₂_trans reworked.rewired reworked'.rewired ?_
    rintro m m' m'' ⟨hm, outcome, rewired⟩ ⟨_, outcome', rewired'⟩
    refine ⟨hm, ?_⟩
    -- One of the two stages leaves the method alone.
    rcases stages.kinds m hm with ⟨plain, same⟩ | ⟨plain, same⟩
    · rw [plain] at rewired
      cases rewired
      exact ⟨outcome', same ▸ rewired'⟩
    · have plain' : second.kindOf m' = .plain := by
        obtain ⟨returnType, rfl⟩ := rewired.exists_returning
        exact plain
      rw [plain'] at rewired'
      cases rewired'
      exact ⟨outcome, same ▸ rewired.grows reworked'.grows⟩

namespace Service.CompletesTo

variable {candidates candidates' : List ModelType}

theorem grows (completes : s.CompletesTo naming t candidates) : s.types.Grows t.types := by
  rw [completes.types]
  exact Registry.grows_registerAll _ _

theorem hasId_of_target (completes : s.CompletesTo naming t candidates) (consistent : s.Consistent)
    {type : ModelType} (ht : type ∈ t.types.members) {target : TypeId}
    (htarget : type.target? = some target) : s.types.hasId target = true := by
  rw [completes.types] at ht
  rcases Registry.mem_of_mem_registerAll ht with old | ⟨asked, _⟩
  · exact consistent.targets type old target htarget
  · obtain ⟨m, hm, asked⟩ := List.mem_flatMap.mp (completes.asked.subset asked)
    exact consistent.hasId_of_mem_candidates hm asked htarget

theorem hasId_of_headers (completes : s.CompletesTo naming t candidates)
    (consistent : s.Consistent) {m' : Method} (hm' : m' ∈ t.methods) {id : TypeId}
    (headers : m'.returnType.headers = some id) : s.types.hasId id = true := by
  obtain ⟨m, _, hm, _, rewired⟩ := exists_of_forall₂ completes.methods.flip hm'
  exact consistent.hasId_of_headers hm rewired headers

variable (completes : s.CompletesTo naming t candidates)
  (completes' : s.CompletesTo naming t' candidates')
include completes completes'

theorem size_eq : t'.types.size = t.types.size := by
  have keys := Registry.perm_keys_registerAll s.types (completes.asked.trans completes'.asked.symm)
  have lengths := keys.length_eq
  rw [List.length_map, List.length_map] at lengths
  rw [completes.types, completes'.types]
  exact lengths.symm

theorem renumbers (agrees : s.Agrees naming {}) :
    s.types.Renumbers t.types t'.types (s.types.renumber t.types t'.types) := by
  rw [completes.types, completes'.types]
  refine Registry.renumbers_registerAll (completes.asked.trans completes'.asked.symm) ?_
  intro type ht type' ht'
  exact agrees.target?_eq type (completes.asked.subset ht) type' (completes.asked.subset ht')

theorem get?_renumber {id : TypeId} (known : t.types.hasId id = true) :
    t'.types.get? (s.types.renumber t.types t'.types id) = t.types.get? id := by
  rw [completes.types] at known ⊢
  rw [completes'.types]
  refine Registry.get?_renumber (completes.asked.trans completes'.asked.symm) ?_ known
  intro key
  rw [completes.first, completes'.first]

theorem methods_eq (consistent : s.Consistent) :
    t'.methods = t.methods.map (Method.renumber (s.types.renumber t.types t'.types)) := by
  refine eq_map_of_forall₂ completes.methods completes'.methods ?_
  rintro m m' m'' ⟨hm, _, rewired⟩ ⟨_, _, rewired'⟩
  exact consistent.eq_renumber hm completes.grows completes'.grows rewired rewired'

theorem exists_renumbersTo (consistent : s.Consistent) (agrees : s.Agrees naming {}) :
    ∃ f, t.RenumbersTo s.types t' f :=
  ⟨s.types.renumber t.types t'.types, {
    name := completes'.name.trans completes.name.symm
    numbers := completes.renumbers completes' agrees
    members := fun _ known => completes.get?_renumber completes' known
    size := completes.size_eq completes'
    methods := completes.methods_eq completes' consistent
    targets := fun _ ht _ htarget => if_pos (completes.hasId_of_target consistent ht htarget)
    headers := fun _ hm _ headers => if_pos (completes.hasId_of_headers consistent hm headers) }⟩

end Service.CompletesTo

theorem Stages.completesTo_of_run_augmentTwice (stages : Stages naming first second s.methods)
    {reports : Report × Report}
    (ok : (Service.augmentTwice naming first second).run s = .ok reports t) :
    (∃ candidates, s.CompletesTo naming t candidates) ∧
      reports.1.typesAdded + reports.2.typesAdded = t.types.size - s.types.size := by
  obtain ⟨s', ok, ok'⟩ := Service.run_augmentTwice_eq_ok_iff.mp ok
  obtain ⟨_, reworked, _⟩ := reworked_of_run_augment ok
  obtain ⟨_, reworked', _⟩ := reworked_of_run_augment ok'
  refine ⟨⟨_, stages.completesTo reworked reworked'⟩, ?_⟩
  have grown := reworked.grows.size_le
  have grown' := reworked'.grows.size_le
  rw [reworked.report_eq, reworked'.report_eq]
  simp only
  omega

/-- A service without faults and without methods that are both paginated and long-running is
augmented in two stages, page iterators first or polling handles first. The stages succeed when a
single pass does. Then all three come to the same members and the same methods but for the numbers
of the wrappers, and the two stages add as many types as the single pass. -/
theorem run_augmentTwice_of_separate (faultless : s.faults = [])
    (separate : ∀ m ∈ s.methods, m.kind ≠ .paginatedLongRunning) :
    ((∃ reports t, (Service.augmentTwice naming .pagesOnly .handlesOnly).run s = .ok reports t) ↔
      ∃ report s', (Service.augment naming {}).run s = .ok report s') ∧
    ((∃ reports t, (Service.augmentTwice naming .handlesOnly .pagesOnly).run s = .ok reports t) ↔
      ∃ report s', (Service.augment naming {}).run s = .ok report s') ∧
    ∀ report s' reports t reports' t', (Service.augment naming {}).run s = .ok report s' →
      (Service.augmentTwice naming .pagesOnly .handlesOnly).run s = .ok reports t →
      (Service.augmentTwice naming .handlesOnly .pagesOnly).run s = .ok reports' t' →
      (∃ f, s'.RenumbersTo s.types t f) ∧ (∃ f, s'.RenumbersTo s.types t' f) ∧
      (∃ f, t.RenumbersTo s.types t' f) ∧
      reports.1.typesAdded + reports.2.typesAdded = report.typesAdded ∧
      reports'.1.typesAdded + reports'.2.typesAdded = report.typesAdded := by
  have consistent := (Service.faults_eq_nil_iff s).mp faultless
  have stages : Stages naming .pagesOnly .handlesOnly s.methods := .of_separate separate
  refine ⟨stages.exists_ok_augmentTwice_iff consistent,
    stages.symm.exists_ok_augmentTwice_iff consistent, ?_⟩
  intro report s' reports t reports' t' once pagesFirst handlesFirst
  have agrees : s.Agrees naming {} := consistent.exists_ok_iff_agrees.mp ⟨_, _, once⟩
  obtain ⟨_, reworked, _⟩ := reworked_of_run_augment once
  obtain ⟨⟨_, completes⟩, added⟩ := stages.completesTo_of_run_augmentTwice pagesFirst
  obtain ⟨⟨_, completes'⟩, added'⟩ := stages.symm.completesTo_of_run_augmentTwice handlesFirst
  refine ⟨reworked.completesTo.exists_renumbersTo completes consistent agrees,
    reworked.completesTo.exists_renumbersTo completes' consistent agrees,
    completes.exists_renumbersTo completes' consistent agrees, ?_, ?_⟩
  · rw [added, reworked.completesTo.size_eq completes, reworked.report_eq]
  · rw [added', reworked.completesTo.size_eq completes', reworked.report_eq]

/-! ### Page iterators on both sides of a polling handle -/

/-- `Create` and `widgetsCreate` ask for one handle, and every list for a page iterator. -/
def interleavedService : Service where
  name := "widgets"
  methods := [
    { group := "widgets", name := "List", kind := .paginated,
      returnType := .response ⟨some ⟨0⟩, none⟩ },
    { group := "widgets", name := "Create", kind := .longRunning,
      returnType := .response ⟨some ⟨0⟩, some ⟨1⟩⟩ },
    { name := "widgetsCreate", kind := .longRunning,
      returnType := .response ⟨some ⟨0⟩, none⟩ },
    { group := "widgets", name := "ListNames", kind := .paginated,
      returnType := .response ⟨some ⟨1⟩, none⟩ }]
  types := .ofList [.ofComposite "Widget", .ofPrimitive "string"]

def widgetPager : ModelType := .pageIterator (.ofElement ⟨0⟩ false)

def namePager : ModelType := .pageIterator (.ofElement ⟨1⟩ false)

def creationHandle : ModelType :=
  .pollingHandle ⟨"widgetsCreate", false, "widgets", "Create", some ⟨0⟩⟩

/-- The service once its methods return the given wrappers. -/
def interleavedServiceAugmented (list create names : TypeId) (wrappers : List ModelType) :
    Service where
  name := "widgets"
  methods := [
    { group := "widgets", name := "List", kind := .paginated,
      returnType := .response ⟨some list, none⟩ },
    { group := "widgets", name := "Create", kind := .longRunning,
      returnType := .response ⟨some create, some ⟨1⟩⟩ },
    { name := "widgetsCreate", kind := .longRunning,
      returnType := .response ⟨some create, none⟩ },
    { group := "widgets", name := "ListNames", kind := .paginated,
      returnType := .response ⟨some names, none⟩ }]
  types := .ofList ([.ofComposite "Widget", .ofPrimitive "string"] ++ wrappers)

def interleavedServiceAtOnce : Service :=
  interleavedServiceAugmented ⟨2⟩ ⟨3⟩ ⟨4⟩ [widgetPager, creationHandle, namePager]

def interleavedServicePagesFirst : Service :=
  interleavedServiceAugmented ⟨2⟩ ⟨4⟩ ⟨3⟩ [widgetPager, namePager, creationHandle]

def interleavedServiceHandlesFirst : Service :=
  interleavedServiceAugmented ⟨3⟩ ⟨2⟩ ⟨4⟩ [creationHandle, widgetPager, namePager]

/-- What each pass that sees the shared handle warns of. -/
def sharedCreation : Collision := ⟨"widgetsCreate", ["widgets.Create", "widgetsCreate"]⟩

theorem run_augmentTwice_interleavedService :
    interleavedService.faults = [] ∧
    (∀ m ∈ interleavedService.methods, m.kind ≠ .paginatedLongRunning) ∧
    (Service.augment joinedName {}).run interleavedService =
      .ok ⟨4, 2, 2, 0, 3, [sharedCreation]⟩ interleavedServiceAtOnce ∧
    (Service.augmentTwice joinedName .pagesOnly .handlesOnly).run interleavedService =
      .ok (⟨4, 2, 0, 0, 2, []⟩, ⟨4, 0, 2, 0, 1, [sharedCreation]⟩) interleavedServicePagesFirst ∧
    (Service.augmentTwice joinedName .handlesOnly .pagesOnly).run interleavedService =
      .ok (⟨4, 0, 2, 0, 1, [sharedCreation]⟩, ⟨4, 2, 0, 0, 2, [sharedCreation]⟩)
        interleavedServiceHandlesFirst ∧
    (∃ f, interleavedServiceAtOnce.RenumbersTo interleavedService.types
      interleavedServicePagesFirst f) ∧
    (∃ f, interleavedServiceAtOnce.RenumbersTo interleavedService.types
      interleavedServiceHandlesFirst f) ∧
    ∃ f, interleavedServicePagesFirst.RenumbersTo interleavedService.types
      interleavedServiceHandlesFirst f := by
  have faultless : interleavedService.faults = [] := rfl
  have separate : ∀ m ∈ interleavedService.methods, m.kind ≠ .paginatedLongRunning := by decide
  have once : (Service.augment joinedName {}).run interleavedService =
      .ok ⟨4, 2, 2, 0, 3, [sharedCreation]⟩ interleavedServiceAtOnce := rfl
  have pagesFirst :
      (Service.augmentTwice joinedName .pagesOnly .handlesOnly).run interleavedService =
        .ok (⟨4, 2, 0, 0, 2, []⟩, ⟨4, 0, 2, 0, 1, [sharedCreation]⟩)
          interleavedServicePagesFirst := rfl
  have handlesFirst :
      (Service.augmentTwice joinedName .handlesOnly .pagesOnly).run interleavedService =
        .ok (⟨4, 0, 2, 0, 1, [sharedCreation]⟩, ⟨4, 2, 0, 0, 2, [sharedCreation]⟩)
          interleavedServiceHandlesFirst := rfl
  obtain ⟨moved, moved', moved'', _⟩ :=
    (run_augmentTwice_of_separate faultless separate).2.2 _ _ _ _ _ _ once pagesFirst handlesFirst
  exact ⟨faultless, separate, once, pagesFirst, handlesFirst, moved, moved', moved''⟩

end WrapperSynthesis
