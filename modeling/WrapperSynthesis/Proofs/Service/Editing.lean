import WrapperSynthesis.Proofs.Pass.Acceptance
import WrapperSynthesis.Proofs.Service.MethodTable
import WrapperSynthesis.Proofs.Program

/-! Editing a service keeps it free of faults. An edit registers a type, inserts a method, wraps a
method of the service or runs a pass, and it may fail. One edit keeps the service consistent
(`Service.Consistent.apply`), so any row of edits does, and so do the steps of a pass
(`faults_eq_nil_of_edits`). -/

namespace WrapperSynthesis

/-- Wraps the method with the given number in place. -/
def Service.wrapMethod {α : Type} (wrapping : Wrapping α) (index : Nat) (s : Service) : Service :=
  match s.methods[index]? with
  | some m =>
    let w := stateAfter wrapping ⟨m, s.types⟩
    { s with methods := s.methods.set index w.method, types := w.types }
  | none => s

/-- A change to a service. Methods are wrapped by their number. -/
inductive Edit where
  | registerType (type : ModelType)
  | addType (type : ModelType)
  | insertMethod (m : Method)
  | wrap (naming : Naming) (index : Nat)
  | wrapAs (naming : Naming) (kind : OperationKind) (index : Nat)
  | wrapPaginated (index : Nat)
  | wrapLongRunning (naming : Naming) (index : Nat)
  | wrapPaginatedLongRunning (naming : Naming) (index : Nat)
  | augment (naming : Naming) (settings : GenerationSettings)

namespace Edit

/-- The service as the edit leaves it, also when the edit fails. -/
def apply : Edit → Service → Service
  | registerType type, s => (s.registerType type).2
  | addType type, s => (s.addType type).2
  | insertMethod m, s => s.insertMethod m
  | wrap naming index, s => s.wrapMethod (Wrapping.wrap naming) index
  | wrapAs naming kind index, s => s.wrapMethod (Wrapping.wrapAs naming kind) index
  | wrapPaginated index, s => s.wrapMethod Wrapping.wrapPaginated index
  | wrapLongRunning naming index, s => s.wrapMethod (Wrapping.wrapLongRunning naming) index
  | wrapPaginatedLongRunning naming index, s =>
    s.wrapMethod (Wrapping.wrapPaginatedLongRunning naming) index
  | augment naming settings, s => stateAfter (Service.augment naming settings) s

/-- What is asked of an edit: a type wraps a registered type, and an inserted method returns
registered types and the right wrappers. -/
def Allowed (s : Service) : Edit → Prop
  | registerType type | addType type =>
    ∀ target, type.target? = some target → s.types.hasId target = true
  | insertMethod m =>
    (∀ id ∈ m.returnType.referenced, s.types.hasId id = true) ∧ s.types.FitsSlots m.returnType
  | wrap .. | wrapAs .. | wrapPaginated .. | wrapLongRunning .. | wrapPaginatedLongRunning ..
  | augment .. => True

def applyAll (edits : List Edit) (s : Service) : Service :=
  edits.foldl (fun s edit => edit.apply s) s

/-- Every edit of a row is allowed when its turn comes. -/
def AllAllowed (s : Service) : List Edit → Prop
  | [] => True
  | edit :: rest => edit.Allowed s ∧ AllAllowed (edit.apply s) rest

end Edit

namespace Registry

/-- What a method that was wrapped as the given kind may return. -/
def FitsKind (r : Registry) (returnType : ReturnType) : OperationKind → Prop
  | .plain => True
  | .paginated => ∃ id, returnType.body = some id ∧ r.HoldsPager id
  | .longRunning => ∃ id, returnType.body = some id ∧ r.HoldsHandle id false
  | .paginatedLongRunning =>
    ∃ composed, returnType = .pagedOperation composed ∧ r.FitsSlots (.pagedOperation composed)

end Registry

variable {naming : Naming} {settings : GenerationSettings}

theorem Method.Rewired.fitsKind {types : Registry} {m m' : Method} {kind : OperationKind}
    {outcome : Outcome} (rewired : m.Rewired naming types kind outcome m') :
    types.FitsKind m'.returnType kind := by
  cases rewired with
  | plain => trivial
  | paginated _ hp => exact ⟨_, rfl, Registry.holdsPager_of_idOf? hp⟩
  | longRunning hh => exact ⟨_, rfl, Registry.holdsHandle_of_idOf? hh⟩
  | paginatedLongRunning _ hh hl hp _ =>
    exact ⟨_, rfl, Registry.holdsHandle_of_idOf? hh, Registry.holdsHandle_of_idOf? hl,
      Registry.holdsPager_of_idOf? hp⟩

/-! ### The ways to wrap a method -/

section Wrapping

variable {α : Type}

/-- The wrapping leaves every workpiece as wrapping it as some kind does. -/
def Wrapping.FollowsKinds (wrapping : Wrapping α) : Prop :=
  ∀ w, ∃ naming kind, stateAfter wrapping w = stateAfter (Wrapping.wrapAs naming kind) w

theorem followsKinds_wrapAs (naming : Naming) (kind : OperationKind) :
    Wrapping.FollowsKinds (Wrapping.wrapAs naming kind) :=
  fun _ => ⟨naming, kind, rfl⟩

theorem followsKinds_wrap (naming : Naming) : Wrapping.FollowsKinds (Wrapping.wrap naming) :=
  fun w => ⟨naming, w.method.kind, rfl⟩

-- A page iterator has no name, so any naming will do.
theorem followsKinds_wrapPaginated : Wrapping.FollowsKinds Wrapping.wrapPaginated :=
  fun w => ⟨joinedName, .paginated, (stateAfter_map _ _ w).symm⟩

theorem followsKinds_wrapLongRunning (naming : Naming) :
    Wrapping.FollowsKinds (Wrapping.wrapLongRunning naming) :=
  fun w => ⟨naming, .longRunning, (stateAfter_map _ _ w).symm⟩

theorem followsKinds_wrapPaginatedLongRunning (naming : Naming) :
    Wrapping.FollowsKinds (Wrapping.wrapPaginatedLongRunning naming) :=
  fun w => ⟨naming, .paginatedLongRunning, (stateAfter_map _ _ w).symm⟩

end Wrapping

/-! ### One edit -/

namespace Service.Consistent

variable {s : Service} {types : Registry} {name : String} {before after : List Method}
  {m m' : Method} {kind : OperationKind}

theorem withTypes (h : s.Consistent) (grows : s.types.Grows types)
    (new : ∀ type ∈ types.members, type ∈ s.types.members ∨
      ∀ target, type.target? = some target → s.types.hasId target = true) :
    ({ s with types } : Service).Consistent where
  distinct := h.distinct
  registered n hn id hid := grows.hasId (h.registered n hn id hid)
  slots n hn := grows.fitsSlots (h.slots n hn)
  targets type ht target htarget := by
    rcases new type ht with old | known
    · exact grows.hasId (h.targets type old target htarget)
    · exact grows.hasId (known target htarget)

theorem registerAll (h : s.Consistent) {candidates : List ModelType}
    (known : ∀ type ∈ candidates, ∀ target, type.target? = some target →
      s.types.hasId target = true) :
    ({ s with types := s.types.registerAll candidates } : Service).Consistent := by
  refine h.withTypes (Registry.grows_registerAll _ _) ?_
  intro type ht
  exact (Registry.mem_of_mem_registerAll ht).imp_right fun new => known type new.1

theorem addType (h : s.Consistent) {type : ModelType}
    (known : ∀ target, type.target? = some target → s.types.hasId target = true) :
    (s.addType type).2.Consistent := by
  refine h.withTypes (List.prefix_append ..) ?_
  intro other ht
  rcases List.mem_append.mp ht with old | new
  · exact .inl old
  · rw [List.mem_singleton.mp new]
    exact .inr known

theorem insertMethod (h : s.Consistent)
    (known : ∀ id ∈ m.returnType.referenced, s.types.hasId id = true)
    (fits : s.types.FitsSlots m.returnType) : (s.insertMethod m).Consistent where
  distinct := nodup_identity_insertIn h.distinct
  registered n hn id hid := by
    rcases mem_insertIn hn with rfl | hn
    · exact known id hid
    · exact h.registered n hn id hid
  slots n hn := by
    rcases mem_insertIn hn with rfl | hn
    · exact fits
    · exact h.slots n hn
  targets := h.targets

theorem replace (h : Consistent ⟨name, before ++ m :: after, types⟩)
    (identity : m'.identity = m.identity)
    (known : ∀ id ∈ m'.returnType.referenced, types.hasId id = true)
    (fits : types.FitsSlots m'.returnType) :
    Consistent ⟨name, before ++ m' :: after, types⟩ := by
  have others : ∀ n ∈ before ++ m' :: after, n = m' ∨ n ∈ before ++ m :: after := by
    intro n hn
    simp only [List.mem_append, List.mem_cons] at hn ⊢
    tauto
  refine ⟨?_, ?_, ?_, h.targets⟩
  · have distinct := h.distinct
    rw [List.map_append, List.map_cons] at distinct ⊢
    rw [identity]
    exact distinct
  · intro n hn id hid
    rcases others n hn with rfl | hn
    · exact known id hid
    · exact h.registered n hn id hid
  · intro n hn
    rcases others n hn with rfl | hn
    · exact fits
    · exact h.slots n hn

theorem hasId_of_mem_candidates (h : s.Consistent) (hm : m ∈ s.methods) {type : ModelType}
    (ht : type ∈ m.candidates naming kind) {target : TypeId}
    (htarget : type.target? = some target) :
    s.types.hasId target = true := by
  have body := (Method.target?_of_mem_candidates ht).symm.trans htarget
  exact h.registered m hm target (ReturnType.mem_referenced_of_body body)

theorem wrapped (h : Consistent ⟨name, before ++ m :: after, types⟩) (naming : Naming)
    (kind : OperationKind) {w : Workpiece}
    (left : stateAfter (Wrapping.wrapAs naming kind) ⟨m, types⟩ = w) :
    Consistent ⟨name, before ++ w.method :: after, w.types⟩ := by
  subst left
  cases refused : m.refusal? naming kind types with
  | some e =>
    -- All checks come before the first wrapper, so there is nothing to undo.
    rw [stateAfter, Wrapping.run_wrapAs_of_refusal refused]
    exact h
  | none =>
    obtain ⟨outcome, m', run, rewired⟩ := Wrapping.run_wrapAs_of_not_refused refused
    rw [stateAfter, run]
    have hm : m ∈ before ++ m :: after := List.mem_append_right _ List.mem_cons_self
    have known : ∀ type ∈ m.candidates naming kind,
        ∀ target, type.target? = some target → types.hasId target = true := by
      intro type ht target htarget
      exact h.hasId_of_mem_candidates hm ht htarget
    have grown := h.registerAll known
    refine grown.replace ?_ ?_ ?_
    · obtain ⟨returnType, rfl⟩ := rewired.exists_returning
      rfl
    · intro id hid
      rcases rewired.of_mem_referenced hid with ⟨_, old⟩ | hs | ⟨_, _, hp⟩ | ⟨_, _, hh⟩
      · exact grown.registered m hm id old
      · exact grown.registered m hm id (ReturnType.mem_referenced_of_headers hs)
      · exact Registry.hasId_of_idOf? hp
      · exact Registry.hasId_of_idOf? hh
    · exact rewired.fitsSlots fun _ => grown.slots m hm

theorem wrapMethod {α : Type} (h : s.Consistent) {wrapping : Wrapping α}
    (follows : wrapping.FollowsKinds) (index : Nat) : (s.wrapMethod wrapping index).Consistent := by
  rw [Service.wrapMethod]
  cases found : s.methods[index]? with
  | none => exact h
  | some m =>
    obtain ⟨bound, at_index⟩ := List.getElem?_eq_some_iff.mp found
    obtain ⟨naming, kind, left⟩ := follows ⟨m, s.types⟩
    simp only
    generalize stateAfter wrapping ⟨m, s.types⟩ = w at left ⊢
    obtain ⟨before, after, methods, _, replaced⟩ :=
      @List.exists_of_set _ index w.method s.methods bound
    rw [at_index] at methods
    have split : Consistent ⟨s.name, before ++ m :: after, s.types⟩ := methods ▸ h
    rw [replaced]
    exact split.wrapped naming kind left.symm

theorem augment (h : s.Consistent) (naming : Naming) (settings : GenerationSettings) :
    (stateAfter (Service.augment naming settings) s).Consistent := by
  rw [stateAfter]
  cases run : (Service.augment naming settings).run s with
  | ok report s' =>
    exact (Service.faults_eq_nil_iff s').mp (reworked_of_run_augment run).2.2
  | error e s' =>
    -- The pass worked on a copy.
    rw [run_augment] at run
    split at run
    · cases run
    · cases run
      exact h

theorem apply {edit : Edit} (h : s.Consistent) (allowed : edit.Allowed s) :
    (edit.apply s).Consistent := by
  cases edit with
  | registerType type =>
    have known : ∀ other ∈ [type], ∀ target, other.target? = some target →
        s.types.hasId target = true := by
      intro other ht
      rw [List.mem_singleton.mp ht]
      exact allowed
    exact h.registerAll known
  | addType type => exact h.addType allowed
  | insertMethod m => exact h.insertMethod allowed.1 allowed.2
  | wrap naming index => exact h.wrapMethod (followsKinds_wrap naming) index
  | wrapAs naming kind index => exact h.wrapMethod (followsKinds_wrapAs naming kind) index
  | wrapPaginated index => exact h.wrapMethod followsKinds_wrapPaginated index
  | wrapLongRunning naming index =>
    exact h.wrapMethod (followsKinds_wrapLongRunning naming) index
  | wrapPaginatedLongRunning naming index =>
    exact h.wrapMethod (followsKinds_wrapPaginatedLongRunning naming) index
  | augment naming settings => exact h.augment naming settings

/-! ### Rows of edits and the steps of a pass -/

theorem applyAll {edits : List Edit} (h : s.Consistent) (allowed : Edit.AllAllowed s edits) :
    (Edit.applyAll edits s).Consistent := by
  induction edits generalizing s with
  | nil => exact h
  | cons edit rest ih => exact ih (h.apply allowed.1) allowed.2

/-- A pass over the methods in the middle keeps the service consistent, as far as it gets. -/
theorem walk {rest done : List Method} {types' : Registry}
    (h : Consistent ⟨name, before ++ (rest ++ after), types⟩)
    (reached : (Walk.ofMethods naming settings rest types).result = .ok (done, types')) :
    Consistent ⟨name, before ++ (done ++ after), types'⟩ := by
  -- `before` grows by the methods that are done, so that `h` is about the whole service throughout.
  induction rest generalizing before types done with
  | nil =>
    cases reached
    exact h
  | cons m rest ih =>
    rw [Walk.ofMethods] at reached
    cases run : (Wrapping.wrapAs naming (settings.kindOf m)).run ⟨m, types⟩ with
    | error e w =>
      simp only [run] at reached
      cases reached
    | ok outcome w =>
      simp only [run] at reached
      cases later : (Walk.ofMethods naming settings rest w.types).result with
      | error e =>
        rw [later] at reached
        cases reached
      | ok final =>
        rw [later] at reached
        cases reached
        have left : stateAfter (Wrapping.wrapAs naming (settings.kindOf m)) ⟨m, types⟩ = w := by
          rw [stateAfter, run]
        have next := h.wrapped naming (settings.kindOf m) left
        rw [List.append_cons] at next
        have final := ih next later
        rw [List.append_assoc] at final
        exact final

end Service.Consistent

theorem firstRefusal?_of_result {methods done : List Method} {types types' : Registry}
    (reached : (Walk.ofMethods naming settings methods types).result = .ok (done, types')) :
    firstRefusal? naming settings methods types = none := by
  cases refused : firstRefusal? naming settings methods types with
  | none => rfl
  | some e =>
    rw [result_ofMethods_of_refusal refused] at reached
    cases reached

theorem forall_fitsKind_of_result {methods done : List Method} {types types' : Registry}
    (reached : (Walk.ofMethods naming settings methods types).result = .ok (done, types')) :
    List.Forall₂ (fun m m' => types'.FitsKind m'.returnType (settings.kindOf m)) methods done := by
  obtain ⟨steps, result, _, rewired⟩ := ofMethods_of_not_refused (firstRefusal?_of_result reached)
  rw [result] at reached
  cases reached
  rw [List.forall₂_map_right_iff]
  exact rewired.imp fun m d rewired => rewired.fitsKind

/-- A service without faults has none after any row of allowed edits, whether they succeed or fail.
Nor has the working copy of a pass any, neither between two methods nor while the wrappers of the
next one are registered, and the methods that were done return wrappers of their kinds. -/
theorem faults_eq_nil_of_edits {s : Service} (faultless : s.faults = []) :
    (∀ edits, Edit.AllAllowed s edits → (Edit.applyAll edits s).faults = []) ∧
    ∀ (naming : Naming) (settings : GenerationSettings) before after done types,
      s.methods = before ++ after →
      (Walk.ofMethods naming settings before s.types).result = .ok (done, types) →
      ({ s with methods := done ++ after, types := types } : Service).faults = [] ∧
      (∀ m rest, after = m :: rest → ∀ count,
        ({ s with
          methods := done ++ after,
          types := types.registerAll
            ((m.candidates naming (settings.kindOf m)).take count) } : Service).faults = []) ∧
      List.Forall₂ (fun m m' => types.FitsKind m'.returnType (settings.kindOf m)) before done := by
  have consistent := (Service.faults_eq_nil_iff s).mp faultless
  constructor
  · intro edits allowed
    exact (Service.faults_eq_nil_iff _).mpr (consistent.applyAll allowed)
  · intro naming settings before after done types split reached
    have copy : Service.Consistent ⟨s.name, [] ++ (before ++ after), s.types⟩ := by
      rw [List.nil_append, ← split]
      exact consistent
    have between : Service.Consistent ⟨s.name, done ++ after, types⟩ := copy.walk reached
    refine ⟨(Service.faults_eq_nil_iff _).mpr between, ?_, forall_fitsKind_of_result reached⟩
    rintro m rest rfl count
    have hm : m ∈ done ++ m :: rest := List.mem_append_right _ List.mem_cons_self
    have known : ∀ type ∈ (m.candidates naming (settings.kindOf m)).take count,
        ∀ target, type.target? = some target → types.hasId target = true := by
      intro type ht target htarget
      exact between.hasId_of_mem_candidates hm (List.mem_of_mem_take ht) htarget
    exact (Service.faults_eq_nil_iff _).mpr (between.registerAll known)

/-! ### A row of edits, and a pass halfway -/

def startMethod : Method where
  name := "Start"
  kind := .longRunning
  returnType := .response ⟨some ⟨0⟩, none⟩

def listMethod : Method where
  name := "List"
  kind := .paginatedLongRunning
  returnType := .response ⟨some ⟨0⟩, some ⟨1⟩⟩

/-- Edits of all kinds, of which two fail: `Start` is not paginated, and the first pass finds no
body in the composed return type of `List`. -/
def mixedEdits : List Edit := [
  .registerType (.ofComposite "Widget"),
  .addType (.ofComposite "Widget"),
  .insertMethod startMethod,
  .insertMethod listMethod,
  .wrap joinedName 1,
  .wrapPaginated 0,
  .wrapAs joinedName .longRunning 0,
  .wrapLongRunning joinedName 0,
  .augment joinedName {},
  .augment joinedName ⟨true, false⟩]

/-- The service of the first four edits. -/
def insertedService : Service where
  methods := [startMethod, listMethod]
  types := .ofList [.ofComposite "Widget", .ofComposite "Widget"]

/-- The service in the midst of a pass: `Start` has its handle, and of the wrappers of `List` the
page iterator is still missing. -/
def halfwayService : Service where
  methods := [{ startMethod with returnType := .response ⟨some ⟨2⟩, none⟩ }, listMethod]
  types := .ofList [.ofComposite "Widget", .ofComposite "Widget",
    .pollingHandle ⟨"Start", false, "", "Start", some ⟨0⟩⟩,
    .pollingHandle ⟨"List", false, "", "List", some ⟨0⟩⟩,
    .pollingHandle ⟨"ListAll", true, "", "List", some ⟨0⟩⟩]

theorem faults_mixedEdits :
    (default : Service).faults = [] ∧ Edit.AllAllowed default mixedEdits ∧
    (Edit.applyAll mixedEdits default).faults = [] ∧
    (Edit.applyAll mixedEdits default).types.size = 6 ∧
    Edit.applyAll (mixedEdits.take 4) default = insertedService ∧ insertedService.faults = [] ∧
    (∃ types, (Walk.ofMethods joinedName {} [startMethod] insertedService.types).result =
        .ok (halfwayService.methods.take 1, types) ∧
      halfwayService.types = types.registerAll
        ((listMethod.candidates joinedName .paginatedLongRunning).take 2)) ∧
    halfwayService.faults = [] := by
  have faultless : (default : Service).faults = [] := rfl
  have composite : ∀ s, (Edit.registerType (.ofComposite "Widget")).Allowed s ∧
      (Edit.addType (.ofComposite "Widget")).Allowed s := by
    intro s
    constructor <;> exact fun _ none => nomatch none
  have allowed : Edit.AllAllowed default mixedEdits := by
    refine ⟨(composite _).1, (composite _).2, ⟨by decide, trivial⟩, ⟨by decide, trivial⟩, ?_⟩
    exact ⟨trivial, trivial, trivial, trivial, trivial, trivial, trivial⟩
  have inserted : insertedService.faults = [] := rfl
  obtain ⟨-, registered, -⟩ := (faults_eq_nil_of_edits inserted).2 joinedName {}
    [startMethod] [listMethod] _ _ rfl rfl
  exact ⟨faultless, allowed, (faults_eq_nil_of_edits faultless).1 mixedEdits allowed, by decide,
    rfl, inserted, ⟨_, rfl, rfl⟩, registered listMethod [] rfl 2⟩

end WrapperSynthesis
