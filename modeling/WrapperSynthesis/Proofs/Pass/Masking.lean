import WrapperSynthesis.Proofs.Pass.Walk
import WrapperSynthesis.Proofs.Program

/-! Switching a kind of wrapper off is the same as declaring the methods without the trait that asks
for it. `Method.masked` drops the traits whose wrappers are switched off. A method and its masked
form are wrapped alike (`run_wrapAs_masked`), and from there on the two passes go side by side to
the same end (`run_augment_masked`). Only warnings may differ, for they look at the traits of the
methods. -/

namespace WrapperSynthesis

/-- The method without the traits whose wrappers are switched off. -/
def Method.masked (settings : GenerationSettings) (m : Method) : Method :=
  { m with kind := settings.kindOf m }

def Workpiece.masked (settings : GenerationSettings) (w : Workpiece) : Workpiece :=
  { w with method := w.method.masked settings }

def Step.masked (settings : GenerationSettings) (step : Step) : Step :=
  { step with method := step.method.masked settings }

def Walk.masked (settings : GenerationSettings) (walk : Walk) : Walk where
  steps := walk.steps.map (Step.masked settings)
  result := walk.result.map fun (methods, types) => (methods.map (Method.masked settings), types)

def Service.masked (settings : GenerationSettings) (s : Service) : Service :=
  { s with methods := s.methods.map (Method.masked settings) }

variable {naming : Naming} {settings : GenerationSettings}

/-! ### Wrapping a method -/

@[simp] theorem kindOf_masked (m : Method) :
    GenerationSettings.kindOf {} (m.masked settings) = settings.kindOf m := by
  have all : ∀ kind : OperationKind, kind.masked true true = kind := by
    intro kind
    cases kind <;> rfl
  exact all (settings.kindOf m)

theorem pageIterator_masked {m : Method} (asked : (settings.kindOf m).isPaginated = true) :
    (m.masked settings).pageIterator = m.pageIterator := by
  have own : m.kind.isPaginated = true := OperationKind.isPaginated_of_masked asked
  have kept : (m.masked settings).kind.isPaginated = true := asked
  rw [Method.pageIterator, Method.pageIterator, own, kept]
  rfl

theorem pollingHandle_masked {m : Method} (asked : (settings.kindOf m).isLongRunning = true)
    (ownName : Option String) :
    (m.masked settings).pollingHandle naming ownName = m.pollingHandle naming ownName := by
  have own : m.kind.isLongRunning = true := OperationKind.isLongRunning_of_masked asked
  have kept : (m.masked settings).kind.isLongRunning = true := asked
  rw [Method.pollingHandle, Method.pollingHandle, own, kept]
  rfl

theorem conflict?_masked (m : Method) (types : Registry) (candidate : PollingHandle) :
    (m.masked settings).conflict? types candidate = m.conflict? types candidate := rfl

/-- A method asks for a wrapper only if it has the trait, so it makes no difference to the wrapping
whether it has further traits, whose wrappers are switched off. -/
theorem run_wrapAs_masked (m : Method) (types : Registry) :
    (Wrapping.wrapAs naming (settings.kindOf m)).run ⟨m.masked settings, types⟩ =
      mapState (Workpiece.masked settings)
        ((Wrapping.wrapAs naming (settings.kindOf m)).run ⟨m, types⟩) := by
  -- Each kind in turn, for the method is looked at only for traits that its kind asks for.
  cases kind : settings.kindOf m with
  | plain => rfl
  | paginated =>
    have pager : (m.masked settings).pageIterator = m.pageIterator :=
      pageIterator_masked (by rw [kind]; rfl)
    simp only [Wrapping.wrapAs, map_eq_pure_bind, EStateM.run_bind, Wrapping.run_wrapPaginated,
      pager]
    cases m.pageIterator <;> rfl
  | longRunning =>
    have handle : (m.masked settings).pollingHandle naming none = m.pollingHandle naming none :=
      pollingHandle_masked (by rw [kind]; rfl) none
    simp only [Wrapping.wrapAs, map_eq_pure_bind, EStateM.run_bind, Wrapping.run_wrapLongRunning,
      handle, conflict?_masked]
    cases m.pollingHandle naming none with
    | error e => rfl
    | ok candidate =>
      dsimp only
      cases m.conflict? types candidate <;> rfl
  | paginatedLongRunning =>
    have pager : (m.masked settings).pageIterator = m.pageIterator :=
      pageIterator_masked (by rw [kind]; rfl)
    have handle : ∀ ownName, (m.masked settings).pollingHandle naming ownName =
        m.pollingHandle naming ownName := pollingHandle_masked (by rw [kind]; rfl)
    have listAll : (m.masked settings).listAllName naming = m.listAllName naming := rfl
    simp only [Wrapping.wrapAs, map_eq_pure_bind, EStateM.run_bind,
      Wrapping.run_wrapPaginatedLongRunning, pager, handle, listAll, conflict?_masked]
    cases m.pageIterator with
    | error e => rfl
    | ok pager =>
      cases m.pollingHandle naming none with
      | error e => rfl
      | ok first =>
        cases m.pollingHandle naming (some (m.listAllName naming)) with
        | error e => rfl
        | ok second =>
          dsimp only
          cases (m.conflict? types first).or (m.conflict? types second) <;> rfl

/-! ### The walk -/

theorem ofMethods_masked (methods : List Method) (types : Registry) :
    Walk.ofMethods naming {} (methods.map (Method.masked settings)) types =
      (Walk.ofMethods naming settings methods types).masked settings := by
  induction methods generalizing types with
  | nil => rfl
  | cons m rest ih =>
    simp only [List.map_cons, Walk.ofMethods, kindOf_masked, run_wrapAs_masked]
    cases (Wrapping.wrapAs naming (settings.kindOf m)).run ⟨m, types⟩ with
    | error e w => rfl
    | ok outcome w =>
      have rest' : Walk.ofMethods naming {} (rest.map (Method.masked settings)) w.types =
          (Walk.ofMethods naming settings rest w.types).masked settings := ih w.types
      simp only [mapState, Workpiece.masked, rest', Walk.masked, List.map_cons]
      cases (Walk.ofMethods naming settings rest w.types).result <;> rfl

/-! ### Faults -/

theorem duplicateFaults_masked (seen : List (String × String)) (methods : List Method) :
    duplicateFaults seen (methods.map (Method.masked settings)) = duplicateFaults seen methods := by
  induction methods generalizing seen with
  | nil => rfl
  | cons m rest ih =>
    have identity : (m.masked settings).identity = m.identity := rfl
    have name : (m.masked settings).qualifiedName = m.qualifiedName := rfl
    rw [List.map_cons, duplicateFaults, duplicateFaults, ih, ih, identity, name]

theorem faults_masked (s : Service) : (s.masked settings).faults = s.faults := by
  have methods : (s.methods.map (Method.masked settings)).flatMap s.types.methodFaults =
      s.methods.flatMap s.types.methodFaults := by
    rw [List.flatMap_map]
    rfl
  simp only [Service.faults, Service.masked, duplicateFaults_masked, methods]

/-! ### The whole pass -/

theorem counts_masked (walk : Walk) :
    (walk.masked settings).steps.foldl (fun report step => report.record step.outcome) {} =
      walk.steps.foldl (fun report step => report.record step.outcome) ({} : Report) := by
  rw [Walk.masked, List.foldl_map]
  rfl

theorem result_ofService_masked (s : Service) :
    (Pass.ofService naming {} (s.masked settings)).result =
      (Pass.ofService naming settings s).result.map fun (s', report) =>
        (s'.masked settings,
          { report with warnings := (s'.masked settings).collisions }) := by
  have walks : Walk.ofMethods naming {} (s.masked settings).methods (s.masked settings).types =
      (Walk.ofMethods naming settings s.methods s.types).masked settings :=
    ofMethods_masked s.methods s.types
  simp only [Pass.ofService, walks, counts_masked, Service.toPlain_eq]
  cases walked : (Walk.ofMethods naming settings s.methods s.types).result with
  | error e => simp only [Walk.masked, walked, Except.map]
  | ok final =>
    let copy : Service := { s with methods := final.1, types := final.2 }
    have same : (copy.masked settings).faults = copy.faults := faults_masked copy
    have result : ((Walk.ofMethods naming settings s.methods s.types).masked settings).result =
        .ok ((copy.masked settings).methods, (copy.masked settings).types) := by
      rw [Walk.masked, walked]
      rfl
    have checked : (Service.diagnostics { s.masked settings with
        methods := (copy.masked settings).methods
        types := (copy.masked settings).types }) =
          ⟨copy.faults, (copy.masked settings).collisions⟩ := by
      rw [← same]
      rfl
    rw [result]
    simp only [checked, Diagnostics.hasErrors]
    -- The copies have the same faults, so both passes are refused at their end or neither is.
    cases faults : copy.faults with
    | nil =>
      have ok : ({ s with methods := final.1, types := final.2 } : Service).faults = [] := faults
      simp only [Service.diagnostics, ok]
      rfl
    | cons fault more =>
      have bad :
          ({ s with methods := final.1, types := final.2 } : Service).faults = fault :: more :=
        faults
      simp only [Service.diagnostics, bad]
      rfl

/-- A pass with some wrappers switched off does to a service what a pass with all wrappers does to
the service whose methods are declared without the traits in question: it fails for the same reason,
or it comes to the same registry, the same return types and the same counts. -/
theorem run_augment_masked (naming : Naming) (settings : GenerationSettings) (s : Service) :
    (Service.augment naming {}).run (s.masked settings) =
      match (Service.augment naming settings).run s with
      | .error e s' => .error e (s'.masked settings)
      | .ok report s' =>
        .ok { report with warnings := (s'.masked settings).collisions } (s'.masked settings) := by
  rw [run_augment, run_augment, result_ofService_masked]
  cases (Pass.ofService naming settings s).result <;> rfl

/-! ### Two kinds switched off in turn -/

/-- `Start` returns a handle of another method, so it could not be wrapped as it is declared. -/
def jobsService : Service where
  name := "jobs"
  methods := [
    { name := "List", kind := .paginatedLongRunning, returnType := .response ⟨some ⟨0⟩, none⟩ },
    { name := "Start", kind := .longRunning, returnType := .response ⟨some ⟨1⟩, none⟩ }]
  types := .ofList [.ofComposite "Job",
    .pollingHandle ⟨"Start", false, "jobs", "Start", some ⟨0⟩⟩]

/-- The service once `List` returns pages. -/
def jobsServiceListed : Service where
  name := "jobs"
  methods := [
    { name := "List", kind := .paginatedLongRunning, returnType := .response ⟨some ⟨2⟩, none⟩ },
    { name := "Start", kind := .longRunning, returnType := .response ⟨some ⟨1⟩, none⟩ }]
  types := .ofList [.ofComposite "Job",
    .pollingHandle ⟨"Start", false, "jobs", "Start", some ⟨0⟩⟩,
    .pageIterator (.ofElement ⟨0⟩ false)]

/-- Without polling handles the pass succeeds, and only the masked service has no warning. Without
page iterators both passes are refused. -/
theorem run_augment_masked_jobsService :
    let noHandles : GenerationSettings := { longRunningWrappers := false }
    let noPages : GenerationSettings := { pageWrappers := false }
    let shared : Collision := ⟨"Start", ["jobs.Start", "Start"]⟩
    let conflict : PassError := .wrap (.handleConflict "Start" "Start" "jobs.Start")
    jobsService.methods.map noHandles.kindOf = [.paginated, .plain] ∧
    (Service.augment joinedName noHandles).run jobsService =
      .ok ⟨2, 1, 0, 0, 1, [shared]⟩ jobsServiceListed ∧
    (Service.augment joinedName {}).run (jobsService.masked noHandles) =
      .ok ⟨2, 1, 0, 0, 1, []⟩ (jobsServiceListed.masked noHandles) ∧
    jobsService.methods.map noPages.kindOf = [.longRunning, .longRunning] ∧
    (Service.augment joinedName noPages).run jobsService = .error conflict jobsService ∧
    (Service.augment joinedName {}).run (jobsService.masked noPages) =
      .error conflict (jobsService.masked noPages) := by
  intro noHandles noPages shared conflict
  have listed : (Service.augment joinedName noHandles).run jobsService =
      .ok ⟨2, 1, 0, 0, 1, [shared]⟩ jobsServiceListed := rfl
  have refused : (Service.augment joinedName noPages).run jobsService =
      .error conflict jobsService := rfl
  refine ⟨rfl, listed, ?_, rfl, refused, ?_⟩
  · rw [run_augment_masked, listed]
    rfl
  · rw [run_augment_masked, refused]

end WrapperSynthesis
