import WrapperSynthesis.Command.Model
import WrapperSynthesis.Proofs.Files.Parent
import WrapperSynthesis.Proofs.Files.Update
import WrapperSynthesis.Proofs.Pass.Storage

/-! Augmenting a file does what the pass does in memory, and nothing to the files unless the pass
succeeds (`augmentFile_agrees`). A command is followed step by step on a machine whose log has no
file: then only the last step of a successful pass changes the files (`outcome_augmentFile`). -/

namespace WrapperSynthesis

namespace FileTree

variable {t t' : FileTree} {path text : String}

theorem readText_of_read (ok : t.read path = .ok text.toUTF8) : t.readText path = .ok text := by
  have back : String.fromUTF8? text.toUTF8 = some text := dif_pos text.isValidUTF8
  simp only [readText, ok, bind, Except.bind, back]

/-- Writes a text, and before that the folders on the way to its file. -/
def save (t : FileTree) (path text : String) : FileTree × Except FileError Unit :=
  match t.makeFolders (Path.parent path) with
  | (t, .error e) => (t, .error e)
  | (t, .ok ()) =>
    match t.write path text.toUTF8 with
    | .ok t => (t, .ok ())
    | .error e => (t, .error e)

/-- The file at the path holds the text. Besides there are at most new folders on the way to it. -/
structure Saved (t t' : FileTree) (path text : String) : Prop where
  workingFolder : t'.workingFolder = t.workingFolder
  file : t'.look (t.location path) = some (.file text.toUTF8)
  readText : t'.readText path = .ok text
  others : ∀ location, location ≠ t.location path →
    t'.look location = t.look location ∨
      t.look location = none ∧ t'.look location = some .folder ∧
        OnTheWay (t.start (Path.route path).absolute) (Path.route path).names.dropLast location

theorem adds_makeParents (sound : t.Sound) (path : String) :
    Adds (OnTheWay (t.start (Path.route path).absolute) (Path.route path).names.dropLast) t
      (t.makeFolders (Path.parent path)).1 := by
  by_cases none : Path.parent path = ""
  · rw [none]
    exact Adds.refl t
  · have adds := adds_makeFolders sound (Path.parent path)
    rwa [(Path.route_parent none).1, (Path.route_parent none).2] at adds

theorem saved_of_save (sound : t.Sound) (ok : t.save path text = (t', .ok ())) :
    Saved t t' path text := by
  have adds := adds_makeParents sound path
  unfold save at ok
  split at ok
  · cases ok
  · rename_i between made
    rw [made] at adds
    split at ok
    · rename_i written
      cases ok
      have sound' := adds.keeps.sound sound
      obtain ⟨keeps, look⟩ := look_of_write sound' written
      have there := adds.keeps.location_eq path
      rw [there] at look
      refine ⟨keeps.workingFolder.trans adds.workingFolder, ?_,
        readText_of_read (read_of_write sound' written), fun location other => ?_⟩
      · rw [look, Function.update_self]
      · rw [look, Function.update_of_ne other]
        exact adds.look location
    · cases ok

end FileTree

/-! ### Machines -/

namespace Machine

/-- If there is a log, it is not written to a file. -/
def Quiet (machine : Machine) : Prop := ∀ logger, machine.logger = some logger → logger.file = none

/-- The two machines differ at most in what the log has written to the terminal. -/
structure Noted (machine machine' : Machine) : Prop where
  files : machine'.files = machine.files
  logger : machine'.logger = machine.logger

variable {machine machine' machine'' : Machine}

theorem Noted.refl (machine : Machine) : machine.Noted machine := ⟨rfl, rfl⟩

theorem Noted.trans (h : machine.Noted machine') (h' : machine'.Noted machine'') :
    machine.Noted machine'' :=
  ⟨h'.files.trans h.files, h'.logger.trans h.logger⟩

theorem Noted.quiet (h : machine.Noted machine') (quiet : machine.Quiet) : machine'.Quiet := by
  unfold Quiet
  rw [h.logger]
  exact quiet

theorem noted_note (quiet : machine.Quiet) (event : Event) :
    machine.Noted ((note event).run machine).2 := by
  rcases started : machine.logger with _ | ⟨filter, file⟩
  · simp only [note, StateT.run_bind, StateT.run_get, pure_bind, started]
    exact ⟨rfl, rfl⟩
  · cases (show file = none from quiet _ started)
    simp only [note, StateT.run_bind, StateT.run_get, pure_bind, started]
    cases filter.passes event <;> exact ⟨rfl, rfl⟩

theorem run_makeParents (path : String) :
    (Host.makeParents path : StateM Machine _).run machine =
      ((machine.files.makeFolders (Path.parent path)).2,
        { machine with files := (machine.files.makeFolders (Path.parent path)).1 }) := by
  simp only [Host.makeParents, makeFolders, StateT.run_modifyGet]
  generalize machine.files.makeFolders (Path.parent path) = made
  rfl

theorem run_writeText (path text : String) :
    (Host.writeText path text : StateM Machine _).run machine =
      match machine.files.write path text.toUTF8 with
      | .ok files => (.ok (), { machine with files })
      | .error e => (.error e, machine) := by
  simp only [Host.writeText, change, StateT.run_modifyGet]
  generalize machine.files.write path text.toUTF8 = written
  rfl

end Machine

namespace Command

/-! ### Commands on a machine -/

/-- How a command ends on a machine, and the machine after it. -/
def outcome {α : Type} (command : Command (StateM Machine) α) (machine : Machine) :
    Except CommandError α × Machine :=
  command.run.run machine

variable {α β : Type} {machine machine' : Machine}
  {next : α → Command (StateM Machine) β}

theorem outcome_bind (first : Command (StateM Machine) α) :
    outcome (first >>= next) machine =
      match outcome first machine with
      | (.ok a, machine) => outcome (next a) machine
      | (.error e, machine) => (.error e, machine) := by
  unfold outcome
  rw [ExceptT.run_bind, StateT.run_bind]
  rcases first.run.run machine with ⟨e | a, machine'⟩ <;> rfl

theorem outcome_onFile {cause : FileError → CommandError}
    {operation : StateM Machine (Except FileError α)} :
    outcome (onFile cause operation) machine =
      ((operation.run machine).1.mapError cause, (operation.run machine).2) := by
  unfold outcome onFile
  show StateT.run (operation >>= _) machine = _
  rw [StateT.run_bind]
  rcases operation.run machine with ⟨e | a, machine'⟩ <;> rfl

theorem outcome_note (quiet : machine.Quiet) (event : Event) :
    ∃ machine', outcome (note event) machine = (.ok (), machine') ∧ machine.Noted machine' :=
  ⟨_, rfl, Machine.noted_note quiet event⟩

theorem outcome_noteAll (quiet : machine.Quiet) (events : List Event) :
    ∃ machine', outcome (noteAll events) machine = (.ok (), machine') ∧ machine.Noted machine' := by
  induction events generalizing machine with
  | nil => exact ⟨machine, rfl, Machine.Noted.refl machine⟩
  | cons event events ih =>
    obtain ⟨machine₁, told, noted⟩ := outcome_note quiet event
    obtain ⟨machine₂, later, noted'⟩ := ih (noted.quiet quiet)
    refine ⟨machine₂, ?_, noted.trans noted'⟩
    rw [noteAll, outcome_bind, told]
    exact later

/-- The service in a file. -/
def loaded (t : FileTree) (path : String) : Except CommandError Service :=
  match t.readText path with
  | .error e => .error (.modelFile e)
  | .ok text => (Service.ofJson text).mapError .modelText

theorem outcome_loadService (path : String) :
    outcome (loadService path) machine = (loaded machine.files path, machine) := by
  have read : outcome (onFile .modelFile (Host.readText path)) machine =
      ((machine.files.readText path).mapError .modelFile, machine) := outcome_onFile
  rw [loadService, outcome_bind, read, loaded]
  rcases machine.files.readText path with e | text
  · rfl
  · simp only [Except.mapError]
    cases Service.ofJson text <;> rfl

theorem outcome_diagnoseFile (quiet : machine.Quiet) (path : String) :
    (outcome (diagnoseFile path) machine).1 =
      (loaded machine.files path).map Service.diagnostics := by
  obtain ⟨machine₁, told, noted⟩ := outcome_note quiet (startEvent "validating model" path)
  rw [diagnoseFile, outcome_bind, told]
  simp only [outcome_bind, outcome_loadService, noted.files]
  cases loaded machine.files path <;> rfl

theorem outcome_saveService (path : String) (service : Service) :
    outcome (saveService path service) machine =
      ((machine.files.save path service.fileText).2.mapError .modelFile,
        { machine with files := (machine.files.save path service.fileText).1 }) := by
  rw [saveService, outcome_bind, outcome_onFile, Machine.run_makeParents, FileTree.save]
  rcases machine.files.makeFolders (Path.parent path) with ⟨t, e | ⟨⟩⟩
  · rfl
  · simp only [Except.mapError, outcome_onFile, Machine.run_writeText]
    cases t.write path service.fileText.toUTF8 <;> rfl

/-- A last note changes neither the files nor how the command ends. -/
theorem outcome_saveService_note (quiet : machine.Quiet) (path : String) (service : Service)
    (event : Event) (a : α) :
    ∃ machine', machine'.logger = machine.logger ∧
      machine'.files = (machine.files.save path service.fileText).1 ∧
      outcome (do saveService path service; note event; return a) machine =
        (((machine.files.save path service.fileText).2.mapError .modelFile).map fun _ => a,
          machine') := by
  simp only [outcome_bind, outcome_saveService]
  rcases machine.files.save path service.fileText with ⟨t, e | ⟨⟩⟩
  · exact ⟨{ machine with files := t }, rfl, rfl, rfl⟩
  · have stillQuiet : Machine.Quiet { machine with files := t } := quiet
    obtain ⟨machine', told, noted⟩ := outcome_note stillQuiet event
    refine ⟨machine', noted.logger, noted.files, ?_⟩
    simp only [Except.mapError, told]
    rfl

/-- What the pass makes in memory of the service in a file, with what it reports. -/
def augmented (t : FileTree) (input : String) (settings : GenerationSettings) :
    Except CommandError (Service × Report) :=
  match loaded t input with
  | .error e => .error e
  | .ok service =>
    match (Service.augment pascalCase settings).run service with
    | .ok report augmented => .ok (augmented, report)
    | .error e _ => .error (.pass e)

theorem augmented_of_run {t : FileTree} {input text : String} {settings : GenerationSettings}
    {service service' : Service} {report : Report} (read : t.readText input = .ok text)
    (parsed : Service.ofJson text = .ok service)
    (run : (Service.augment pascalCase settings).run service = .ok report service') :
    augmented t input settings = .ok (service', report) := by
  simp only [augmented, loaded, read, parsed, Except.mapError, run]

/-- A pass over a file ends like the pass in memory, if that fails, and with saving what it made
otherwise. Nothing else changes the files. -/
theorem outcome_augmentFile (quiet : machine.Quiet) (input output : String) (settings : Settings) :
    ∃ machine', machine'.logger = machine.logger ∧
      match augmented machine.files input settings.generation with
      | .error e => machine'.files = machine.files ∧
        outcome (augmentFile input output settings) machine = (.error e, machine')
      | .ok (service, report) =>
        machine'.files = (machine.files.save output service.fileText).1 ∧
        outcome (augmentFile input output settings) machine =
          (((machine.files.save output service.fileText).2.mapError .modelFile).map fun _ => report,
            machine') := by
  obtain ⟨machine₁, told, noted⟩ :=
    outcome_note quiet (startEvent "loading model from" input)
  rw [augmentFile, outcome_bind, told]
  simp only [outcome_bind (loadService input), outcome_loadService, noted.files, augmented]
  -- Up to the saving only notes are taken, so the files are those of the start.
  rcases loaded machine.files input with e | service
  · exact ⟨machine₁, noted.logger, noted.files, rfl⟩
  · obtain ⟨machine₂, told₂, noted₂⟩ := outcome_note (noted.quiet quiet) {
      level := .debug
      target := "pipeline::orchestration"
      message := "loaded model"
      fields := [("input", input), ("methods", toString service.methods.length)] }
    have since₂ := noted.trans noted₂
    obtain ⟨machine₃, told₃, noted₃⟩ := outcome_noteAll (since₂.quiet quiet)
      ((Pass.ofService pascalCase settings.generation service).events pascalCase)
    have since := since₂.trans noted₃
    simp only [outcome_bind (note _), told₂, outcome_bind (noteAll _), told₃,
      run_augment]
    rcases (Pass.ofService pascalCase settings.generation service).result with
        e | ⟨service', report⟩
    · exact ⟨machine₃, since.logger, since.files, rfl⟩
    · have ends := outcome_saveService_note (since.quiet quiet) output service' {
        level := .debug
        target := "pipeline::orchestration"
        message := "wrote model"
        fields := [("output", output)] } report
      rwa [since.files, since.logger] at ends

/-- What the pass makes of a service that was read from a file can be read back from its text. -/
theorem ofJson_fileText_of_augmented {t : FileTree} {input : String} {settings : GenerationSettings}
    {service : Service} {report : Report}
    (small : ∀ text, t.readText input = .ok text → text.length < 2 ^ 63)
    (made : augmented t input settings = .ok (service, report)) :
    Service.ofJson service.fileText = .ok service ∧
      service.diagnostics = ⟨[], report.warnings⟩ := by
  unfold augmented loaded at made
  rcases read : t.readText input with e | text
  · simp [read] at made
  · rcases parsed : Service.ofJson text with e | original
    · simp [read, parsed, Except.mapError] at made
    · rcases run : (Service.augment pascalCase settings).run original with ⟨r, s'⟩ | ⟨e, s'⟩
      · simp only [read, parsed, Except.mapError, run] at made
        cases made
        obtain ⟨-, reworked, faultless⟩ := reworked_of_run_augment run
        constructor
        · exact Service.ofJson_fileText (storable_of_run_augment (Service.storable_of_ofJson parsed)
            (room_of_ofJson parsed (small text read)) run)
        · rw [Service.diagnostics, faultless, reworked.warnings]
      · simp [read, parsed, Except.mapError, run] at made

/-- The pass over a file agrees with the pass in memory, and it is all or nothing: when reading or
the pass fails nothing on the disk changes, and when it succeeds the output file holds the result,
and nothing else changes but for folders that were missing on the way to it. The result is read back
without faults if the input was a text that fits a memory, so that handles are numbers of 64
bits. -/
theorem augmentFile_agrees (input output : String) (settings : Settings)
    {machine machine' : Machine} {result : Except CommandError Report} (quiet : machine.Quiet)
    (sound : machine.files.Sound)
    (run : outcome (augmentFile input output settings) machine = (result, machine')) :
    (∀ e, augmented machine.files input settings.generation = .error e →
      result = .error e ∧ machine'.files = machine.files) ∧
    (∀ service report, augmented machine.files input settings.generation = .ok (service, report) →
      result = ((machine.files.save output service.fileText).2.mapError .modelFile).map
        fun _ => report) ∧
    ∀ report, result = .ok report →
      ∃ service, augmented machine.files input settings.generation = .ok (service, report) ∧
        FileTree.Saved machine.files machine'.files output service.fileText ∧
        (∃ body, service.fileText = body ++ "\n") ∧
        ((∀ text, machine.files.readText input = .ok text → text.length < 2 ^ 63) →
          outcome (loadService output) machine' = (.ok service, machine') ∧
          (outcome (diagnoseFile output) machine').1 = .ok ⟨[], report.warnings⟩) := by
  obtain ⟨after, logger, ends⟩ := outcome_augmentFile quiet input output settings
  -- The command ends as the pass in memory does; only a successful pass comes to the saving.
  rcases made : augmented machine.files input settings.generation with e | ⟨service, report⟩
  · simp only [made, run] at ends
    obtain ⟨files, same⟩ := ends
    obtain ⟨ended, rfl⟩ := Prod.mk.inj same
    refine ⟨?_, nofun, ?_⟩
    · intro e' same
      cases same
      exact ⟨ended, files⟩
    · intro report success
      cases ended.symm.trans success
  · simp only [made, run] at ends
    obtain ⟨files, same⟩ := ends
    obtain ⟨ended, rfl⟩ := Prod.mk.inj same
    refine ⟨nofun, ?_, ?_⟩
    · intro _ _ same
      cases same
      exact ended
    intro report' success
    rw [ended] at success
    rcases saved : machine.files.save output service.fileText with ⟨t, e | ⟨⟩⟩
    · rw [saved] at success
      cases success
    · rw [saved] at success files
      cases success
      have kept : FileTree.Saved machine.files machine'.files output service.fileText :=
        files ▸ FileTree.saved_of_save sound saved
      refine ⟨service, rfl, kept, ?_, fun small => ?_⟩
      · exact ⟨String.ofList ((Service.record.write service).pretty 0), by
          simp [Service.fileText, Json.Value.fileText, String.ofList_append]⟩
      · obtain ⟨back, clean⟩ := ofJson_fileText_of_augmented small made
        have load : loaded machine'.files output = .ok service := by
          simp only [loaded, kept.readText, back, Except.mapError]
        have quiet' : machine'.Quiet := by
          unfold Machine.Quiet
          rwa [logger]
        constructor
        · rw [outcome_loadService, load]
        · rw [outcome_diagnoseFile quiet', load, ← clean]
          rfl

/-- A method that returns pages, and two that ask for a handle named `WebAppsStart`. -/
def listingService : Service where
  name := "apps"
  methods := [
    { group := "web.apps", name := "List", kind := .paginated,
      returnType := .response ⟨some ⟨0⟩, none⟩ },
    { group := "web.apps", name := "Start", kind := .longRunning,
      returnType := .response ⟨some ⟨0⟩, none⟩ },
    { group := "Web", name := "apps_start", kind := .longRunning,
      returnType := .response ⟨some ⟨0⟩, none⟩ }]
  types := .ofList [.ofComposite "App"]

def listingServiceAugmented : Service where
  name := "apps"
  methods := [
    { group := "web.apps", name := "List", kind := .paginated,
      returnType := .response ⟨some ⟨1⟩, none⟩ },
    { group := "web.apps", name := "Start", kind := .longRunning,
      returnType := .response ⟨some ⟨2⟩, none⟩ },
    { group := "Web", name := "apps_start", kind := .longRunning,
      returnType := .response ⟨some ⟨2⟩, none⟩ }]
  types := .ofList [.ofComposite "App", .pageIterator (.ofElement ⟨0⟩ false),
    .pollingHandle ⟨"WebAppsStart", false, "web.apps", "Start", some ⟨0⟩⟩]

/-- The report of the pass, with the name that was made for two methods. -/
def listingReport : Report where
  methods := 3
  paged := 1
  longRunning := 2
  typesAdded := 2
  warnings := [⟨"WebAppsStart", ["web.apps.Start", "Web.apps_start"]⟩]

/-- A machine with nothing but the file of the service. -/
def listingMachine : Machine where
  files := { root := .folder [("model.json", .file listingService.fileText.toUTF8)] }

theorem readText_listingMachine :
    listingMachine.files.readText "model.json" = .ok listingService.fileText := by
  have read : listingMachine.files.read "model.json" = .ok listingService.fileText.toUTF8 := rfl
  exact FileTree.readText_of_read read

theorem augmented_listingMachine :
    augmented listingMachine.files "model.json" {} =
      .ok (listingServiceAugmented, listingReport) := by
  have storable : listingService.Storable := ⟨by decide, by decide⟩
  exact augmented_of_run readText_listingMachine (Service.ofJson_fileText storable) rfl

theorem length_of_readText_listingMachine {text : String}
    (read : listingMachine.files.readText "model.json" = .ok text) : text.length < 2 ^ 63 := by
  have same : listingService.fileText = text :=
    Except.ok.inj (readText_listingMachine.symm.trans read)
  rw [← same, Service.fileText, Json.Value.fileText, String.length_ofList]
  decide +kernel

theorem augmentFile_listingMachine :
    listingMachine.Quiet ∧ listingMachine.files.Sound ∧
    ∃ machine', outcome (augmentFile "model.json" "out/model.json" {}) listingMachine =
        (.ok listingReport, machine') ∧
      outcome (loadService "out/model.json") machine' = (.ok listingServiceAugmented, machine') ∧
      (outcome (diagnoseFile "out/model.json") machine').1 = .ok ⟨[], listingReport.warnings⟩ := by
  have quiet : listingMachine.Quiet := nofun
  have sound : listingMachine.files.Sound := rfl
  have saved (text : String) : (listingMachine.files.save "out/model.json" text).2 = .ok () := rfl
  rcases run : outcome (augmentFile "model.json" "out/model.json" {}) listingMachine
    with ⟨result, machine'⟩
  obtain ⟨-, ends, afterwards⟩ :=
    augmentFile_agrees "model.json" "out/model.json" {} quiet sound run
  have done := ends _ _ augmented_listingMachine
  rw [saved] at done
  obtain ⟨service, made, -, -, back⟩ := afterwards _ done
  obtain ⟨load, diagnosed⟩ := back fun _ => length_of_readText_listingMachine
  have same : listingServiceAugmented = service :=
    congrArg Prod.fst (Except.ok.inj (augmented_listingMachine.symm.trans made))
  rw [← same] at load
  refine ⟨quiet, sound, machine', ?_, load, diagnosed⟩
  rw [done]
  rfl

end Command

end WrapperSynthesis
