import WrapperSynthesis.Command.Host
import WrapperSynthesis.Command.Error
import WrapperSynthesis.Log.PassEvents
import WrapperSynthesis.Model.Format
import WrapperSynthesis.Settings.Format
import WrapperSynthesis.Text.Quoted
import WrapperSynthesis.Wrapper.PascalCase

/-! The commands on files: augmenting a model, checking one, and loading and saving settings.
Nothing is written before everything that can fail on the way to the output has been done. -/

namespace WrapperSynthesis

/-- A part of a command. Whatever it did before it failed remains done. -/
abbrev Command (m : Type → Type) := ExceptT CommandError m

namespace Command

variable {m : Type → Type} [Monad m] [Host m]

/-- An operation of the machine, with its failure as that of the command. -/
def onFile {α : Type} (cause : FileError → CommandError) (operation : m (Except FileError α)) :
    Command m α :=
  ExceptT.mk do
    match ← operation with
    | .ok a => return .ok a
    | .error e => return .error (cause e)

def note (event : Event) : Command m Unit := ExceptT.lift (Host.note event)

def noteAll : List Event → Command m Unit
  | [] => pure ()
  | event :: events => do
    note event
    noteAll events

/-! ### Models -/

def loadService (path : String) : Command m Service := do
  let text ← onFile .modelFile (Host.readText path)
  match Service.ofJson text with
  | .ok service => return service
  | .error e => throw (.modelText e)

/-- Writes a service, with the folders on the way to its file. -/
def saveService (path : String) (service : Service) : Command m Unit := do
  onFile .modelFile (Host.makeParents path)
  onFile .modelFile (Host.writeText path service.fileText)

def startEvent (what path : String) : Event where
  level := .trace
  target := "logging"
  message := what ++ " " ++ path
  fields := [("module", Text.quoted "pipeline")]

def augmentFile (input output : String) (settings : Settings) : Command m Report := do
  note (startEvent "loading model from" input)
  let service ← loadService input
  note {
    level := .debug
    target := "pipeline::orchestration"
    message := "loaded model"
    fields := [("input", input), ("methods", toString service.methods.length)] }
  let pass := Pass.ofService pascalCase settings.generation service
  noteAll (pass.events pascalCase)
  match pass.result with
  | .error e => throw (.pass e)
  | .ok (augmented, report) =>
    saveService output augmented
    note {
      level := .debug
      target := "pipeline::orchestration"
      message := "wrote model"
      fields := [("output", output)] }
    return report

def diagnoseFile (path : String) : Command m Diagnostics := do
  note (startEvent "validating model" path)
  return (← loadService path).diagnostics

/-! ### Settings -/

def loadSettings (path : String) : Command m Settings := do
  let text ← onFile .settingsFile (Host.readText path)
  match Settings.ofToml? text with
  | some settings => return settings
  | none => throw .settingsText

def saveSettings (path : String) (settings : Settings) : Command m Unit :=
  onFile .settingsFile (Host.writeText path settings.tomlText)

structure Environment where
  home : Option String := none
  /-- The folder for settings, which only counts when it is an absolute path. -/
  settingsFolder : Option String := none
  /-- A log filter that wins over the one of the settings. -/
  logFilter : Option String := none

/-- The folder for settings: the one of the environment, or `.config` in the user's folder. -/
def Environment.settingsRoot (env : Environment) : String :=
  let own := Path.join (env.home.getD "") ".config"
  match env.settingsFolder with
  | some folder => if Path.isAbsolute folder then folder else own
  | none => own

/-- Where the settings file is when no path is given. -/
def Environment.settingsPath (env : Environment) : String :=
  Path.join (Path.join env.settingsRoot "tessera") "config.toml"

/-- Loads the settings from the given path, or from their usual place if there is a file. -/
def loadSettingsOr (env : Environment) (path : Option String) : Command m Settings := do
  match path with
  | some path => loadSettings path
  | none =>
    if ← ExceptT.lift (Host.isThere env.settingsPath) then loadSettings env.settingsPath
    else return {}

/-! ### Commands of the program -/

/-- Augments a model. The paths that are not given come from the settings. -/
def augmentModel (input output : Option String) (settings : Settings) : Command m Report := do
  let input := input.getD settings.codegen.input
  let output := output.getD settings.codegen.output
  note {
    level := .info
    target := "tessera_cli"
    message := "running wrapper pass"
    fields := [("input", input), ("output", output)] }
  augmentFile input output settings

/-- Checks a model, and fails when it has errors. -/
def checkModel (path : String) : Command m Diagnostics := do
  let diagnostics ← diagnoseFile path
  let event (level : Level) (message : String) : Event :=
    { level, target := "tessera_cli", message, fields := [("model", path)] }
  noteAll (diagnostics.errors.map fun fault => event .error fault.message)
  noteAll (diagnostics.warnings.map fun warning => event .warn warning.message)
  if diagnostics.hasErrors then throw (.invalid path diagnostics.errors.length)
  else return diagnostics

/-- Writes the default settings to the given path, or to their usual place, and returns where they
are. -/
def writeDefaults (env : Environment) (path : Option String) : Command m String := do
  let path := path.getD env.settingsPath
  onFile .folder (Host.makeParents path)
  saveSettings path {}
  return path

end Command

end WrapperSynthesis
