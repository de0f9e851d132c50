import WrapperSynthesis.Command.Arguments
import WrapperSynthesis.Command.Model
import WrapperSynthesis.Command.Version

/-! A call of the program, from its arguments to what it prints and the code with which it exits. -/

namespace WrapperSynthesis

structure Ending where
  code : Nat := 0
  output : String := ""
  errors : String := ""
deriving DecidableEq, Repr

namespace Ending

/-- A command that failed. One that could not start for its log filter ends with a code of its
own. -/
def failed (error : CommandError) : Ending :=
  match error with
  | .logFilter _ => { code := 101, errors := error.message ++ "\n" }
  | error => { code := 1, errors := "Error: " ++ error.message ++ "\n" }

def usage (help : String) : Ending := { code := 2, errors := help }

end Ending

def Report.sentence (r : Report) : String :=
  "Rewrote " ++ toString r.wrapped ++ " of " ++ toString r.methods ++ " methods (" ++
    toString r.paged ++ " paged, " ++ toString r.longRunning ++ " long-running, " ++
    toString r.pagedLongRunning ++ " both); " ++ toString r.typesAdded ++ " types added"

namespace Command

def help : String :=
  "Usage: tessera [--config FILE] COMMAND\n" ++
  "\n" ++
  "Commands:\n" ++
  "  rewrite [--input FILE] [--output FILE]  wrap the methods of a model\n" ++
  "  validate --input FILE                   check a model\n" ++
  "  init-config [--path FILE]               write the default settings\n"

variable {m : Type → Type} [Monad m] [Host m]

/-- Loads the settings and starts the log. The log file is made before its filter matters. -/
def start (env : Environment) (path : Option String) : Command m Settings := do
  let settings ← loadSettingsOr env path
  onFile .logFile (Host.openLog settings.logging.file)
  match LogFilter.choose env.logFilter settings.logging.level with
  | .ok filter => ExceptT.lift (Host.startLog filter settings.logging.file)
  | .error directive => throw (.logFilter directive)
  return settings

def execute (env : Environment) : Request → Command m String
  | .augment settings input output => do
    let settings ← start env settings
    let report ← augmentModel input output settings
    return report.sentence ++ "\n"
  | .check settings input => do
    let _ ← start env settings
    let diagnostics ← checkModel input
    return input ++ " is valid (" ++ toString diagnostics.warnings.length ++ " warnings)\n"
  | .writeDefaults path => do
    let written ← writeDefaults env path
    return "Wrote default configuration to " ++ written ++ "\n"
  | .showVersion => return programName ++ " " ++ version ++ "\n"
  | .showHelp => return help

end Command

def Program.run {m : Type → Type} [Monad m] [Host m] (env : Command.Environment)
    (args : List String) : m Ending := do
  match Arguments.request? args with
  | none => return .usage Command.help
  | some request =>
    match ← (Command.execute env request).run with
    | .ok output => return { output }
    | .error error => return .failed error

end WrapperSynthesis
