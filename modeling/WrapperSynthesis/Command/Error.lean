import WrapperSynthesis.Files.Tree
import WrapperSynthesis.Json.ReadError
import WrapperSynthesis.Wrapper.Pass

/-! Why a command failed. -/

namespace WrapperSynthesis

inductive CommandError where
  | modelFile (error : FileError)
  | modelText (error : Json.ReadError)
  | pass (error : PassError)
  | settingsFile (error : FileError)
  | settingsText
  | logFile (error : FileError)
  /-- A part of a directive of the log filter would begin or end within a character. -/
  | logFilter (directive : String)
  /-- The folder of the settings file could not be made. -/
  | folder (error : FileError)
  /-- A model that was to be checked has errors. -/
  | invalid (path : String) (count : Nat)
deriving Repr

def CommandError.message : CommandError → String
  | modelFile error => error.message
  | modelText error => error.message
  | pass error => error.message
  | settingsFile error => "Failed to read config file: " ++ error.message
  | settingsText => "Failed to parse config file"
  | logFile error => "Failed to open log file: " ++ error.message
  | logFilter directive => "Failed to cut a log directive within a character: `" ++ directive ++ "`"
  | folder error => "I/O error: " ++ error.message
  | invalid path count => toString count ++ " validation error(s) in " ++ path

end WrapperSynthesis
