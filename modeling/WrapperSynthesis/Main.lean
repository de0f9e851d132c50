import WrapperSynthesis.Command.Run

/-! The program on a real machine: its files are those of the system, and events go to the error
stream and to the log file. -/

namespace WrapperSynthesis.Program

/-- A real machine, with the log once that has been started. -/
abbrev Machine := StateT (Option Logger) IO

/-- The cause of a failure of the system. A code may come with its sign turned. -/
def causeOf (error : IO.Error) : FileError :=
  match error with
  | .noFileOrDirectory .. => .notFound
  | .alreadyExists .. => .exists
  | .inappropriateType _ code _ =>
    if code = 20 || code = 0 - 20 then .notFolder
    else if code = 21 || code = 0 - 21 then .isFolder
    else .other (toString error)
  | .invalidArgument _ code _ =>
    if code = 36 || code = 0 - 36 then .nameTooLong else .other (toString error)
  | error => .other (toString error)

/-- Runs an action of the system on a path. -/
def attempt {α : Type} (path : String) (action : IO α) : Machine (Except FileError α) := do
  if path.toList.contains '\x00' then return .error .nulInName
  else
    try return .ok (← action)
    catch error => return .error (causeOf error)

/-- The outcome of making a folder. If the folder is there, it does not matter that it could not be
made. -/
def unlessFolder (path : String) : Except FileError Unit → Machine (Except FileError Unit)
  | .ok () => return .ok ()
  | .error e => do
    match ← attempt path (IO.FS.Handle.mk (path ++ "/.") .read) with
    | .ok _ => return .ok ()
    | .error _ => return .error e

/-- Makes a folder. When something is missing on the way, `makeAbove` makes it, and then the folder
is tried again. -/
def ensureFolder (path : String) (makeAbove : Machine (Except FileError Unit)) :
    Machine (Except FileError Unit) := do
  match ← attempt path (IO.FS.createDir path) with
  | .error .notFound =>
    match ← makeAbove with
    | .error e => return .error e
    | .ok () => unlessFolder path (← attempt path (IO.FS.createDir path))
  | made => unlessFolder path made

/-- Makes the folder at the end of a row of names, whose last one comes first, and the folders that
are missing on the way from `start`. -/
def ensureAll (start : String) : List String → Machine (Except FileError Unit)
  | [] => return .ok ()
  | name :: above =>
    ensureFolder (start ++ "/".intercalate (name :: above).reverse) (ensureAll start above)

/-- Makes a folder together with all that are missing on the way to it. -/
def makeFolders (path : String) : Machine (Except FileError Unit) := do
  if path = "" then return .ok ()
  else
    let route := Path.route path
    let start := if route.absolute then "/" else ""
    ensureFolder path (ensureAll start route.names.dropLast.reverse)

/-- Appends a text to a file, which is made if it is not there. -/
def append (path text : String) : IO Unit := do
  let handle ← IO.FS.Handle.mk path .append
  handle.putStr text

instance : Host Machine where
  readText path := do
    match ← attempt path (IO.FS.readBinFile path) with
    | .error e => return .error e
    | .ok bytes =>
      match String.fromUTF8? bytes with
      | some text => return .ok text
      | none => return .error .notText
  writeText path text := attempt path (IO.FS.writeFile path text)
  makeParents path := makeFolders (Path.parent path)
  isThere path := do
    match ← attempt path (IO.FS.Handle.mk path .read) with
    | .ok _ => return true
    | .error _ => return false
  openLog file :=
    match file with
    | some path => attempt path (append path "")
    | none => pure (.ok ())
  startLog filter file := set (some (Logger.mk filter file))
  note event := do
    match ← get with
    | some logger =>
      if logger.filter.passes event then
        (← IO.getStderr).putStr (event.terminalLine ++ "\n")
        match logger.file with
        | some path => discard (attempt path (append path (event.line ++ "\n")))
        | none => pure ()
    | none => pure ()

/-- The environment of the process. -/
def environment : IO Command.Environment := do
  return {
    home := ← IO.getEnv "HOME"
    settingsFolder := ← IO.getEnv "XDG_CONFIG_HOME"
    logFilter := ← IO.getEnv "RUST_LOG" }

end WrapperSynthesis.Program

open WrapperSynthesis in
def main (args : List String) : IO UInt32 := do
  let env ← Program.environment
  let (ending, _) ← (Program.run env args : Program.Machine Ending).run none
  (← IO.getStdout).putStr ending.output
  (← IO.getStderr).putStr ending.errors
  return UInt32.ofNat ending.code
