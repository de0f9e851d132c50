import WrapperSynthesis.Files.Tree
import WrapperSynthesis.Log.Filter

/-! What the commands ask of the machine that they run on. A machine that exists only as a value
answers in the same way as a real one, and statements about the commands are made on that. -/

namespace WrapperSynthesis

class Host (m : Type → Type) where
  readText (path : String) : m (Except FileError String)
  writeText (path text : String) : m (Except FileError Unit)
  makeParents (path : String) : m (Except FileError Unit)
  isThere (path : String) : m Bool
  /-- Makes the file to which the log is to be written, if there is to be one. -/
  openLog (file : Option String) : m (Except FileError Unit)
  /-- Starts the log with a filter and a file to which it is written, if there is one. -/
  startLog (filter : LogFilter) (file : Option String) : m Unit
  note (event : Event) : m Unit

structure Logger where
  filter : LogFilter
  file : Option String

/-- A machine as a value: its files, and its log once that has been started. -/
structure Machine where
  files : FileTree
  logger : Option Logger := none
  /-- What the log has written to the terminal. -/
  terminal : String := ""

namespace Machine

/-- Runs an operation that changes the files, or fails and leaves them as they are. -/
def change (f : FileTree → Except FileError FileTree) : StateM Machine (Except FileError Unit) :=
  modifyGet fun machine =>
    match f machine.files with
    | .ok files => (.ok (), { machine with files })
    | .error e => (.error e, machine)

/-- Makes a folder together with all that are missing on the way to it. -/
def makeFolders (path : String) : StateM Machine (Except FileError Unit) :=
  modifyGet fun machine =>
    let (files, made) := machine.files.makeFolders path
    (made, { machine with files })

/-- Writes an event that passes the filter to the terminal, and to the log file if there is one. A
log file that can no longer be written is left as it is. -/
def note (event : Event) : StateM Machine Unit := do
  match (← get).logger with
  | none => pure ()
  | some ⟨filter, file⟩ =>
    if filter.passes event then
      modify fun machine =>
        { machine with terminal := machine.terminal ++ event.terminalLine ++ "\n" }
      match file with
      | none => pure ()
      | some file =>
        let _ ← change fun files => files.append file (event.line ++ "\n").toUTF8

instance : Host (StateM Machine) where
  readText path := do return (← get).files.readText path
  writeText path text := change fun files => files.write path text.toUTF8
  makeParents path := makeFolders (Path.parent path)
  isThere path := do return (← get).files.isThere path
  openLog file :=
    match file with
    | some path => change fun files => files.append path .empty
    | none => pure (.ok ())
  startLog filter file := modify fun machine => { machine with logger := some ⟨filter, file⟩ }
  note := note

end Machine

end WrapperSynthesis
