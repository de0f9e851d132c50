import WrapperSynthesis.Files.Path

/-! A tree of folders and files, and reading, writing and making folders in it. Reading and writing
leave the tree as it is when they fail; of folders that are made in a row the first ones stay when a
later one cannot be made. -/

namespace WrapperSynthesis

inductive FileError where
  | notFound
  /-- Something stands where a folder is to be made. -/
  | exists
  /-- A file stands on the way. -/
  | notFolder
  /-- A folder stands where a file is wanted. -/
  | isFolder
  /-- A name on the way, or the path as a whole, has too many bytes. -/
  | nameTooLong
  /-- The path holds the character that ends a name for the system. -/
  | nulInName
  /-- The bytes of the file are no text. -/
  | notText
  /-- Any other cause, in the words of the system. -/
  | other (message : String)
deriving DecidableEq, Repr

def FileError.message : FileError → String
  | notFound => "No such file or directory (os error 2)"
  | «exists» => "File exists (os error 17)"
  | notFolder => "Not a directory (os error 20)"
  | isFolder => "Is a directory (os error 21)"
  | nameTooLong => "File name too long (os error 36)"
  | nulInName => "file name contained an unexpected NUL byte"
  | notText => "stream did not contain valid UTF-8"
  | other message => message

/-- A path may have this many bytes. -/
def Path.sizeLimit : Nat := 4095

/-- A name may have this many bytes. -/
def Path.nameLimit : Nat := 255

/-- The route of a path that the system takes. -/
def Path.accept (path : String) : Except FileError Route :=
  if path.toList.contains '\x00' then .error .nulInName
  else if path = "" then .error .notFound
  else if sizeLimit < path.utf8ByteSize then .error .nameTooLong
  else .ok (route path)

/-- A file with its bytes, or a folder with its entries. -/
inductive Node where
  | file (content : ByteArray)
  | folder (entries : List (String × Node))

instance : Inhabited Node := ⟨.folder []⟩

namespace Node

def find? : Node → List String → Option Node
  | node, [] => some node
  | folder entries, name :: rest => (entries.lookup name).bind fun node => node.find? rest
  | file _, _ :: _ => none

/-- The entries with one entry set. A new entry comes last. -/
def setEntry (name : String) (node : Node) : List (String × Node) → List (String × Node)
  | [] => [(name, node)]
  | entry :: rest =>
    if entry.1 = name then (name, node) :: rest else entry :: setEntry name node rest

/-- Puts a node at the end of a row of names, all but the last of which are folders. -/
def put : Node → List String → Node → Node
  | _, [], node => node
  | folder entries, name :: rest, node =>
    let inner := (entries.lookup name).getD (folder [])
    folder (setEntry name (inner.put rest node) entries)
  | file content, _ :: _, _ => file content

end Node

structure FileTree where
  root : Node := .folder []
  /-- The names on the way from the root to the working folder. -/
  workingFolder : List String := []

namespace FileTree

def entry? (t : FileTree) (folder : List String) (name : String) :
    Except FileError (Option Node) :=
  if Path.nameLimit < name.utf8ByteSize then .error .nameTooLong
  else .ok (t.root.find? (folder ++ [name]))

/-- Goes on from a folder through a row of names, all of which have to be folders. -/
def enter (t : FileTree) (folder : List String) : List String → Except FileError (List String)
  | [] => .ok folder
  | name :: rest =>
    if name = ".." then enter t folder.dropLast rest
    else
      match t.entry? folder name with
      | .error e => .error e
      | .ok none => .error .notFound
      | .ok (some (.file _)) => .error .notFolder
      | .ok (some (.folder _)) => enter t (folder ++ [name]) rest

/-- Where a route leads. Folders are given by the names on the way to them. -/
inductive Place where
  /-- Into a folder. -/
  | inside (folder : List String)
  /-- To a name in a folder, under which there may be nothing yet. -/
  | entry (folder : List String) (name : String)
deriving DecidableEq, Repr

/-- Where a route leads. A dot at its end leads into the folder before it. -/
def reach (t : FileTree) (route : Route) : Except FileError Place :=
  let start := if route.absolute then [] else t.workingFolder
  match route.names.getLast? with
  | none => .ok (.inside start)
  | some name =>
    if route.ending = .dot || name = ".." then (t.enter start route.names).map .inside
    else (t.enter start route.names.dropLast).map fun folder => .entry folder name

def setNode (t : FileTree) (folder : List String) (name : String) (node : Node) : FileTree :=
  { t with root := t.root.put (folder ++ [name]) node }

def read (t : FileTree) (path : String) : Except FileError ByteArray := do
  let route ← Path.accept path
  match ← t.reach route with
  | .inside _ => .error .isFolder
  | .entry folder name =>
    match ← t.entry? folder name with
    | none => .error .notFound
    | some (.folder _) => .error .isFolder
    | some (.file content) => if route.ending = .slash then .error .notFolder else .ok content

def readText (t : FileTree) (path : String) : Except FileError String := do
  match String.fromUTF8? (← t.read path) with
  | some text => .ok text
  | none => .error .notText

/-- Gives a file new bytes, made from those it has. A file that is not there is made, and a path
that ends in a slash is none of a file. -/
def update (t : FileTree) (path : String) (f : ByteArray → ByteArray) :
    Except FileError FileTree := do
  let route ← Path.accept path
  match ← t.reach route with
  | .inside _ => .error .isFolder
  | .entry folder name =>
    if route.ending = .slash then .error .isFolder
    else
      match ← t.entry? folder name with
      | some (.folder _) => .error .isFolder
      | some (.file content) => .ok (t.setNode folder name (.file (f content)))
      | none => .ok (t.setNode folder name (.file (f .empty)))

def write (t : FileTree) (path : String) (content : ByteArray) : Except FileError FileTree :=
  t.update path fun _ => content

def append (t : FileTree) (path : String) (content : ByteArray) : Except FileError FileTree :=
  t.update path fun old => old ++ content

def isFolder (t : FileTree) (route : Route) : Bool :=
  match t.reach route with
  | .error _ => false
  | .ok (.inside _) => true
  | .ok (.entry folder name) =>
    match t.entry? folder name with
    | .ok (some (.folder _)) => true
    | _ => false

def isThere (t : FileTree) (path : String) : Bool :=
  match t.read path with
  | .ok _ => true
  | .error e => e = .isFolder

def makeFolder (t : FileTree) (route : Route) : Except FileError FileTree := do
  match ← t.reach route with
  | .inside _ => .error .exists
  | .entry folder name =>
    match ← t.entry? folder name with
    | some _ => .error .exists
    | none => .ok (t.setNode folder name (.folder []))

/-- A folder that could not be made does not matter if it is there. -/
def unlessFolder (t : FileTree) (route : Route) (e : FileError) :
    FileTree × Except FileError Unit :=
  (t, if t.isFolder route then .ok () else .error e)

/-- Makes a folder. When something is missing on the way, `makeAbove` makes it, and then the folder
is tried again. -/
def ensureFolder (route : Route) (makeAbove : FileTree → FileTree × Except FileError Unit)
    (t : FileTree) : FileTree × Except FileError Unit :=
  match t.makeFolder route with
  | .ok t => (t, .ok ())
  | .error .notFound =>
    match makeAbove t with
    | (t, .error e) => (t, .error e)
    | (t, .ok ()) =>
      match t.makeFolder route with
      | .ok t => (t, .ok ())
      | .error e => t.unlessFolder route e
  | .error e => t.unlessFolder route e

/-- Makes the folder at the end of a row of names, whose last one comes first, and the folders that
are missing on the way. -/
def ensureAll (absolute : Bool) : List String → FileTree → FileTree × Except FileError Unit
  | [], t => (t, .ok ())
  | name :: above, t =>
    ensureFolder ⟨absolute, (name :: above).reverse, .name⟩ (ensureAll absolute above) t

/-- Makes a folder together with all that are missing on the way to it. Nothing has to be made for
the empty path. -/
def makeFolders (t : FileTree) (path : String) : FileTree × Except FileError Unit :=
  if path = "" then (t, .ok ())
  else
    match Path.accept path with
    | .error e => (t, .error e)
    | .ok route => ensureFolder route (ensureAll route.absolute route.names.dropLast.reverse) t

end FileTree

end WrapperSynthesis
