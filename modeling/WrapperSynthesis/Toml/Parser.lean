import WrapperSynthesis.Toml.Table
import WrapperSynthesis.Toml.Scalar
import WrapperSynthesis.Toml.Quoted

/-! Reading a TOML document: its statements, one a line, are read in order and build the table of
the document. There is only one kind of failure. -/

namespace WrapperSynthesis.Toml

def isBlank (c : Char) : Bool := c = ' ' || c = '\t'

def skipBlanks (text : List Char) : List Char := text.dropWhile isBlank

/-- Skips a comment up to the end of its line. A comment holds no control characters. -/
def skipComment : List Char → Option (List Char)
  | '#' :: rest =>
    let isEnd (c : Char) : Bool := c = '\n' || c = '\r'
    if (rest.takeWhile (!isEnd ·)).any isControl then none else some (rest.dropWhile (!isEnd ·))
  | text => some text

def skipSpace : (fuel : Nat) → List Char → Option (List Char)
  | 0, _ => none
  | fuel + 1, text => do
    match ← skipComment (skipBlanks text) with
    | '\n' :: rest => skipSpace fuel rest
    | '\r' :: '\n' :: rest => skipSpace fuel rest
    | text => some text

/-- The end of a statement: blanks and a comment, and then a line break or the end of the text. -/
def skipEnd (text : List Char) : Option (List Char) := do
  match ← skipComment (skipBlanks text) with
  | [] => some []
  | '\n' :: rest => some rest
  | '\r' :: '\n' :: rest => some rest
  | _ => none

def isBareChar (c : Char) : Bool := c.isAlphanum || c = '_' || c = '-'

def scanPart (text : List Char) : Option (String × List Char) :=
  match text with
  | c :: _ =>
    if c = '"' || c = '\'' then
      (scanQuoted false text).map fun (s, rest) => (String.ofList s, rest)
    else if isBareChar c then
      some (String.ofList (text.takeWhile isBareChar), text.dropWhile isBareChar)
    else none
  | [] => none

/-- A name of at most `parts` parts: those but the last, the last one, and the rest of the text. -/
def scanParts : (parts : Nat) → List Char → Option (List String × String × List Char)
  | 0, _ => none
  | parts + 1, text => do
    let (part, rest) ← scanPart (skipBlanks text)
    match skipBlanks rest with
    | '.' :: rest =>
      let (path, last, rest) ← scanParts parts rest
      return (part :: path, last, rest)
    | rest => return ([], part, rest)

/-- A name may have this many parts. -/
def partLimit : Nat := 80

def scanName (text : List Char) : Option (List String × String × List Char) :=
  scanParts partLimit text

/-- Arrays and inline tables may be nested up to this depth. -/
def depthLimit : Nat := 80

mutual

def scanValue : (fuel depth : Nat) → List Char → Option (Value × List Char)
  | 0, _, _ => none
  | fuel + 1, depth, text =>
    match text with
    | [] => none
    | c :: rest =>
      if c = '"' || c = '\'' then
        (scanQuoted true text).map fun (s, rest) => (.string (String.ofList s), rest)
      else if c = '[' then
        if depth < depthLimit then
          (scanItems fuel (depth + 1) rest).map fun (items, rest) => (.array items, rest)
        else none
      else if c = '{' then
        if depth < depthLimit then
          (scanEntries fuel (depth + 1) [] rest).map fun (entries, rest) =>
            (.table (sealEntries entries), rest)
        else none
      else scanScalar text

def scanItems : (fuel depth : Nat) → List Char → Option (List Value × List Char)
  | 0, _, _ => none
  | fuel + 1, depth, text => do
    match ← skipSpace (fuel + 1) text with
    | ']' :: rest => return ([], rest)
    | text =>
      let (item, rest) ← scanValue fuel depth text
      match ← skipSpace (fuel + 1) rest with
      | ']' :: rest => return ([item], rest)
      | ',' :: rest =>
        let (items, rest) ← scanItems fuel depth rest
        return (item :: items, rest)
      | _ => none

/-- The entries of an inline table up to its bracket, added to those before them. Lines may be
broken anywhere but within a name. -/
def scanEntries : (fuel depth : Nat) → Entries → List Char → Option (Entries × List Char)
  | 0, _, _, _ => none
  | fuel + 1, depth, entries, text => do
    match ← skipSpace (fuel + 1) text with
    | '}' :: rest => return (entries, rest)
    | text =>
      let (path, name, rest) ← scanName text
      match ← skipSpace (fuel + 1) rest with
      | '=' :: rest =>
        let (value, rest) ← scanValue fuel depth (← skipSpace (fuel + 1) rest)
        let entries ← Entries.assign name value path entries
        match ← skipSpace (fuel + 1) rest with
        | '}' :: rest => return (entries, rest)
        | ',' :: rest => scanEntries fuel depth entries rest
        | _ => none
      | _ => none

end

inductive Statement where
  /-- `[path.name]` -/
  | header (path : List String) (name : String)
  /-- `[[path.name]]` -/
  | arrayHeader (path : List String) (name : String)
  /-- `path.name = value` -/
  | assignment (path : List String) (name : String) (value : Value)

def scanStatement (fuel : Nat) (text : List Char) : Option (Statement × List Char) := do
  match text with
  | '[' :: '[' :: rest =>
    let (path, name, rest) ← scanName rest
    match rest with
    | ']' :: ']' :: rest => return (.arrayHeader path name, rest)
    | _ => none
  | '[' :: rest =>
    let (path, name, rest) ← scanName rest
    match rest with
    | ']' :: rest => return (.header path name, rest)
    | _ => none
  | text =>
    let (path, name, rest) ← scanName text
    match rest with
    | '=' :: rest =>
      let (value, rest) ← scanValue fuel 0 (skipBlanks rest)
      return (.assignment path name value, rest)
    | _ => none

def scanStatements : (fuel : Nat) → List Char → Option (List Statement)
  | 0, _ => none
  | fuel + 1, text => do
    match ← skipSpace (fuel + 1) text with
    | [] => return []
    | text =>
      let (statement, rest) ← scanStatement (fuel + 1) text
      let statements ← scanStatements fuel (← skipEnd rest)
      return statement :: statements

/-- Executes statements on the table of the document. Assignments go to the table that the last
header opened. -/
def build (current : List String) (root : Entries) : List Statement → Option Entries
  | [] => some root
  | .header path name :: rest => do
    let root ← Entries.descend false (Entries.openTable name) path root
    build (path ++ [name]) root rest
  | .arrayHeader path name :: rest => do
    let root ← Entries.descend false (Entries.openElement name) path root
    build (path ++ [name]) root rest
  | .assignment path name value :: rest => do
    let root ← Entries.descend false (Entries.assign name value path) current root
    build current root rest

/-- The byte order mark, which may stand at the start of a document. -/
def byteOrderMark : Char := Char.ofNat 0xFEFF

/-- The table of a document, or nothing when it is no TOML. Of two steps in a row at least one reads
a character. -/
def parse (text : String) : Option (List (String × Value)) := do
  let chars :=
    match text.toList with
    | c :: rest => if c = byteOrderMark then rest else c :: rest
    | [] => []
  let statements ← scanStatements (2 * chars.length + 2) chars
  let root ← build [] [] statements
  return sealEntries root

end WrapperSynthesis.Toml
