import WrapperSynthesis.Log.Pattern.Members
import WrapperSynthesis.Text.Numeral

/-! Regular expressions, which a directive may give for the value of a field. Nothing is matched
with them, so all that is said here is which texts are regular expressions. A closing brace never
comes, since it ends the field, and so nothing that needs one is read. -/

namespace WrapperSynthesis.Pattern

inductive Opening where
  /-- A group, which may have a name. -/
  | group (name : Option (List Char))
  /-- A group in which flags are turned on and off. -/
  | inMode (mode : Mode)
  /-- No group: flags are turned on and off up to the end of the group around. -/
  | setMode (mode : Mode)
deriving DecidableEq, Repr

/-- Whether letters are flags. A minus sign turns off the flags behind it. -/
def areFlags (text : List Char) : Bool :=
  text.all (fun c => ['-', 'i', 'm', 's', 'U', 'u', 'R', 'x'].contains c) &&
    text.getLast? ≠ some '-' && text.Nodup

def Mode.setAll (m : Mode) (flags : List Char) : Mode :=
  (flags.dropWhile (· ≠ '-')).foldl (fun m c => m.set false c)
    ((flags.takeWhile (· ≠ '-')).foldl (fun m c => m.set true c) m)

def isGroupName : List Char → Bool
  | [] => false
  | c :: rest =>
    (c = '_' || Text.isAlphabetic c) &&
      rest.all fun c => c = '_' || c = '.' || c = '[' || c = ']' || Text.isAlphanumeric c

/-- What opens with a bracket, and what follows it, after the bracket. -/
def opening? (m : Mode) (text : List Char) : Option (Opening × List Char) :=
  let named (text : List Char) : Option (Opening × List Char) :=
    let name := text.takeWhile (· ≠ '>')
    match text.dropWhile (· ≠ '>') with
    | '>' :: rest => if isGroupName name then some (.group name, rest) else none
    | _ => none
  match m.skip text with
  | '?' :: 'P' :: '<' :: rest => named rest
  | '?' :: '<' :: rest => named rest
  | '?' :: rest =>
    let isEnd (c : Char) : Bool := c = ':' || c = ')'
    let flags := rest.takeWhile (!isEnd ·)
    if !areFlags flags then none
    else
      match rest.dropWhile (!isEnd ·) with
      | ':' :: rest => some (.inMode (m.setAll flags), rest)
      | ')' :: rest => if flags = [] then none else some (.setMode (m.setAll flags), rest)
      | _ => none
  | rest => some (.group none, rest)

/-- What has been read of a group, its inner groups apart. -/
structure GroupLevel where
  /-- How deep the parts since the last bar nest, the last part first. -/
  parts : List Nat := []
  repeatable : Bool := false
  /-- How deep the alternatives before the last bar nest. -/
  branches : List Nat := []
deriving DecidableEq, Repr

namespace GroupLevel

def depth (level : GroupLevel) : Nat := nesting (nesting level.parts :: level.branches)

/-- Adds a part that nests so deep. -/
def add (level : GroupLevel) (depth : Nat) : GroupLevel :=
  { level with parts := depth :: level.parts, repeatable := true }

/-- Adds flags, which cannot be repeated. -/
def addFlags (level : GroupLevel) : GroupLevel :=
  { level with parts := 0 :: level.parts, repeatable := false }

def branch (level : GroupLevel) : GroupLevel :=
  { branches := nesting level.parts :: level.branches }

def repeat? (level : GroupLevel) : Option GroupLevel :=
  match level.repeatable, level.parts with
  | true, depth :: parts => some { level with parts := (depth + 1) :: parts }
  | _, _ => none

end GroupLevel

structure Reading where
  mode : Mode := {}
  /-- What has been read of the innermost group that is open here. -/
  level : GroupLevel := {}
  /-- The groups around it, the innermost first, each with its mode. -/
  outer : List (Mode × GroupLevel) := []
  names : List (List Char) := []
deriving DecidableEq, Repr

namespace Reading

/-- Goes on behind a part that nests so deep. -/
def add (r : Reading) (depth : Nat) : Reading := { r with level := r.level.add depth }

/-- Goes on behind what stands for a character or a place, if it may stand here. -/
def addAtom? (r : Reading) (atom : Atom) : Option Reading :=
  if r.mode.admits atom then some (r.add 0) else none

/-- Goes on in a group. No two groups have the same name. -/
def enter? (r : Reading) : Opening → Option Reading
  | .group name =>
    if name.any r.names.contains then none
    else
      some { r with
        level := {}, outer := (r.mode, r.level) :: r.outer, names := name.toList ++ r.names }
  | .inMode mode => some { r with mode, level := {}, outer := (r.mode, r.level) :: r.outer }
  | .setMode mode => some { r with mode, level := r.level.addFlags }

def leave? (r : Reading) : Option Reading :=
  match r.outer with
  | [] => none
  | (mode, level) :: outer => some { r with mode, level := level.add (1 + r.level.depth), outer }

/-- Reads the next part, which the first character decides. An operator that repeats may be followed
by a question mark. -/
def next? (r : Reading) (c : Char) (rest : List Char) : Option (Reading × List Char) :=
  match c with
  | '(' => do
    let (opening, rest) ← opening? r.mode rest
    return (← r.enter? opening, rest)
  | ')' => r.leave?.map fun r => (r, rest)
  | '|' => some ({ r with level := r.level.branch }, rest)
  | '[' => (class? r.mode rest).map fun (depth, rest) => (r.add depth, rest)
  | '\\' => do
    let (atom, rest) ← escape r.mode rest
    return (← r.addAtom? atom, rest)
  | '*' | '+' | '?' =>
    r.level.repeat?.map fun level =>
      ({ r with level }, if rest.head? = some '?' then rest.drop 1 else rest)
  | '{' => none
  | '^' | '$' => some (r.add 0, rest)
  | '.' => if r.mode.unicode then some (r.add 0, rest) else none
  | c => (r.addAtom? (.char c.toNat false)).map fun r => (r, rest)

def maxDepth : Nat := 250

def mayEnd (r : Reading) : Bool := r.outer.isEmpty && r.level.depth ≤ maxDepth

/-- Whether a text completes the expression. -/
def isCompletedBy : (fuel : Nat) → Reading → List Char → Bool
  | 0, _, _ => false
  | fuel + 1, r, text =>
    match r.mode.skip text with
    | [] => r.mayEnd
    | c :: rest =>
      match r.next? c rest with
      | some (r, rest) => isCompletedBy fuel r rest
      | none => false

end Reading

def isValid (text : List Char) : Bool := Reading.isCompletedBy (text.length + 1) {} text

end WrapperSynthesis.Pattern
