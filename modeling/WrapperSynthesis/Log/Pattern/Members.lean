import WrapperSynthesis.Log.Pattern.Escape

/-! Classes of characters in a regular expression: what stands between brackets. Classes may be
members of classes, and operators make one class of two. -/

namespace WrapperSynthesis.Pattern

def classNames : List String :=
  ["alnum", "alpha", "ascii", "blank", "cntrl", "digit", "graph", "lower", "print", "punct",
    "space", "upper", "word", "xdigit"]

/-- Whether a class by name is negated, and what follows it, after its opening bracket. -/
def namedClass? : List Char → Option (Bool × List Char)
  | ':' :: rest =>
    let negated := rest.head? = some '^'
    let rest := if negated then rest.drop 1 else rest
    match rest.dropWhile (· ≠ ':') with
    | ':' :: ']' :: after =>
      if classNames.contains (String.ofList (rest.takeWhile (· ≠ ':'))) then some (negated, after)
      else none
    | _ => none
  | _ => none

/-- What follows an opening bracket and the sign that negates the class. Bytes beyond ASCII would
belong to a negated class of bytes. -/
def openedClass? (m : Mode) (text : List Char) : Option (List Char) :=
  match m.skip text with
  | '^' :: rest => if m.unicode then some rest else none
  | rest => some rest

/-- The next character but for blanks that mean nothing and one number sign. -/
def nextSign? (m : Mode) (text : List Char) : Option Char :=
  if m.spaced then
    match text.dropWhile Text.isBlank with
    | '#' :: rest => (rest.dropWhile Text.isBlank).head?
    | rest => rest.head?
  else text.head?

/-- A character of a class or what stands for one. -/
def classAtom? (m : Mode) : List Char → Option (Atom × List Char)
  | [] => none
  | '\\' :: rest => escape m rest
  | c :: rest => some (.char c.toNat false, rest)

/-- What follows a member of a class, which may be an interval. A minus sign before the closing
bracket, or before another minus sign, makes no interval. -/
def afterMember? (m : Mode) (text : List Char) : Option (List Char) := do
  let (low, rest) ← classAtom? m text
  if !m.admitsMember low then none
  match m.skip rest with
  | '-' :: rest =>
    if nextSign? m rest = some ']' || nextSign? m rest = some '-' then return '-' :: rest
    match low, ← classAtom? m (m.skip rest) with
    | .char low _, (.char high isByte, rest) =>
      if low ≤ high && m.admitsMember (.char high isByte) then return rest else none
    | _, _ => none
  | rest => return rest

/-- What has been read of a class, its inner classes apart. -/
structure ClassLevel where
  /-- Whether minus signs are members: no other member has come yet. -/
  isFresh : Bool := true
  /-- How deep the members behind the last operator nest. -/
  members : List Nat := []
  /-- How deep nests what stands before the last operator. -/
  left : Option Nat := none
deriving DecidableEq, Repr

namespace ClassLevel

/-- How deep nests what is between the brackets. -/
def depth (level : ClassLevel) : Nat :=
  match level.left with
  | some left => 1 + max left (nesting level.members)
  | none => nesting level.members

/-- Adds a member that nests so deep. -/
def add (level : ClassLevel) (depth : Nat) : ClassLevel :=
  { level with isFresh := false, members := depth :: level.members }

def addMinus (level : ClassLevel) : ClassLevel := { level with members := 0 :: level.members }

def operate (level : ClassLevel) : ClassLevel := { isFresh := false, left := some level.depth }

end ClassLevel

/-- Reads to the end of a class, of which `level` has been read, within classes of which `outer`
has been read. Tells how deep it nests and what follows it. A closing bracket that comes first is a
member. -/
def scanClass (m : Mode) :
    (fuel : Nat) → (level : ClassLevel) → (outer : List ClassLevel) → List Char →
      Option (Nat × List Char)
  | 0, _, _, _ => none
  | fuel + 1, level, outer, text =>
    match m.skip text with
    | [] => none
    | '[' :: rest =>
      match namedClass? rest with
      | some (negated, rest) =>
        if m.admitsNamed negated then scanClass m fuel (level.add 0) outer rest else none
      | none => (openedClass? m rest).bind (scanClass m fuel {} (level :: outer))
    | ']' :: rest =>
      if level.isFresh && level.members = [] then
        if m.admitsMember (.char 93 false) then scanClass m fuel (level.add 0) outer rest else none
      else
        match outer with
        | [] => some (1 + level.depth, rest)
        | above :: outer => scanClass m fuel (above.add (1 + level.depth)) outer rest
    | text =>
      match level.isFresh, text with
      | true, '-' :: rest =>
        if m.admitsMember (.char 45 false) then scanClass m fuel level.addMinus outer rest else none
      | _, '&' :: '&' :: rest | _, '-' :: '-' :: rest | _, '~' :: '~' :: rest =>
        scanClass m fuel level.operate outer rest
      | _, text => (afterMember? m text).bind (scanClass m fuel (level.add 0) outer)

/-- How deep a class nests and what follows it, after its opening bracket. -/
def class? (m : Mode) (text : List Char) : Option (Nat × List Char) :=
  (openedClass? m text).bind (scanClass m (text.length + 1) {} [])

end WrapperSynthesis.Pattern
