import WrapperSynthesis.Text.Pieces

/-! Paths as the program is given them: names between slashes. Empty names and single dots mean
nothing but at the end of a path; two dots lead to the folder above. -/

namespace WrapperSynthesis

inductive PathEnding where
  /-- With a name or two dots. -/
  | name
  | slash
  /-- With a single dot, which slashes may follow. -/
  | dot
deriving DecidableEq, Repr

structure Route where
  /-- Whether the path starts at the root rather than in the working folder. -/
  absolute : Bool
  /-- The names on the way, without empty names and single dots. -/
  names : List String
  ending : PathEnding
deriving DecidableEq, Repr

namespace Path

/-- Whether a text between slashes is a name that the route goes through. -/
def isName (part : List Char) : Bool := part ≠ [] && part ≠ ['.']

def isAbsolute (path : String) : Bool := path.toList.head? = some '/'

def parts (path : String) : List (List Char) := Text.pieces (· = '/') path.toList

def route (path : String) : Route :=
  let parts := parts path
  let tail := parts.reverse.takeWhile (!isName ·)
  { absolute := isAbsolute path
    names := (parts.filter isName).map String.ofList
    ending := if tail = [] then .name else if tail.contains ['.'] then .dot else .slash }

/-- Parts without those at the end that are no names. -/
def trimEnd (parts : List (List Char)) : List (List Char) :=
  (parts.reverse.dropWhile (!isName ·)).reverse

/-- The path to the folder of what a path leads to. It is empty when there are no names on the
way to that folder. -/
def parent (path : String) : String :=
  "/".intercalate ((trimEnd (trimEnd (parts path)).dropLast).map String.ofList)

def join (folder name : String) : String :=
  if folder.toList.getLast? = some '/' || folder = "" then folder ++ name
  else folder ++ "/" ++ name

end Path

end WrapperSynthesis
