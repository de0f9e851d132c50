import WrapperSynthesis.Text.Words
import WrapperSynthesis.Text.CaseMap
import WrapperSynthesis.Wrapper.Candidate

/-! Upper camel case, the naming that the program uses: `virtual_machines`, `list` and `All` make
`VirtualMachinesListAll`. -/

namespace WrapperSynthesis

namespace Text

/-- The letters of a word after its first, in small form. A final sigma has a form of its own. -/
def smallTail : List Char → List Char
  | [] => []
  | ['Σ'] => ['ς']
  | c :: rest => smalls c ++ smallTail rest

/-- A word with a capital first letter and small letters after it. -/
def capitalized : List Char → List Char
  | [] => []
  | c :: rest => capitals c ++ smallTail rest

def upperCamel (text : List Char) : List Char := (words text).flatMap capitalized

end Text

/-- Brings every part to upper camel case on its own and joins them. -/
def pascalCase : Naming := fun parts =>
  String.ofList (parts.flatMap fun part => Text.upperCamel part.toList)

end WrapperSynthesis
