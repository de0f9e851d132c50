/-! Cutting a text at separators. Nothing but the separators is lost: `flatten_pieces`. -/

namespace WrapperSynthesis.Text

def extendFirst (c : Char) : List (List Char) → List (List Char)
  | [] => [[c]]
  | piece :: more => (c :: piece) :: more

@[simp] theorem flatten_extendFirst (c : Char) (found : List (List Char)) :
    (extendFirst c found).flatten = c :: found.flatten := by
  cases found <;> simp [extendFirst]

/-- The pieces of a text between separators. Between two separators in a row there is an empty
piece, and a text without separators is a single piece. -/
def pieces (separates : Char → Bool) : List Char → List (List Char)
  | [] => [[]]
  | c :: rest =>
    if separates c then [] :: pieces separates rest else extendFirst c (pieces separates rest)

theorem flatten_pieces (separates : Char → Bool) (text : List Char) :
    (pieces separates text).flatten = text.filter (!separates ·) := by
  induction text with
  | nil => rfl
  | cons c rest ih => by_cases h : separates c <;> simp [pieces, h, ih]

theorem pieces_ne_nil (separates : Char → Bool) (text : List Char) :
    pieces separates text ≠ [] := by
  cases text with
  | nil => simp [pieces]
  | cons c rest =>
    simp only [pieces]
    split
    · simp
    · cases pieces separates rest <;> simp [extendFirst]

end WrapperSynthesis.Text
