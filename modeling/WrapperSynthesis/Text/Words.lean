import WrapperSynthesis.Text.Alphanumeric
import WrapperSynthesis.Text.LetterCase
import WrapperSynthesis.Text.Pieces

/-! The words of an identifier. Every character that belongs to no word separates; within the
pieces between separators a word also ends where a small letter meets a capital (`list|All`), and
before the last of several capitals when a small letter follows it (`HTTP|Server`). -/

namespace WrapperSynthesis.Text

/-- The case of the last cased character of the word so far. -/
inductive CaseMode where
  | boundary
  | lowercase
  | uppercase
deriving DecidableEq, Repr

def CaseMode.next (mode : CaseMode) (c : Char) : CaseMode :=
  if isLowercase c then .lowercase else if isUppercase c then .uppercase else mode

/-- The words of a piece, the first of which may have begun before it: it is empty where a word ends
before the piece. -/
def wordsFrom (mode : CaseMode) : List Char → List (List Char)
  | [] => []
  | [c] => [[c]]
  | c :: next :: rest =>
    if mode.next c = .lowercase && isUppercase next then
      [c] :: wordsFrom .boundary (next :: rest)
    else if mode = .uppercase && isUppercase c && isLowercase next then
      [] :: extendFirst c (wordsFrom .boundary (next :: rest))
    else extendFirst c (wordsFrom (mode.next c) (next :: rest))

def words (text : List Char) : List (List Char) :=
  (pieces (!isAlphanumeric ·) text).flatMap (wordsFrom .boundary)

theorem flatten_wordsFrom (mode : CaseMode) (piece : List Char) :
    (wordsFrom mode piece).flatten = piece := by
  induction piece generalizing mode with
  | nil => rfl
  | cons c rest ih =>
    cases rest with
    | nil => rfl
    | cons next rest =>
      rw [wordsFrom]
      split
      · simp [ih]
      · split <;> simp [ih]

/-- Words hold the characters of the text that belong to words, each once and in order. -/
theorem flatten_words (text : List Char) : (words text).flatten = text.filter isAlphanumeric := by
  have h (found : List (List Char)) :
      (found.flatMap (wordsFrom .boundary)).flatten = found.flatten := by
    induction found with
    | nil => rfl
    | cons piece more ih => simp [List.flatMap_cons, ih, flatten_wordsFrom]
  simp [words, h, flatten_pieces]

end WrapperSynthesis.Text
