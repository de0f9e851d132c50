import Mathlib.Data.List.DropRight
import WrapperSynthesis.Files.Path
import WrapperSynthesis.Proofs.Wrapping.PascalCase

/-! The parent of a path, which is cut from its text, is the route of the path without its last name
(`route_parent`). -/

namespace WrapperSynthesis

namespace Text

variable {separates : Char → Bool}

theorem pieces_of_forall_not {text : List Char} (h : ∀ c ∈ text, separates c = false) :
    pieces separates text = [text] := by
  induction text with
  | nil => rfl
  | cons c rest ih =>
    rw [pieces, ih fun d hd => h d (List.mem_cons_of_mem c hd)]
    simp [h c List.mem_cons_self, extendFirst]

theorem separates_of_mem_pieces {text piece : List Char} (h : piece ∈ pieces separates text) :
    ∀ c ∈ piece, separates c = false := by
  induction text generalizing piece with
  | nil =>
    rw [pieces, List.mem_singleton] at h
    subst h
    simp
  | cons c rest ih =>
    rw [pieces] at h
    split at h
    · rcases List.mem_cons.mp h with rfl | h
      · simp
      · exact ih h
    · rename_i plain
      cases more : pieces separates rest with
      | nil => exact (pieces_ne_nil separates rest more).elim
      | cons first others =>
        rw [more] at h ih
        rcases List.mem_cons.mp h with rfl | h
        · intro d hd
          rcases List.mem_cons.mp hd with rfl | hd
          · simpa using plain
          · exact ih List.mem_cons_self d hd
        · exact ih (List.mem_cons_of_mem first h)

/-- Pieces that are joined by separators are the pieces of the text. -/
theorem pieces_intercalate {parts : List (List Char)} {c : Char} (sep : separates c = true)
    (some : parts ≠ []) (plain : ∀ part ∈ parts, ∀ d ∈ part, separates d = false) :
    pieces separates ([c].intercalate parts) = parts := by
  induction parts with
  | nil => exact (some rfl).elim
  | cons part rest ih =>
    cases rest with
    | nil => simpa using pieces_of_forall_not (plain part List.mem_cons_self)
    | cons next rest =>
      have later := ih (by simp) fun part h => plain part (List.mem_cons_of_mem _ h)
      rw [List.intercalate_cons_cons, List.append_assoc, List.singleton_append,
        pieces_append_cons sep, pieces_of_forall_not (plain part List.mem_cons_self), later]
      rfl

end Text

namespace Path

theorem trimEnd_eq (parts : List (List Char)) : trimEnd parts = parts.rdropWhile (!isName ·) := rfl

theorem trimEnd_isPrefix (parts : List (List Char)) : trimEnd parts <+: parts :=
  List.rdropWhile_prefix _ _

theorem filter_trimEnd (parts : List (List Char)) :
    (trimEnd parts).filter isName = parts.filter isName := by
  induction parts using List.reverseRecOn with
  | nil => rfl
  | append_singleton parts part ih =>
    cases h : isName part with
    | true => simp [trimEnd_eq, h]
    | false =>
      rw [trimEnd_eq, List.rdropWhile_concat_pos _ _ _ (by simp [h]), ← trimEnd_eq, ih]
      simp [h]

/-- What is left of trimmed parts ends with a name. -/
theorem isName_getLast_trimEnd {parts : List (List Char)} (some : trimEnd parts ≠ []) :
    isName ((trimEnd parts).getLast some) = true := by
  have last : ¬ (!isName ((trimEnd parts).getLast some)) = true :=
    List.rdropWhile_last_not (fun part => !isName part) parts some
  simpa using last

/-- The parts of the parent of a path. -/
def parentParts (path : String) : List (List Char) := trimEnd (trimEnd (parts path)).dropLast

theorem parentParts_isPrefix (path : String) : parentParts path <+: parts path :=
  (trimEnd_isPrefix _).trans ((List.dropLast_prefix _).trans (trimEnd_isPrefix _))

theorem filter_parentParts (path : String) :
    (parentParts path).filter isName = ((parts path).filter isName).dropLast := by
  rw [parentParts, filter_trimEnd, ← filter_trimEnd (parts path)]
  by_cases none : trimEnd (parts path) = []
  · simp [none]
  · have split := List.dropLast_append_getLast none
    have last := isName_getLast_trimEnd none
    conv_rhs => rw [← split]
    simp [last]

theorem parent_eq (path : String) :
    parent path = "/".intercalate ((parentParts path).map String.ofList) := rfl

theorem parts_parent {path : String} (some : parentParts path ≠ []) :
    parts (parent path) = parentParts path := by
  have text : (parent path).toList = ['/'].intercalate (parentParts path) := by
    simp [parent_eq, String.toList_intercalate, Function.comp_def]
  rw [parts, text]
  refine Text.pieces_intercalate (by simp) some fun part h => ?_
  exact Text.separates_of_mem_pieces ((parentParts_isPrefix path).subset h)

theorem isAbsolute_iff (path : String) :
    isAbsolute path = true ↔ path ≠ "" ∧ (parts path).head? = some [] := by
  have text : path ≠ "" ↔ path.toList ≠ [] := by simp
  rw [isAbsolute, parts, decide_eq_true_eq, text]
  cases path.toList with
  | nil => simp
  | cons c rest =>
    rw [Text.pieces]
    by_cases slash : c = '/'
    · simp [slash]
    · cases Text.pieces (· = '/') rest <;> simp [slash, Text.extendFirst]

theorem route_absolute (path : String) : (route path).absolute = isAbsolute path := by
  simp only [route]

theorem route_names (path : String) :
    (route path).names = ((parts path).filter isName).map String.ofList := by
  simp only [route]

/-- The parent of a path goes the way of the path without its last name. -/
theorem route_parent {path : String} (some : parent path ≠ "") :
    (route (parent path)).absolute = (route path).absolute ∧
      (route (parent path)).names = (route path).names.dropLast := by
  have nonempty : parentParts path ≠ [] := by
    intro none
    rw [parent_eq, none] at some
    exact some rfl
  have same := parts_parent nonempty
  constructor
  · have present : path ≠ "" := by
      rintro rfl
      exact some (by decide)
    have first : (parentParts path).head? = (parts path).head? := by
      obtain ⟨rest, all⟩ := parentParts_isPrefix path
      rw [← all, List.head?_append_of_ne_nil _ nonempty]
    rw [route_absolute, route_absolute, Bool.eq_iff_iff, isAbsolute_iff, isAbsolute_iff, same,
      first]
    simp only [ne_eq, some, present, not_false_eq_true]
  · rw [route_names, route_names, same, filter_parentParts, List.map_dropLast]

end Path

end WrapperSynthesis
