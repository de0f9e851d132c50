import WrapperSynthesis.Wrapper.PascalCase
import WrapperSynthesis.Analysis.Collision
import WrapperSynthesis.Proofs.Wrapping.Candidates

/-! What upper camel case makes of a polling handle's name. A character that belongs to no word ends
the word before it, so the name depends on the qualified name of the method alone and not on where
its group ends (`toList_name_of_mem_handles`). Among the handles of one name, the label of a handle
tells its origin and its list-all marker (`label_eq_iff`). -/

namespace WrapperSynthesis

namespace Text

theorem extendFirst_append {c : Char} {found more : List (List Char)} (h : found ≠ []) :
    extendFirst c (found ++ more) = extendFirst c found ++ more := by
  cases found with
  | nil => exact absurd rfl h
  | cons piece rest => rfl

/-- A separator ends the pieces of the text before it. -/
theorem pieces_append_cons {separates : Char → Bool} {c : Char} (h : separates c = true)
    (before after : List Char) :
    pieces separates (before ++ c :: after) =
      pieces separates before ++ pieces separates after := by
  induction before with
  | nil => simp [pieces, h]
  | cons d before ih =>
    rw [List.cons_append, pieces, pieces, ih]
    split
    · rfl
    · exact extendFirst_append (pieces_ne_nil separates before)

theorem words_append_cons {c : Char} (h : isAlphanumeric c = false) (before after : List Char) :
    words (before ++ c :: after) = words before ++ words after := by
  have separates : (!isAlphanumeric c) = true := by rw [h]; rfl
  rw [words, @pieces_append_cons (!isAlphanumeric ·) c separates, List.flatMap_append]
  rfl

theorem upperCamel_append_cons {c : Char} (h : isAlphanumeric c = false)
    (before after : List Char) :
    upperCamel (before ++ c :: after) = upperCamel before ++ upperCamel after := by
  rw [upperCamel, words_append_cons h, List.flatMap_append]
  rfl

theorem upperCamel_all : upperCamel "All".toList = "All".toList := by decide

theorem upperCamel_marker : upperCamel "(list all)".toList = "ListAll".toList := by decide

end Text

open Text

theorem upperCamel_qualifiedName (group name : String) :
    upperCamel (qualifiedName group name).toList =
      upperCamel group.toList ++ upperCamel name.toList := by
  rw [qualifiedName]
  split
  · subst group
    rfl
  · rw [String.append_assoc, String.toList_append, String.toList_append]
    exact upperCamel_append_cons (by decide) group.toList name.toList

/-- The name of a handle is made of the qualified name of its method and of its list-all marker. -/
theorem toList_name_of_mem_handles {m : Method} {kind : OperationKind} {h : PollingHandle}
    (hm : h ∈ m.handles pascalCase kind) :
    h.name.toList =
      upperCamel h.origin.toList ++ if h.listAll then "All".toList else [] := by
  have base : upperCamel m.qualifiedName.toList =
      upperCamel m.group.toList ++ upperCamel m.name.toList := upperCamel_qualifiedName _ _
  have short : ((m.handle pascalCase).name).toList = upperCamel m.qualifiedName.toList := by
    rw [base, Method.handle, Method.handleName, pascalCase, String.toList_ofList]
    simp only [List.flatMap_cons, List.flatMap_nil, List.append_nil]
  have long : ((m.listAllHandle pascalCase).name).toList =
      upperCamel m.qualifiedName.toList ++ "All".toList := by
    rw [base, Method.listAllHandle, Method.listAllName, pascalCase, String.toList_ofList]
    simp only [List.flatMap_cons, List.flatMap_nil, List.append_nil, upperCamel_all,
      List.append_assoc]
  cases kind with
  | plain | paginated => cases hm
  | longRunning =>
    rw [Method.handles, List.mem_singleton] at hm
    subst hm
    exact short.trans (List.append_nil _).symm
  | paginatedLongRunning =>
    simp only [Method.handles, List.mem_cons, List.not_mem_nil, or_false] at hm
    rcases hm with rfl | rfl
    · exact short.trans (List.append_nil _).symm
    · exact long

theorem toList_label (origin : String) (listAll : Bool) :
    (Collision.label origin listAll).toList =
      origin.toList ++ if listAll then " (list all)".toList else [] := by
  cases listAll
  · exact (List.append_nil _).symm
  · exact String.toList_append

/-- The label of a list-all handle is no origin of a handle with the same name: its name would end
in `ListAll`. -/
theorem not_label_eq_origin {m m' : Method} {kind kind' : OperationKind} {h h' : PollingHandle}
    (hm : h ∈ m.handles pascalCase kind) (hm' : h' ∈ m'.handles pascalCase kind')
    (name : h.name = h'.name) (marked : h.listAll = true) (unmarked : h'.listAll = false) :
    Collision.label h.origin true ≠ h'.origin := by
  intro same
  have camel := toList_name_of_mem_handles hm'
  rw [← name, toList_name_of_mem_handles hm, ← same, toList_label, marked, unmarked,
    if_pos rfl, if_pos rfl, if_neg Bool.false_ne_true, List.append_nil] at camel
  have marker : " (list all)".toList = ' ' :: "(list all)".toList := rfl
  rw [marker, upperCamel_append_cons (by decide), upperCamel_marker, List.append_cancel_left_eq]
    at camel
  exact absurd camel (by decide)

theorem label_eq_iff {m m' : Method} {kind kind' : OperationKind} {h h' : PollingHandle}
    (hm : h ∈ m.handles pascalCase kind) (hm' : h' ∈ m'.handles pascalCase kind')
    (name : h.name = h'.name) :
    Collision.label h.origin h.listAll = Collision.label h'.origin h'.listAll ↔
      (h.origin, h.listAll) = (h'.origin, h'.listAll) := by
  constructor
  · intro same
    cases marker : h.listAll <;> cases marker' : h'.listAll <;> rw [marker, marker'] at same
    · exact Prod.ext same rfl
    · exact absurd same.symm (not_label_eq_origin hm' hm name.symm marker' marker)
    · exact absurd same (not_label_eq_origin hm hm' name marker marker')
    · exact Prod.ext (String.append_left_inj _ |>.mp same) rfl
  · intro same
    rw [Prod.mk.injEq] at same
    rw [same.1, same.2]

end WrapperSynthesis
