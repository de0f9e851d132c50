import WrapperSynthesis.Proofs.Json.Codec

/-! A document has no more in it than its text has characters for: each element of an array and each
member of an object takes at least two characters, one of its own and the comma or bracket behind it
(`weight_root_le`). -/

namespace WrapperSynthesis.Json

mutual

/-- Two for every element and every member within the value. -/
def Draft.weight : Draft → Nat
  | null | bool _ | number _ | string _ | unpaired | broken _ _ => 0
  | array items _ => weightItems items
  | object members _ => weightMembers members

def Draft.weightItems : List Draft → Nat
  | [] => 0
  | d :: items => d.weight + 2 + weightItems items

def Draft.weightMembers : List (Key × Draft) → Nat
  | [] => 0
  | (_, d) :: members => d.weight + 2 + weightMembers members

end

theorem Draft.length_le_weightItems (items : List Draft) :
    2 * items.length ≤ weightItems items := by
  induction items with
  | nil => exact Nat.zero_le _
  | cons d items ih =>
    simp only [List.length_cons, weightItems]
    omega

/-! ### What is read of a text -/

theorem length_skipBlanks_le (text : List Char) : (skipBlanks text).length ≤ text.length :=
  (List.dropWhile_suffix _).length_le

theorem length_of_skipBlanks {text tail : List Char} {c : Char}
    (starts : skipBlanks text = c :: tail) : tail.length < text.length := by
  have le := length_skipBlanks_le text
  rw [starts, List.length_cons] at le
  exact le

theorem length_of_scanWord {word text rest : List Char} (ok : scanWord word text = .ok rest) :
    rest.length ≤ text.length := by
  induction word generalizing text with
  | nil =>
    cases ok
    exact Nat.le_refl _
  | cons w word ih =>
    cases text with
    | nil => cases ok
    | cons c text =>
      rw [scanWord] at ok
      split at ok
      · exact Nat.le_succ_of_le (ih ok)
      · cases ok

theorem length_of_hexQuad {text rest : List Char} {n : Nat} (ok : hexQuad text = .ok (n, rest)) :
    rest.length ≤ text.length := by
  unfold hexQuad at ok
  split at ok
  · split at ok
    · cases ok
      simp only [List.length_cons]
      omega
    · cases ok
  · cases ok

theorem length_of_secondHalf {text rest : List Char} {n : Nat}
    (ok : secondHalf text = .ok (some (n, rest))) : rest.length ≤ text.length := by
  unfold secondHalf at ok
  split at ok
  · cases ok
  · cases ok
  · split at ok
    · cases ok
    · rename_i quad
      have le := length_of_hexQuad quad
      split at ok
      · cases ok
        simp only [List.length_cons]
        omega
      · cases ok
  · cases ok

/-- The rest of a string that was read to its end, whatever was put in front of it. -/
def StringScan.rest? : StringScan → Option (List Char)
  | closed _ rest => some rest
  | stopped _ => none

@[simp] theorem StringScan.rest?_push (c : Char) (scan : StringScan) :
    (scan.push c).rest? = scan.rest? := by
  cases scan <;> rfl

@[simp] theorem StringScan.rest?_spoil (scan : StringScan) : scan.spoil.rest? = scan.rest? := by
  cases scan <;> rfl

theorem length_of_scanString {fuel : Nat} {text rest : List Char}
    (ok : (scanString fuel text).rest? = some rest) : rest.length ≤ text.length := by
  fun_induction scanString fuel text with
  | case1 | case2 | case4 | case5 | case7 | case12 | case13 => cases ok
  | case3 =>
    cases ok
    exact Nat.le_succ _
  | case6 _ _ _ _ quad _ _ ih | case9 _ _ _ _ quad _ _ _ _ ih =>
    have := length_of_hexQuad quad
    have := ih (StringScan.rest?_spoil _ ▸ ok)
    simp only [List.length_cons]
    omega
  | case8 _ _ _ _ quad _ _ _ _ half _ ih =>
    have := length_of_hexQuad quad
    have := length_of_secondHalf half
    have := ih (StringScan.rest?_push _ _ ▸ ok)
    simp only [List.length_cons]
    omega
  | case10 _ _ _ _ quad _ _ _ ih =>
    have := length_of_hexQuad quad
    have := ih (StringScan.rest?_push _ _ ▸ ok)
    simp only [List.length_cons]
    omega
  | case11 _ _ _ _ _ _ _ ih | case14 _ _ _ _ _ _ ih =>
    have := ih (StringScan.rest?_push _ _ ▸ ok)
    simp only [List.length_cons]
    omega

theorem length_of_spanDigits {text rest : List Char} {digits : List Nat}
    (found : spanDigits text = (digits, rest)) : digits.length + rest.length = text.length := by
  induction text generalizing digits with
  | nil =>
    cases found
    rfl
  | cons c text ih =>
    rw [spanDigits] at found
    split at found
    · cases found
      have all : (spanDigits text).1.length + (spanDigits text).2.length = text.length := ih rfl
      simp only [List.length_cons]
      omega
    · cases found
      simp

theorem length_of_scanWhole {text rest : List Char} {digits : List Nat}
    (ok : scanWhole text = .ok (digits, rest)) : rest.length < text.length := by
  rcases found : spanDigits text with ⟨_ | ⟨d, ds⟩, after⟩
  · simp [scanWhole, found] at ok
  · have all := length_of_spanDigits found
    simp only [List.length_cons] at all
    unfold scanWhole at ok
    rw [found] at ok
    split at ok
    · cases ok
    · cases ok
    · cases ok
      omega

theorem length_of_scanFraction {text rest : List Char} {digits : List Nat}
    (ok : scanFraction text = .ok (digits, rest)) : rest.length ≤ text.length := by
  unfold scanFraction at ok
  split at ok
  · rename_i text
    rcases found : spanDigits text with ⟨_ | ⟨d, ds⟩, after⟩
    · simp [found] at ok
    · have all := length_of_spanDigits found
      rw [found] at ok
      cases ok
      simp only [List.length_cons] at all ⊢
      omega
  · cases ok
    exact Nat.le_refl _

theorem length_scanSign_le (text : List Char) : (scanSign text).2.length ≤ text.length := by
  unfold scanSign
  split <;> simp

theorem length_of_scanExponent {text rest : List Char} {exponent : Option (Bool × List Nat)}
    (ok : scanExponent text = .ok (exponent, rest)) : rest.length ≤ text.length := by
  unfold scanExponent at ok
  split at ok
  · cases ok
    exact Nat.le_refl _
  · rename_i c text
    have sign := length_scanSign_le text
    split at ok
    · rcases found : spanDigits (scanSign text).2 with ⟨_ | ⟨d, ds⟩, after⟩
      · simp [found] at ok
      · have all := length_of_spanDigits found
        simp only [found] at ok
        cases ok
        simp only [List.length_cons] at all ⊢
        omega
    · cases ok
      exact Nat.le_refl _

theorem length_of_scanNumber {text rest : List Char} {n : Numeral}
    (ok : scanNumber text = .ok (n, rest)) : rest.length < text.length := by
  unfold scanNumber at ok
  split at ok
  rename_i negative unsigned sign
  have le : unsigned.length ≤ text.length := by
    split at sign
    · cases sign
      exact Nat.le_succ _
    · cases sign
      exact Nat.le_refl _
  obtain ⟨⟨digits, afterWhole⟩, whole, ok⟩ := bind_eq_ok_iff.mp ok
  obtain ⟨⟨places, afterFraction⟩, fraction, ok⟩ := bind_eq_ok_iff.mp ok
  obtain ⟨⟨power, afterExponent⟩, exponent, ok⟩ := bind_eq_ok_iff.mp ok
  cases ok
  have := length_of_scanWhole whole
  have := length_of_scanFraction fraction
  have := length_of_scanExponent exponent
  omega

/-! ### The weight of what is read -/

theorem length_of_draftWord {d d' : Draft} {word text rest : List Char}
    (ok : draftWord d word text = (d', some rest)) : d' = d ∧ rest.length ≤ text.length := by
  unfold draftWord at ok
  split at ok
  · rename_i read
    cases ok
    exact ⟨rfl, length_of_scanWord read⟩
  · cases ok

theorem length_of_draftString {fuel : Nat} {d : Draft} {text rest : List Char}
    (ok : draftString fuel text = (d, some rest)) : d.weight = 0 ∧ rest.length ≤ text.length := by
  unfold draftString at ok
  split at ok
  · rename_i read
    cases ok
    exact ⟨rfl, length_of_scanString (by rw [read]; rfl)⟩
  · rename_i read
    cases ok
    exact ⟨rfl, length_of_scanString (by rw [read]; rfl)⟩
  · cases ok

theorem length_of_draftNumber {d : Draft} {text rest : List Char}
    (ok : draftNumber text = (d, some rest)) : d.weight = 0 ∧ rest.length < text.length := by
  unfold draftNumber at ok
  split at ok
  · rename_i read
    cases ok
    exact ⟨rfl, length_of_scanNumber read⟩
  · cases ok

/-- An array or object was read up to its bracket, or at least to where the text goes on. -/
def Finished (close : Close) (rest : Option (List Char)) : Prop := close = .closed ∨ rest.isSome

theorem not_finished_cut {stop : Stop} {afterComma : Bool} :
    ¬ Finished (.cut stop afterComma) none := by
  simp [Finished]

/-- The characters that are left. -/
def left (rest : Option (List Char)) : Nat := rest.elim 0 List.length

/-- The weights of all that is read with some fuel, against the characters that it takes. A value
takes one character more, which stands for the comma or bracket behind it. -/
structure Weighed (fuel : Nat) : Prop where
  value : ∀ text d rest, draftValue fuel text = (d, some rest) →
    d.weight + rest.length < text.length
  items : ∀ first text items close rest, draftItems fuel first text = (items, close, rest) →
    Finished close rest →
    Draft.weightItems items + left rest + (if first then 0 else 1) ≤ text.length
  item : ∀ text items close rest, draftItem fuel text = (items, close, rest) →
    Finished close rest → Draft.weightItems items + left rest ≤ text.length
  members : ∀ first text members close rest, draftMembers fuel first text = (members, close, rest) →
    Finished close rest →
    Draft.weightMembers members + left rest + (if first then 0 else 1) ≤ text.length
  member : ∀ afterComma text members close rest,
    draftMember fuel afterComma text = (members, close, rest) →
    Finished close rest → Draft.weightMembers members + left rest ≤ text.length

section Steps

variable {fuel : Nat} {text : List Char} {rest : Option (List Char)} {close : Close}

theorem Weighed.value_succ (h : Weighed fuel) {d : Draft} {rest : List Char}
    (ok : draftValue (fuel + 1) text = (d, some rest)) : d.weight + rest.length < text.length := by
  rw [draftValue] at ok
  split at ok
  · cases ok
  · rename_i c tail starts
    have shorter := length_of_skipBlanks starts
    -- An array, an object, a string, one of three words, or a number.
    split at ok
    · rcases inner : draftItems fuel true tail with ⟨items, close, after⟩
      rw [inner] at ok
      cases ok
      have := h.items true tail items close _ inner (.inr rfl)
      simp only [Draft.weight, left, Option.elim, ite_true] at this ⊢
      omega
    split at ok
    · rcases inner : draftMembers fuel true tail with ⟨members, close, after⟩
      rw [inner] at ok
      cases ok
      have := h.members true tail members close _ inner (.inr rfl)
      simp only [Draft.weight, left, Option.elim, ite_true] at this ⊢
      omega
    split at ok
    · obtain ⟨none, le⟩ := length_of_draftString ok
      omega
    split at ok
    · obtain ⟨rfl, le⟩ := length_of_draftWord ok
      simp only [Draft.weight]
      omega
    split at ok
    · obtain ⟨rfl, le⟩ := length_of_draftWord ok
      simp only [Draft.weight]
      omega
    split at ok
    · obtain ⟨rfl, le⟩ := length_of_draftWord ok
      simp only [Draft.weight]
      omega
    split at ok
    · obtain ⟨none, lt⟩ := length_of_draftNumber ok
      simp only [List.length_cons] at lt
      omega
    · cases ok

theorem Weighed.items_succ (h : Weighed fuel) {first : Bool} {items : List Draft}
    (ok : draftItems (fuel + 1) first text = (items, close, rest))
    (finished : Finished close rest) :
    Draft.weightItems items + left rest + (if first then 0 else 1) ≤ text.length := by
  rw [draftItems] at ok
  split at ok
  · cases ok
    exact (not_finished_cut finished).elim
  · rename_i c tail starts
    have shorter := length_of_skipBlanks starts
    -- The closing bracket, an element without a comma before it, or a comma and an element.
    split at ok
    · cases ok
      simp only [Draft.weightItems, left, Option.elim]
      split <;> omega
    split at ok
    · rename_i isFirst
      have := h.item _ items close rest ok finished
      simp only [List.length_cons, isFirst, ite_true] at this ⊢
      omega
    split at ok
    · have := h.item _ items close rest ok finished
      split <;> omega
    · cases ok
      exact (not_finished_cut finished).elim

theorem Weighed.item_succ (h : Weighed fuel) {items : List Draft}
    (ok : draftItem (fuel + 1) text = (items, close, rest)) (finished : Finished close rest) :
    Draft.weightItems items + left rest ≤ text.length := by
  rw [draftItem] at ok
  split at ok
  · cases ok
    exact (not_finished_cut finished).elim
  · rename_i item middle read
    rcases inner : draftItems fuel false middle with ⟨more, close', after⟩
    rw [inner] at ok
    cases ok
    have first := h.value _ _ _ read
    have later := h.items _ _ _ _ _ inner finished
    simp only [Draft.weightItems, Bool.false_eq_true, ite_false] at later ⊢
    omega

theorem Weighed.members_succ (h : Weighed fuel) {first : Bool} {members : List (Key × Draft)}
    (ok : draftMembers (fuel + 1) first text = (members, close, rest))
    (finished : Finished close rest) :
    Draft.weightMembers members + left rest + (if first then 0 else 1) ≤ text.length := by
  rw [draftMembers] at ok
  split at ok
  · cases ok
    exact (not_finished_cut finished).elim
  · rename_i c tail starts
    have shorter := length_of_skipBlanks starts
    split at ok
    · cases ok
      simp only [Draft.weightMembers, left, Option.elim]
      split <;> omega
    split at ok
    · rename_i isFirst
      have := h.member _ _ members close rest ok finished
      simp only [List.length_cons, isFirst, ite_true] at this ⊢
      omega
    split at ok
    · have := h.member _ _ members close rest ok finished
      split <;> omega
    · cases ok
      exact (not_finished_cut finished).elim

theorem Weighed.member_succ (h : Weighed fuel) {afterComma : Bool} {members : List (Key × Draft)}
    (ok : draftMember (fuel + 1) afterComma text = (members, close, rest))
    (finished : Finished close rest) : Draft.weightMembers members + left rest ≤ text.length := by
  rw [draftMember] at ok
  split at ok
  · cases ok
    exact (not_finished_cut finished).elim
  · rename_i c tail starts
    have shorter := length_of_skipBlanks starts
    split at ok
    · -- Only behind its name, a colon and its value is a member finished.
      split at ok
      · cases ok
        exact (not_finished_cut finished).elim
      · rename_i s afterKey key
        have name : afterKey.length ≤ tail.length := length_of_scanString (by rw [key]; rfl)
        rcases colon : skipBlanks afterKey with _ | ⟨c', beforeValue⟩
        · simp only [colon] at ok
          cases ok
          exact (not_finished_cut finished).elim
        · have sign := length_of_skipBlanks colon
          simp only [colon] at ok
          split at ok
          · split at ok
            · cases ok
              exact (not_finished_cut finished).elim
            · rename_i d middle read
              rcases inner : draftMembers fuel false middle with ⟨more, close', after⟩
              rw [inner] at ok
              cases ok
              have first := h.value _ _ _ read
              have later := h.members _ _ _ _ _ inner finished
              simp only [Draft.weightMembers, Bool.false_eq_true, ite_false] at later ⊢
              omega
          · cases ok
            exact (not_finished_cut finished).elim
    · cases ok
      exact (not_finished_cut finished).elim

theorem weighed (fuel : Nat) : Weighed fuel := by
  -- All five at once: the readers call one another, each with less fuel.
  induction fuel with
  | zero =>
    -- Without fuel every reader breaks off.
    constructor
    · exact fun _ _ => nofun
    all_goals
      intros
      rename_i ok finished
      cases ok
      exact (not_finished_cut finished).elim
  | succ fuel ih =>
    exact {
      value := fun _ _ _ => ih.value_succ
      items := fun _ _ _ _ _ => ih.items_succ
      item := fun _ _ _ _ => ih.item_succ
      members := fun _ _ _ _ _ => ih.members_succ
      member := fun _ _ _ _ _ => ih.member_succ }

/-- The value is no array or object that breaks off. -/
def Draft.Ends : Draft → Prop
  | array _ close | object _ close => close = .closed
  | null | bool _ | number _ | string _ | unpaired | broken _ _ => True

theorem of_draftValue_array {items : List Draft}
    (ok : draftValue (fuel + 1) text = (.array items close, rest)) :
    ∃ tail, skipBlanks text = '[' :: tail ∧ draftItems fuel true tail = (items, close, rest) := by
  rw [draftValue] at ok
  grind [draftString, draftWord, draftNumber]

theorem of_draftValue_object {members : List (Key × Draft)}
    (ok : draftValue (fuel + 1) text = (.object members close, rest)) :
    ∃ tail, skipBlanks text = '\x7b' :: tail ∧
      draftMembers fuel true tail = (members, close, rest) := by
  rw [draftValue] at ok
  grind [draftString, draftWord, draftNumber]

theorem weight_le_of_ends {d : Draft} (ok : draftValue fuel text = (d, rest)) (ends : d.Ends) :
    d.weight ≤ text.length := by
  cases fuel with
  | zero =>
    cases ok
    exact Nat.zero_le _
  | succ fuel =>
    cases d with
    | null | bool | number | string | unpaired | broken => exact Nat.zero_le _
    | array items close =>
      obtain ⟨tail, starts, inner⟩ := of_draftValue_array ok
      have shorter := length_of_skipBlanks starts
      have := (weighed fuel).items _ _ _ _ _ inner (.inl ends)
      simp only [Draft.weight]
      omega
    | object members close =>
      obtain ⟨tail, starts, inner⟩ := of_draftValue_object ok
      have shorter := length_of_skipBlanks starts
      have := (weighed fuel).members _ _ _ _ _ inner (.inl ends)
      simp only [Draft.weight]
      omega

end Steps

theorem weight_root_le {text : String} (ends : (Document.ofText text).root.Ends) :
    (Document.ofText text).root.weight ≤ text.length := by
  have root : (Document.ofText text).root =
      (draftValue (3 * text.toList.length + 3) text.toList).1 := by
    rcases read : draftValue (3 * text.toList.length + 3) text.toList with ⟨d, _ | rest⟩ <;>
      simp only [Document.ofText, read]
  rw [root] at ends ⊢
  exact String.length_toList ▸ weight_le_of_ends rfl ends

end WrapperSynthesis.Json
