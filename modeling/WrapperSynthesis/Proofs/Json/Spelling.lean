import WrapperSynthesis.Json.Parser
import WrapperSynthesis.Json.Value
import WrapperSynthesis.Proofs.Json.Scan

/-! The texts that spell a JSON value, with blanks around any part of it and any spelling of its
strings. `Value.asDraft` is the value as its reader should see it, and this is what the reader of
documents sees in each of these texts (`ofText_of_spelled`). -/

namespace WrapperSynthesis.Json

namespace Value

mutual

/-- The value as a reader sees its text. -/
def asDraft : Value → Draft
  | null => .null
  | bool b => .bool b
  | number n => .number (.ofNat n)
  | string s => .string s
  | array items => .array (asDrafts items) .closed
  | object members => .object (asMembers members) .closed

def asDrafts : List Value → List Draft
  | [] => []
  | item :: items => item.asDraft :: asDrafts items

def asMembers : List (String × Value) → List (Key × Draft)
  | [] => []
  | (key, value) :: members => (.name key, value.asDraft) :: asMembers members

end

theorem asMembers_append (members more : List (String × Value)) :
    asMembers (members ++ more) = asMembers members ++ asMembers more := by
  induction members with
  | nil => rfl
  | cons member members ih => rw [List.cons_append, asMembers, ih, asMembers, List.cons_append]

end Value

/-! ### Texts -/

def Blanks (text : List Char) : Prop := ∀ c ∈ text, isBlank c = true

instance (text : List Char) : Decidable (Blanks text) :=
  List.decidableBAll (isBlank · = true) text

/-- A text with blanks before and behind it. -/
def Padded (Core : List Char → Prop) (text : List Char) : Prop :=
  ∃ before core after, text = before ++ core ++ after ∧ Blanks before ∧ Core core ∧ Blanks after

def Quoted (s : String) (text : List Char) : Prop :=
  ∃ body, text = '"' :: body ++ ['"'] ∧ StringBody s.toList body

/-- The comma before an element or member, unless it is the first. -/
def separator (first : Bool) : List Char := if first then [] else [',']

namespace Value

mutual

/-- The text spells the value. -/
def Spelled : Value → List Char → Prop
  | null, text => text = "null".toList
  | bool b, text => text = (if b then "true" else "false").toList
  | number n, text => text = Nat.toDigits 10 n
  | string s, text => Quoted s text
  | array items, text => ∃ inner, text = '[' :: inner ++ [']'] ∧ ItemsSpelled true items inner
  | object members, text =>
    ∃ inner, text = '{' :: inner ++ ['}'] ∧ MembersSpelled true members inner

def ItemsSpelled (first : Bool) : List Value → List Char → Prop
  | [], text => Blanks text
  | item :: items, text => ∃ front others, text = separator first ++ front ++ others ∧
      Padded (Spelled item) front ∧ ItemsSpelled false items others

def MembersSpelled (first : Bool) : List (String × Value) → List Char → Prop
  | [], text => Blanks text
  | (key, value) :: members, text => ∃ name front others,
      text = separator first ++ name ++ ':' :: front ++ others ∧ Padded (Quoted key) name ∧
      Padded (Spelled value) front ∧ MembersSpelled false members others

end

end Value

open Value

/-! ### Blanks -/

theorem Blanks.nil : Blanks [] := nofun

theorem skipBlanks_append {blanks : List Char} (h : Blanks blanks) (text : List Char) :
    skipBlanks (blanks ++ text) = skipBlanks text :=
  List.dropWhile_append_of_pos h

theorem skipBlanks_of_not_blank {c : Char} (h : isBlank c = false) (rest : List Char) :
    skipBlanks (c :: rest) = c :: rest := by
  rw [skipBlanks, List.dropWhile_cons_of_neg (by simp [h])]

theorem skipBlanks_skipBlanks (text : List Char) :
    skipBlanks (skipBlanks text) = skipBlanks text := by
  induction text with
  | nil => rfl
  | cons c text ih =>
    cases h : isBlank c with
    | false => rw [skipBlanks_of_not_blank h, skipBlanks_of_not_blank h]
    | true =>
      have skipped : skipBlanks (c :: text) = skipBlanks text := List.dropWhile_cons_of_pos h
      rw [skipped, ih]

theorem not_blank_of_isDigit {c : Char} (h : c.isDigit = true) : isBlank c = false := by
  simp only [isBlank, Bool.or_eq_false_iff, decide_eq_false_iff_not]
  refine ⟨⟨⟨?_, ?_⟩, ?_⟩, ?_⟩ <;> rintro rfl <;> exact absurd h (by decide)

/-- The text of a value starts with a character that is no blank and closes no array. -/
theorem exists_cons_of_spelled {v : Value} {text : List Char} (spelled : v.Spelled text) :
    ∃ c more, text = c :: more ∧ isBlank c = false ∧ c ≠ ']' := by
  cases v with
  | null =>
    rw [Spelled] at spelled
    exact ⟨'n', _, spelled, rfl, by decide⟩
  | bool b =>
    rw [Spelled] at spelled
    cases b <;> exact ⟨_, _, spelled, rfl, by decide⟩
  | number n =>
    rw [Spelled] at spelled
    obtain ⟨c, more, digits, digit⟩ := exists_cons_toDigits n
    refine ⟨c, more, spelled.trans digits, not_blank_of_isDigit digit, ?_⟩
    rintro rfl
    exact absurd digit (by decide)
  | string s =>
    rw [Spelled] at spelled
    obtain ⟨body, rfl, -⟩ := spelled
    exact ⟨'"', _, rfl, rfl, by decide⟩
  | array items =>
    rw [Spelled] at spelled
    obtain ⟨inner, rfl, -⟩ := spelled
    exact ⟨'[', _, rfl, rfl, by decide⟩
  | object members =>
    rw [Spelled] at spelled
    obtain ⟨inner, rfl, -⟩ := spelled
    exact ⟨'{', _, rfl, rfl, by decide⟩

theorem skipBlanks_spelled {v : Value} {text : List Char} (spelled : v.Spelled text)
    (rest : List Char) : skipBlanks (text ++ rest) = text ++ rest := by
  obtain ⟨c, more, rfl, visible, -⟩ := exists_cons_of_spelled spelled
  exact skipBlanks_of_not_blank visible _

/-! ### What follows a number -/

theorem endsNumber_cons {c : Char} (text : List Char)
    (ends : Text.digit? c = none ∧ c ≠ '.' ∧ c ≠ 'e' ∧ c ≠ 'E') : EndsNumber (c :: text) := by
  rintro d rest h
  rw [← (List.cons.inj h).1]
  exact ends

theorem endsNumber_blanks {blanks text : List Char} (h : Blanks blanks) (ends : EndsNumber text) :
    EndsNumber (blanks ++ text) := by
  cases blanks with
  | nil => exact ends
  | cons c blanks =>
    have blank := h c List.mem_cons_self
    simp only [isBlank, Bool.or_eq_true, decide_eq_true_eq] at blank
    rcases blank with ((rfl | rfl) | rfl) | rfl <;> exact endsNumber_cons _ (by decide)

theorem endsNumber_items {items : List Value} {text rest : List Char}
    (spelled : ItemsSpelled false items text) (ends : EndsNumber rest) :
    EndsNumber (text ++ rest) := by
  cases items with
  | nil =>
    rw [ItemsSpelled] at spelled
    exact endsNumber_blanks spelled ends
  | cons item items =>
    rw [ItemsSpelled] at spelled
    obtain ⟨front, others, rfl, -⟩ := spelled
    exact endsNumber_cons _ (by decide)

theorem endsNumber_members {members : List (String × Value)} {text rest : List Char}
    (spelled : MembersSpelled false members text) (ends : EndsNumber rest) :
    EndsNumber (text ++ rest) := by
  cases members with
  | nil =>
    rw [MembersSpelled] at spelled
    exact endsNumber_blanks spelled ends
  | cons member members =>
    rw [MembersSpelled] at spelled
    obtain ⟨name, front, others, rfl, -⟩ := spelled
    exact endsNumber_cons _ (by decide)

/-! ### Steps of the reader -/

theorem draftValue_skipBlanks (fuel : Nat) (text : List Char) :
    draftValue fuel (skipBlanks text) = draftValue fuel text := by
  cases fuel with
  | zero => rw [draftValue, draftValue]
  | succ fuel =>
    rw [draftValue, draftValue, skipBlanks_skipBlanks]

theorem draftItems_blanks {blanks : List Char} (h : Blanks blanks) (fuel : Nat) (first : Bool)
    (text : List Char) : draftItems fuel first (blanks ++ text) = draftItems fuel first text := by
  cases fuel with
  | zero => rfl
  | succ fuel => rw [draftItems, draftItems, skipBlanks_append h]

theorem draftMembers_blanks {blanks : List Char} (h : Blanks blanks) (fuel : Nat) (first : Bool)
    (text : List Char) :
    draftMembers fuel first (blanks ++ text) = draftMembers fuel first text := by
  cases fuel with
  | zero => rfl
  | succ fuel => rw [draftMembers, draftMembers, skipBlanks_append h]

section Steps

variable {fuel : Nat} {text rest more tail body after : List Char} {c : Char} {item : Draft}
  {items : List Draft} {members : List (Key × Draft)} {key : String}

theorem draftValue_of_items (starts : skipBlanks text = '[' :: tail)
    (inner : draftItems fuel true tail = (items, .closed, some rest)) :
    draftValue (fuel + 1) text = (.array items .closed, some rest) := by
  simp [draftValue, starts, inner]

theorem draftValue_of_members (starts : skipBlanks text = '{' :: tail)
    (inner : draftMembers fuel true tail = (members, .closed, some rest)) :
    draftValue (fuel + 1) text = (.object members .closed, some rest) := by
  simp [draftValue, starts, inner]

theorem draftItems_close {first : Bool} (ends : skipBlanks text = ']' :: rest) :
    draftItems (fuel + 1) first text = ([], .closed, some rest) := by
  simp [draftItems, ends]

theorem draftItem_of_value (value : draftValue fuel text = (item, some more))
    (others : draftItems fuel false more = (items, .closed, some rest)) :
    draftItem (fuel + 1) text = (item :: items, .closed, some rest) := by
  simp [draftItem, value, others]

theorem draftItems_of_value {first : Bool} (starts : skipBlanks text = c :: tail) (inside : c ≠ ']')
    (value : draftValue fuel text = (item, some more))
    (others : draftItems fuel false more = (items, .closed, some rest)) :
    draftItems (fuel + 2) first (separator first ++ text) =
      (item :: items, .closed, some rest) := by
  cases first with
  | false =>
    rw [← draftItem_of_value value others]
    simp [separator, draftItems, skipBlanks_of_not_blank (show isBlank ',' = false from rfl)]
  | true =>
    rw [← draftValue_skipBlanks, starts] at value
    rw [← draftItem_of_value value others]
    simp [separator, draftItems, starts, inside]

theorem draftMembers_close {first : Bool} (ends : skipBlanks text = '}' :: rest) :
    draftMembers (fuel + 1) first text = ([], .closed, some rest) := by
  simp [draftMembers, ends]

theorem draftMember_of_value (afterComma : Bool) (enough : key.toList.length < fuel)
    (spelled : StringBody key.toList body) (blank : Blanks after)
    (starts : skipBlanks text = '"' :: (body ++ '"' :: (after ++ ':' :: tail)))
    (value : draftValue fuel tail = (item, some more))
    (others : draftMembers fuel false more = (members, .closed, some rest)) :
    draftMember (fuel + 1) afterComma text =
      ((.name key, item) :: members, .closed, some rest) := by
  have colon : skipBlanks (after ++ ':' :: tail) = ':' :: tail := by
    rw [skipBlanks_append blank, skipBlanks_of_not_blank (show isBlank ':' = false from rfl)]
  simp [draftMember, starts, scanString_of_stringBody spelled _ _ enough, colon, value, others]

theorem draftMembers_of_value {first : Bool} (enough : key.toList.length < fuel)
    (spelled : StringBody key.toList body) (blank : Blanks after)
    (starts : skipBlanks text = '"' :: (body ++ '"' :: (after ++ ':' :: tail)))
    (value : draftValue fuel tail = (item, some more))
    (others : draftMembers fuel false more = (members, .closed, some rest)) :
    draftMembers (fuel + 2) first (separator first ++ text) =
      ((.name key, item) :: members, .closed, some rest) := by
  cases first with
  | false =>
    rw [← draftMember_of_value true enough spelled blank starts value others]
    simp [separator, draftMembers, skipBlanks_of_not_blank (show isBlank ',' = false from rfl)]
  | true =>
    rw [← draftMember_of_value false enough spelled blank
      (skipBlanks_of_not_blank (show isBlank '"' = false from rfl) _) value others]
    simp [separator, draftMembers, starts]

end Steps

/-! ### Values -/

theorem length_le_of_charText {c : Char} {text : List Char} (spelled : CharText c text) :
    1 ≤ text.length := by
  cases spelled <;> simp

theorem length_le_of_stringBody {s text : List Char} (spelled : StringBody s text) :
    s.length ≤ text.length := by
  obtain ⟨pieces, spelled, rfl⟩ := spelled
  induction spelled with
  | nil => exact Nat.le_refl 0
  | cons first others ih =>
    have := length_le_of_charText first
    rw [List.flatten_cons, List.length_append, List.length_cons]
    omega

theorem draftValue_scalar {v : Value} {core text rest : List Char} {fuel : Nat}
    (scalar : ∀ items, v ≠ .array items) (scalar' : ∀ members, v ≠ .object members)
    (spelled : v.Spelled core) (starts : skipBlanks text = core ++ rest)
    (enough : 3 * core.length ≤ fuel) (ends : EndsNumber rest) :
    draftValue fuel text = (v.asDraft, some rest) := by
  obtain ⟨c, more, shape, _⟩ := exists_cons_of_spelled spelled
  obtain ⟨fuel, rfl⟩ : ∃ k, fuel = k + 1 := ⟨fuel - 1, by
    rw [shape, List.length_cons] at enough
    omega⟩
  cases v with
  | array items => exact absurd rfl (scalar items)
  | object members => exact absurd rfl (scalar' members)
  | null =>
    rw [Spelled] at spelled
    simp [draftValue, starts, spelled, draftWord, scanWord, asDraft]
  | bool b =>
    rw [Spelled] at spelled
    cases b <;> simp [draftValue, starts, spelled, draftWord, scanWord, asDraft]
  | number n =>
    rw [Spelled] at spelled
    obtain ⟨d, digits, written, digit⟩ := exists_cons_toDigits n
    have scanned := scanNumber_toDigits n ends
    rw [spelled, written, List.cons_append] at starts
    rw [written, List.cons_append] at scanned
    have others : d ≠ '[' ∧ d ≠ '{' ∧ d ≠ '"' ∧ d ≠ 'n' ∧ d ≠ 't' ∧ d ≠ 'f' := by
      refine ⟨?_, ?_, ?_, ?_, ?_, ?_⟩ <;> rintro rfl <;> exact absurd digit (by decide)
    simp [draftValue, starts, others, digit?_of_isDigit digit, draftNumber, scanned, asDraft]
  | string s =>
    rw [Spelled] at spelled
    obtain ⟨body, rfl, spelled⟩ := spelled
    have room := length_le_of_stringBody spelled
    simp only [List.cons_append, List.length_cons, List.length_append] at enough
    have read := scanString_of_stringBody spelled rest fuel (by omega)
    simp [draftValue, starts, draftString, read, asDraft]

mutual

/-- A value is read from any text of it, behind any blanks and up to the text after it. The reader
takes at most three steps for each character of the text. -/
theorem draftValue_of_spelled (v : Value) {core : List Char} (spelled : v.Spelled core) (fuel : Nat)
    (text rest : List Char) (starts : skipBlanks text = core ++ rest)
    (enough : 3 * core.length ≤ fuel) (ends : EndsNumber rest) :
    draftValue fuel text = (v.asDraft, some rest) := by
  match v with
  | .null | .bool _ | .number _ | .string _ =>
    exact draftValue_scalar (by simp) (by simp) spelled starts enough ends
  | .array items =>
    rw [Spelled] at spelled
    obtain ⟨inner, rfl, spelled⟩ := spelled
    simp only [List.cons_append, List.length_cons, List.length_append] at enough
    obtain ⟨fuel, rfl⟩ : ∃ k, fuel = k + 1 := ⟨fuel - 1, by omega⟩
    have read := draftItems_of_spelled items spelled fuel rest (by omega)
    simp only [List.cons_append, List.append_assoc, List.nil_append] at starts
    exact draftValue_of_items starts read
  | .object members =>
    rw [Spelled] at spelled
    obtain ⟨inner, rfl, spelled⟩ := spelled
    simp only [List.cons_append, List.length_cons, List.length_append] at enough
    obtain ⟨fuel, rfl⟩ : ∃ k, fuel = k + 1 := ⟨fuel - 1, by omega⟩
    have read := draftMembers_of_spelled members spelled fuel rest (by omega)
    simp only [List.cons_append, List.append_assoc, List.nil_append] at starts
    exact draftValue_of_members starts read

theorem draftItems_of_spelled {first : Bool} (items : List Value) {text : List Char}
    (spelled : ItemsSpelled first items text) (fuel : Nat) (rest : List Char)
    (enough : 3 * text.length + 1 < fuel) :
    draftItems fuel first (text ++ ']' :: rest) = (asDrafts items, .closed, some rest) := by
  match items with
  | [] =>
    rw [ItemsSpelled] at spelled
    obtain ⟨fuel, rfl⟩ : ∃ k, fuel = k + 1 := ⟨fuel - 1, by omega⟩
    refine draftItems_close ?_
    rw [skipBlanks_append spelled]
    rfl
  | item :: items =>
    rw [ItemsSpelled] at spelled
    obtain ⟨_, others, rfl, ⟨before, core, after, rfl, blank, value, blank'⟩, more⟩ := spelled
    obtain ⟨c, shape, shown, -, inside⟩ := exists_cons_of_spelled value
    have length : 1 ≤ core.length := by
      rw [shown, List.length_cons]
      omega
    simp only [List.length_append] at enough
    obtain ⟨fuel, rfl⟩ : ∃ k, fuel = k + 2 := ⟨fuel - 2, by omega⟩
    have begins (text : List Char) : skipBlanks (before ++ (core ++ text)) = core ++ text := by
      rw [skipBlanks_append blank, skipBlanks_spelled value]
    -- Behind the element comes a blank, a comma or the bracket, none of which goes on with a
    -- number.
    have ends := endsNumber_blanks blank' (endsNumber_items more (endsNumber_cons rest
      (show Text.digit? ']' = none ∧ ']' ≠ '.' ∧ ']' ≠ 'e' ∧ ']' ≠ 'E' by decide)))
    have read := draftValue_of_spelled item value fuel _ _ (begins _) (by omega) ends
    have tail := draftItems_of_spelled items more fuel rest (by omega)
    rw [← draftItems_blanks blank'] at tail
    have starts (text : List Char) :
        skipBlanks (before ++ (core ++ text)) = c :: (shape ++ text) := by
      rw [begins, shown]
      rfl
    simp only [List.append_assoc]
    exact draftItems_of_value (starts _) inside read tail

theorem draftMembers_of_spelled {first : Bool} (members : List (String × Value)) {text : List Char}
    (spelled : MembersSpelled first members text) (fuel : Nat) (rest : List Char)
    (enough : 3 * text.length + 1 < fuel) :
    draftMembers fuel first (text ++ '}' :: rest) = (asMembers members, .closed, some rest) := by
  match members with
  | [] =>
    rw [MembersSpelled] at spelled
    obtain ⟨fuel, rfl⟩ : ∃ k, fuel = k + 1 := ⟨fuel - 1, by omega⟩
    refine draftMembers_close ?_
    rw [skipBlanks_append spelled]
    rfl
  | (key, item) :: members =>
    rw [MembersSpelled] at spelled
    obtain ⟨_, _, others, rfl, ⟨before, _, after, rfl, blank, ⟨body, rfl, name⟩, blank'⟩,
      ⟨front, core, back, rfl, blankFront, value, blankBack⟩, more⟩ := spelled
    have room := length_le_of_stringBody name
    simp only [List.length_append, List.length_cons] at enough
    obtain ⟨fuel, rfl⟩ : ∃ k, fuel = k + 2 := ⟨fuel - 2, by omega⟩
    -- Behind the value comes a blank, a comma or the brace, none of which goes on with a number.
    have ends := endsNumber_blanks blankBack (endsNumber_members more (endsNumber_cons rest
      (show Text.digit? '}' = none ∧ '}' ≠ '.' ∧ '}' ≠ 'e' ∧ '}' ≠ 'E' by decide)))
    have begins (text : List Char) : skipBlanks (front ++ (core ++ text)) = core ++ text := by
      rw [skipBlanks_append blankFront, skipBlanks_spelled value]
    have read := draftValue_of_spelled item value fuel _ _ (begins _) (by omega) ends
    have tail := draftMembers_of_spelled members more fuel rest (by omega)
    rw [← draftMembers_blanks blankBack] at tail
    simp only [List.append_assoc, List.cons_append]
    refine draftMembers_of_value (by omega) name blank' ?_ read tail
    rw [skipBlanks_append blank]
    simp [skipBlanks_of_not_blank (show isBlank '"' = false from rfl)]

end

/-- The document in any text of a value is this value and nothing more. -/
theorem ofText_of_spelled {v : Value} {text : List Char} (spelled : Padded v.Spelled text) :
    Document.ofText (String.ofList text) = ⟨v.asDraft, false⟩ := by
  obtain ⟨before, core, after, rfl, blank, value, blank'⟩ := spelled
  have starts : skipBlanks (before ++ core ++ after) = core ++ after := by
    rw [List.append_assoc, skipBlanks_append blank, skipBlanks_spelled value]
  have ends := endsNumber_blanks blank' (show EndsNumber [] from nofun)
  rw [List.append_nil] at ends
  have read := draftValue_of_spelled v value (3 * (before ++ core ++ after).length + 3) _ _ starts
    (by simp only [List.length_append]; omega) ends
  have blankRest : skipBlanks after = [] := by
    have all := skipBlanks_append blank' []
    rwa [List.append_nil] at all
  simp only [Document.ofText, String.toList_ofList, read, blankRest]
  rfl

end WrapperSynthesis.Json
