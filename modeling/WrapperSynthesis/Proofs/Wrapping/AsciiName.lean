import WrapperSynthesis.Proofs.Wrapping.PascalCase

/-! Upper camel case on ASCII texts. No letter or digit is lost, none is added, and only the case of
letters changes (`map_toLower_upperCamel`); a piece between separators makes words of its own, the
first of which begins with a capital when the piece begins with a letter (`words_of_piece`). So
methods that ask for one polling handle are spelled with the same letters and digits
(`Method.letters_eq_of_key`). -/

namespace WrapperSynthesis

namespace Text

def IsAscii (text : List Char) : Prop := ∀ c ∈ text, c.toNat < 128

instance (text : List Char) : Decidable (IsAscii text) :=
  List.decidableBAll (fun c : Char => c.toNat < 128) text

/-- The letters and digits of a text, in small form. -/
def lowered (text : List Char) : List Char := (text.filter Char.isAlphanum).map Char.toLower

/-- A property of the ASCII characters is decided by going through them. -/
theorem forall_ascii {P : Char → Prop} (each : ∀ n : Fin 128, P (Char.ofNat n)) {c : Char}
    (ascii : c.toNat < 128) : P c := by
  have h := each ⟨c.toNat, ascii⟩
  rwa [Char.ofNat_toNat] at h

theorem isAlphanum_toUpper {c : Char} (ascii : c.toNat < 128) :
    c.toUpper.isAlphanum = c.isAlphanum :=
  forall_ascii (P := fun c => c.toUpper.isAlphanum = c.isAlphanum) (by decide) ascii

theorem isAlphanum_toLower {c : Char} (ascii : c.toNat < 128) :
    c.toLower.isAlphanum = c.isAlphanum :=
  forall_ascii (P := fun c => c.toLower.isAlphanum = c.isAlphanum) (by decide) ascii

theorem toLower_toUpper {c : Char} (ascii : c.toNat < 128) : c.toUpper.toLower = c.toLower :=
  forall_ascii (P := fun c => c.toUpper.toLower = c.toLower) (by decide) ascii

theorem toLower_toLower {c : Char} (ascii : c.toNat < 128) : c.toLower.toLower = c.toLower :=
  forall_ascii (P := fun c => c.toLower.toLower = c.toLower) (by decide) ascii

theorem isUpper_toUpper {c : Char} (ascii : c.toNat < 128) (letter : c.isAlpha = true) :
    c.toUpper.isUpper = true :=
  forall_ascii (P := fun c => c.isAlpha = true → c.toUpper.isUpper = true) (by decide) ascii letter

theorem isAlphanumeric_of_ascii {c : Char} (ascii : c.toNat < 128) :
    isAlphanumeric c = c.isAlphanum := by
  rw [isAlphanumeric, if_pos ascii]

theorem lowered_append (a b : List Char) : lowered (a ++ b) = lowered a ++ lowered b := by
  rw [lowered, List.filter_append, List.map_append]
  rfl

theorem lowered_flatMap {α : Type} (f : α → List Char) (l : List α) :
    lowered (l.flatMap f) = l.flatMap fun a => lowered (f a) := by
  rw [lowered, List.filter_flatMap, List.map_flatMap]
  rfl

/-! ### The words of a text -/

theorem of_mem_words {text word : List Char} (hw : word ∈ words text) {c : Char} (hc : c ∈ word) :
    c ∈ text ∧ isAlphanumeric c = true := by
  have h := List.mem_flatten_of_mem hw hc
  rwa [flatten_words, List.mem_filter] at h

theorem smallTail_of_ascii {text : List Char} (ascii : IsAscii text) :
    smallTail text = text.map Char.toLower := by
  induction text with
  | nil => rfl
  | cons c text ih =>
    have first : c.toNat < 128 := ascii c List.mem_cons_self
    have later := ih fun d hd => ascii d (List.mem_cons_of_mem c hd)
    unfold smallTail
    split
    · contradiction
    · rename_i sigma
      cases sigma
      exact absurd first (by decide)
    · rename_i same
      cases same
      rw [later, smalls, if_pos first]
      rfl

theorem capitalized_of_ascii {c : Char} {word : List Char} (ascii : IsAscii (c :: word)) :
    capitalized (c :: word) = c.toUpper :: word.map Char.toLower := by
  rw [capitalized, smallTail_of_ascii fun d hd => ascii d (List.mem_cons_of_mem c hd), capitals,
    if_pos (ascii c List.mem_cons_self)]
  rfl

theorem map_toLower_capitalized {word : List Char} (ascii : IsAscii word) :
    (capitalized word).map Char.toLower = word.map Char.toLower := by
  cases word with
  | nil => rfl
  | cons c word =>
    rw [capitalized_of_ascii ascii, List.map_cons, List.map_cons, List.map_map,
      toLower_toUpper (ascii c List.mem_cons_self)]
    congr 1
    exact List.map_congr_left fun d hd => toLower_toLower (ascii d (List.mem_cons_of_mem c hd))

theorem isAlphanum_of_mem_capitalized {word : List Char} (ascii : IsAscii word)
    (letters : ∀ c ∈ word, c.isAlphanum = true) : ∀ c ∈ capitalized word, c.isAlphanum = true := by
  cases word with
  | nil => exact nofun
  | cons c word =>
    rw [capitalized_of_ascii ascii]
    intro d hd
    rcases List.mem_cons.mp hd with rfl | hd
    · rw [isAlphanum_toUpper (ascii c List.mem_cons_self)]
      exact letters c List.mem_cons_self
    · obtain ⟨e, he, rfl⟩ := List.mem_map.mp hd
      rw [isAlphanum_toLower (ascii e (List.mem_cons_of_mem c he))]
      exact letters e (List.mem_cons_of_mem c he)

theorem IsAscii.of_mem_words {text word : List Char} (ascii : IsAscii text)
    (hw : word ∈ words text) : IsAscii word :=
  fun c hc => ascii c (Text.of_mem_words hw hc).1

theorem map_toLower_upperCamel {text : List Char} (ascii : IsAscii text) :
    (upperCamel text).map Char.toLower = lowered text := by
  have plain : text.filter Char.isAlphanum = text.filter isAlphanumeric :=
    List.filter_congr fun c hc => (isAlphanumeric_of_ascii (ascii c hc)).symm
  calc (upperCamel text).map Char.toLower
      = (words text).flatMap fun word => (capitalized word).map Char.toLower := List.map_flatMap
    _ = ((words text).map (List.map Char.toLower)).flatten := by
        rw [List.flatMap_def]
        exact congrArg List.flatten <| List.map_congr_left fun word hw =>
          map_toLower_capitalized (ascii.of_mem_words hw)
    _ = (words text).flatten.map Char.toLower := List.map_flatten.symm
    _ = lowered text := by rw [flatten_words, lowered, plain]

theorem isAlphanum_of_mem_upperCamel {text : List Char} (ascii : IsAscii text) :
    ∀ c ∈ upperCamel text, c.isAlphanum = true := by
  intro c hc
  obtain ⟨word, hw, hc⟩ := List.mem_flatMap.mp hc
  refine isAlphanum_of_mem_capitalized (ascii.of_mem_words hw) (fun d hd => ?_) c hc
  obtain ⟨found, letter⟩ := of_mem_words hw hd
  rwa [isAlphanumeric_of_ascii (ascii d found)] at letter

/-! ### Pieces between separators -/

/-- A piece of letters and digits that stands between two texts and cannot be made longer. -/
structure IsPiece (before piece after : List Char) : Prop where
  alphanumeric : ∀ c ∈ piece, c.isAlphanum = true
  starts : ∀ c, before.getLast? = some c → c.isAlphanum = false
  ends : ∀ c, after.head? = some c → c.isAlphanum = false

theorem words_nil : words [] = [] := rfl

theorem words_append_of_ends {text after : List Char} (ascii : IsAscii after)
    (ends : ∀ c, after.head? = some c → c.isAlphanum = false) :
    words (text ++ after) = words text ++ words after := by
  cases after with
  | nil => rw [words_nil, List.append_nil, List.append_nil]
  | cons c after =>
    have separator : isAlphanumeric c = false := by
      rw [isAlphanumeric_of_ascii (ascii c List.mem_cons_self)]
      exact ends c rfl
    have alone := words_append_cons separator [] after
    rw [List.nil_append, words_nil, List.nil_append] at alone
    rw [words_append_cons separator, alone]

theorem words_append_of_starts {before text : List Char} (ascii : IsAscii before)
    (starts : ∀ c, before.getLast? = some c → c.isAlphanum = false) :
    words (before ++ text) = words before ++ words text := by
  rcases List.eq_nil_or_concat before with rfl | ⟨front, c, rfl⟩
  · rfl
  · have separator : isAlphanumeric c = false := by
      rw [isAlphanumeric_of_ascii (ascii c (by simp))]
      exact starts c (by simp)
    rw [List.concat_eq_append, List.append_assoc, List.singleton_append,
      words_append_cons separator, words_append_cons separator, words_nil, List.append_nil]

theorem pieces_of_not_separates {separates : Char → Bool} {text : List Char}
    (none : ∀ c ∈ text, separates c = false) : pieces separates text = [text] := by
  induction text with
  | nil => rfl
  | cons c text ih =>
    rw [pieces, ih fun d hd => none d (List.mem_cons_of_mem c hd), none c List.mem_cons_self]
    rfl

/-- The first word of a piece begins where the piece does. -/
theorem exists_wordsFrom_boundary (c : Char) (piece : List Char) :
    ∃ word more, wordsFrom .boundary (c :: piece) = (c :: word) :: more := by
  cases piece with
  | nil => exact ⟨[], [], rfl⟩
  | cons next rest =>
    rw [wordsFrom]
    split
    · exact ⟨[], _, rfl⟩
    · rw [if_neg (by simp)]
      cases wordsFrom (CaseMode.boundary.next c) (next :: rest) with
      | nil => exact ⟨[], [], rfl⟩
      | cons word more => exact ⟨word, more, rfl⟩

/-- A piece makes words of its own. The first of them begins with a capital when the piece begins
with a letter. -/
theorem words_of_piece {before piece after : List Char} {c : Char}
    (ascii : IsAscii (before ++ c :: piece ++ after)) (whole : IsPiece before (c :: piece) after)
    (letter : c.isAlpha = true) :
    words (before ++ c :: piece ++ after) =
        words before ++ words (c :: piece) ++ words after ∧
      ∃ word more, words (c :: piece) = (c :: word) :: more ∧
        capitalized (c :: word) = c.toUpper :: word.map Char.toLower ∧
          c.toUpper.isUpper = true := by
  have front : IsAscii before := fun d hd => ascii d (by simp [hd])
  have middle : IsAscii (c :: piece) := fun d hd =>
    ascii d (List.mem_append_left after (List.mem_append_right before hd))
  have back : IsAscii after := fun d hd => ascii d (List.mem_append_right _ hd)
  have single : words (c :: piece) = wordsFrom .boundary (c :: piece) := by
    rw [words, pieces_of_not_separates, List.flatMap_singleton]
    intro d hd
    rw [isAlphanumeric_of_ascii (middle d hd), whole.alphanumeric d hd]
    rfl
  obtain ⟨word, more, first⟩ := exists_wordsFrom_boundary c piece
  have found : c :: word ∈ words (c :: piece) := by
    rw [single, first]
    exact List.mem_cons_self
  refine ⟨?_, word, more, single.trans first, capitalized_of_ascii (middle.of_mem_words found),
    isUpper_toUpper (middle c List.mem_cons_self) letter⟩
  rw [words_append_of_ends back whole.ends, words_append_of_starts front whole.starts]

end Text

open Text

/-! ### Names of handles -/

theorem toList_pascalCase (parts : List String) :
    (pascalCase parts).toList =
      (parts.flatMap fun part => words part.toList).flatMap capitalized := by
  rw [pascalCase, String.toList_ofList, List.flatMap_assoc]
  rfl

theorem pascalCase_append (parts more : List String) :
    pascalCase (parts ++ more) = pascalCase parts ++ pascalCase more := by
  rw [pascalCase, List.flatMap_append, String.ofList_append]
  rfl

theorem listAllName_pascalCase (m : Method) :
    m.listAllName pascalCase = m.handleName pascalCase ++ "All" :=
  pascalCase_append [m.group, m.name] ["All"]

namespace Method

/-- The group and the name of the method are ASCII texts. -/
def IsAscii (m : Method) : Prop := Text.IsAscii (m.group ++ m.name).toList

instance (m : Method) : Decidable m.IsAscii :=
  inferInstanceAs (Decidable (Text.IsAscii (m.group ++ m.name).toList))

/-- The letters and digits of the method's group and name, in small form. -/
def letters (m : Method) : List Char := lowered (m.group ++ m.name).toList

theorem map_toLower_upperCamel_qualifiedName {m : Method} (ascii : m.IsAscii) :
    (upperCamel m.qualifiedName.toList).map Char.toLower = m.letters := by
  have group : Text.IsAscii m.group.toList := fun c hc => ascii c (by simp [hc])
  have name : Text.IsAscii m.name.toList := fun c hc => ascii c (by simp [hc])
  rw [qualifiedName, upperCamel_qualifiedName, List.map_append, map_toLower_upperCamel group,
    map_toLower_upperCamel name, ← lowered_append, ← String.toList_append]
  rfl

variable {m m' : Method} {kind kind' : OperationKind} {h h' : PollingHandle}

/-- Methods that ask for handles of one key have the same letters and digits. -/
theorem letters_eq_of_key (ascii : m.IsAscii) (ascii' : m'.IsAscii)
    (hm : h ∈ m.handles pascalCase kind) (hm' : h' ∈ m'.handles pascalCase kind')
    (same : h.key = h'.key) : m.letters = m'.letters := by
  rw [PollingHandle.key, PollingHandle.key, TypeKey.pollingHandle.injEq] at same
  have camel := congrArg String.toList same.1
  rw [toList_name_of_mem_handles hm, toList_name_of_mem_handles hm', same.2,
    List.append_cancel_right_eq, origin_of_mem_handles hm, origin_of_mem_handles hm'] at camel
  rw [← map_toLower_upperCamel_qualifiedName ascii, ← map_toLower_upperCamel_qualifiedName ascii',
    camel]

end Method

end WrapperSynthesis
