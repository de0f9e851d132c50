import Mathlib.Data.List.Forall2
import Mathlib.Tactic.SplitIfs
import WrapperSynthesis.Json.Scan
import WrapperSynthesis.Json.Value

/-! Strings and numbers are read as they were spelled. In a string there are several ways to spell a
character (`CharText`), of which a writer takes one (`charText_escaped`); the digits of a number
spell it without a zero in front (`scanNumber_toDigits`). -/

namespace WrapperSynthesis.Json

/-! ### Strings -/

/-- The texts that stand for a character in a string: the character itself, an escape of one letter,
its code in four hexadecimal digits, or two such codes for the halves of a surrogate pair. -/
inductive CharText : Char → List Char → Prop where
  | plain {c : Char} (visible : 32 ≤ c.toNat) (quote : c ≠ '"') (backslash : c ≠ '\\') :
      CharText c [c]
  | short {c e : Char} (stands : shortEscape? e = some c) : CharText c ['\\', e]
  | code {c : Char} {digits : List Char} (four : digits.length = 4)
      (spells : Text.natural? 16 digits = some c.toNat) : CharText c ('\\' :: 'u' :: digits)
  | pair {c : Char} {high low : List Char} (beyond : 0x10000 ≤ c.toNat) (four : high.length = 4)
      (spells : Text.natural? 16 high = some (0xD800 + (c.toNat - 0x10000) / 0x400))
      (four' : low.length = 4)
      (spells' : Text.natural? 16 low = some (0xDC00 + (c.toNat - 0x10000) % 0x400)) :
      CharText c ('\\' :: 'u' :: high ++ '\\' :: 'u' :: low)

/-- The texts that stand for a string between its quotes. -/
def StringBody (s text : List Char) : Prop :=
  ∃ pieces, List.Forall₂ CharText s pieces ∧ text = pieces.flatten

theorem hexQuad_append {digits : List Char} {n : Nat} (four : digits.length = 4)
    (spells : Text.natural? 16 digits = some n) (rest : List Char) :
    hexQuad (digits ++ rest) = .ok (n, rest) := by
  match digits, four with
  | [a, b, c, d], _ =>
    simp only [Text.natural?, Text.ofDigits, reduceCtorEq, ite_false, List.mapM_cons, List.mapM_nil,
      Option.map_eq_some_iff, bind, Option.bind_eq_some_iff, pure, Option.filter_eq_some_iff,
      Option.some.injEq] at spells
    obtain ⟨_, ⟨i, ⟨hi, -⟩, _, ⟨j, ⟨hj, -⟩, _, ⟨k, ⟨hk, -⟩, _, ⟨l, ⟨hl, -⟩, _, rfl, rfl⟩, rfl⟩,
      rfl⟩, rfl⟩, rfl⟩ := spells
    simp only [List.cons_append, List.nil_append, hexQuad, hi, hj, hk, hl, List.foldl_cons,
      List.foldl_nil, Except.ok.injEq, Prod.mk.injEq, and_true]
    omega

/-- No character is half of a surrogate pair. -/
theorem toNat_cases (c : Char) : c.toNat < 0xD800 ∨ 0xDFFF < c.toNat ∧ c.toNat < 0x110000 := c.valid

/-- A spelled character takes one step. -/
theorem scanString_of_charText {c : Char} {text : List Char} (spelled : CharText c text)
    (fuel : Nat) (rest : List Char) :
    scanString (fuel + 1) (text ++ rest) = (scanString fuel rest).push c := by
  cases spelled with
  | plain visible quote backslash =>
    have printable : ¬c.toNat < 32 := by omega
    simp [scanString, quote, backslash, printable]
  | short stands =>
    rename_i e
    have other : e ≠ 'u' := by
      rintro rfl
      cases stands
    simp [scanString, other, stands]
  | code four spells =>
    -- The four digits stand for the character itself, which is no half of a pair.
    have whole := toNat_cases c
    have leading : isLeading c.toNat = false := by simp [isLeading]; omega
    have trailing : isTrailing c.toNat = false := by simp [isTrailing]; omega
    simp [scanString, hexQuad_append four spells, leading, trailing]
  | pair beyond four spells four' spells' =>
    rename_i high low
    -- The two halves lie in the ranges by which a reader tells them.
    have whole := toNat_cases c
    have leading : isLeading (0xD800 + (c.toNat - 0x10000) / 0x400) = true := by
      simp [isLeading]; omega
    have trailing : isTrailing (0xD800 + (c.toNat - 0x10000) / 0x400) = false := by
      simp [isTrailing]; omega
    have second : isTrailing (0xDC00 + (c.toNat - 0x10000) % 0x400) = true := by
      simp [isTrailing]; omega
    have quad := hexQuad_append four spells ('\\' :: 'u' :: (low ++ rest))
    have half : secondHalf ('\\' :: 'u' :: (low ++ rest)) =
        .ok (some (0xDC00 + (c.toNat - 0x10000) % 0x400, rest)) := by
      simp [secondHalf, hexQuad_append four' spells', second]
    have code : 0x10000 + (0xD800 + (c.toNat - 0x10000) / 0x400 - 0xD800) * 0x400 +
        (0xDC00 + (c.toNat - 0x10000) % 0x400 - 0xDC00) = c.toNat := by
      omega
    simp only [List.cons_append, List.append_assoc, scanString, quad, trailing, leading, half, code,
      Char.ofNat_toNat]
    simp

theorem scanString_of_stringBody {s text : List Char} (spelled : StringBody s text)
    (rest : List Char) (fuel : Nat) (enough : s.length < fuel) :
    scanString fuel (text ++ '"' :: rest) = .closed (some s) rest := by
  obtain ⟨pieces, spelled, rfl⟩ := spelled
  induction spelled generalizing fuel with
  | nil =>
    obtain ⟨fuel, rfl⟩ : ∃ k, fuel = k + 1 := ⟨fuel - 1, by simp at enough; omega⟩
    simp [scanString]
  | cons first others ih =>
    obtain ⟨fuel, rfl⟩ : ∃ k, fuel = k + 1 := ⟨fuel - 1, by omega⟩
    rw [List.length_cons] at enough
    rw [List.flatten_cons, List.append_assoc, scanString_of_charText first, ih fuel (by omega)]
    rfl

/-- A character is written as it may be spelled. -/
theorem charText_escaped (c : Char) : CharText c (escaped c) := by
  have low (n : Nat) : n < 16 → Text.natural? 16 ['0', '0', '0', Nat.digitChar n] = some n := by
    revert n
    decide
  have high (n : Nat) :
      n < 16 → Text.natural? 16 ['0', '0', '1', Nat.digitChar n] = some (16 + n) := by
    revert n
    decide
  unfold escaped
  split_ifs with h₁ h₂ h₃ h₄ h₅ h₆ h₇ h₈ h₉
  · exact .short (by rw [h₁]; rfl)
  · exact .short (by rw [h₂]; rfl)
  · exact .short (by rw [h₃]; rfl)
  · exact .short (by rw [h₄]; rfl)
  · exact .short (by rw [h₅]; rfl)
  · exact .short (by rw [h₆]; rfl)
  · exact .short (by rw [h₇]; rfl)
  · exact .code rfl (low c.toNat h₈)
  · have spells := high (c.toNat - 16) (by omega)
    rw [show 16 + (c.toNat - 16) = c.toNat by omega] at spells
    exact .code rfl spells
  · exact .plain (Nat.not_lt.mp h₉) h₁ h₂

theorem stringBody_escaped (s : List Char) : StringBody s (s.flatMap escaped) := by
  refine ⟨s.map escaped, ?_, List.flatMap_def⟩
  induction s with
  | nil => exact .nil
  | cons c s ih => exact .cons (charText_escaped c) ih

/-! ### Numbers -/

/-- The values of decimal digits. -/
def digitValues (digits : List Char) : List Nat := digits.map fun c => c.toNat - '0'.toNat

/-- Nothing at the start of the text goes on with a number. -/
def EndsNumber (text : List Char) : Prop :=
  ∀ c rest, text = c :: rest → Text.digit? c = none ∧ c ≠ '.' ∧ c ≠ 'e' ∧ c ≠ 'E'

theorem digit?_of_isDigit {c : Char} (h : c.isDigit = true) :
    Text.digit? c = some (c.toNat - '0'.toNat) := by
  simp only [Char.isDigit, Bool.and_eq_true, decide_eq_true_eq, ge_iff_le] at h
  have bounds : '0' ≤ c ∧ c ≤ '9' := h
  simp [Text.digit?, bounds.1, bounds.2]

theorem spanDigits_append {digits rest : List Char} (h : ∀ c ∈ digits, c.isDigit = true)
    (ends : EndsNumber rest) : spanDigits (digits ++ rest) = (digitValues digits, rest) := by
  induction digits with
  | nil =>
    cases rest with
    | nil => rfl
    | cons c rest => simp [spanDigits, (ends c rest rfl).1, digitValues]
  | cons c digits ih =>
    rw [List.cons_append, spanDigits, digit?_of_isDigit (h c List.mem_cons_self)]
    simp only [ih fun d hd => h d (List.mem_cons_of_mem c hd)]
    rfl

theorem ofDigits_digitValues_toDigits (n : Nat) :
    Text.ofDigits 10 (digitValues (Nat.toDigits 10 n)) = n := by
  rw [Text.ofDigits, digitValues, List.foldl_map]
  exact Nat.ofDigitChars_ten_toDigits

/-- The digits of a number have no zero in front, unless they are this zero alone. -/
theorem exists_digitValues_toDigits (n : Nat) :
    ∃ d more, digitValues (Nat.toDigits 10 n) = d :: more ∧ (d = 0 → more = []) := by
  induction n using Nat.strongRecOn with
  | _ n ih =>
    by_cases small : n < 10
    · rw [Nat.toDigits_of_lt_base small]
      exact ⟨_, [], rfl, fun _ => rfl⟩
    · have large : 10 ≤ n := Nat.not_lt.mp small
      obtain ⟨d, more, digits, lone⟩ := ih (n / 10) (Nat.div_lt_self (by omega) (by decide))
      rw [Nat.toDigits_of_base_le (by decide) large, digitValues, List.map_append, ← digitValues,
        digits]
      refine ⟨d, _, rfl, fun zero => ?_⟩
      have value := ofDigits_digitValues_toDigits (n / 10)
      rw [digits, zero, lone zero] at value
      have : n / 10 = 0 := value.symm
      omega

/-- A number as its written form spells it. -/
def Numeral.ofNat (n : Nat) : Numeral := ⟨false, digitValues (Nat.toDigits 10 n), [], none⟩

theorem Numeral.value?_ofNat {n : Nat} (h : n < wordBound) :
    (ofNat n).value? = some (.integer n) := by
  simp [value?, integer?, ofNat, ofDigits_digitValues_toDigits, h]

theorem scanWhole_toDigits (n : Nat) {rest : List Char} (ends : EndsNumber rest) :
    scanWhole (Nat.toDigits 10 n ++ rest) = .ok (digitValues (Nat.toDigits 10 n), rest) := by
  have digits : ∀ c ∈ Nat.toDigits 10 n, c.isDigit = true := fun c hc =>
    Nat.isDigit_of_mem_toDigits (by decide) (by decide) hc
  obtain ⟨d, more, values, lone⟩ := exists_digitValues_toDigits n
  rw [scanWhole, spanDigits_append digits ends, values]
  cases d with
  | zero => simp only [lone rfl]
  | succ d => rfl

theorem scanFraction_of_ends {rest : List Char} (ends : EndsNumber rest) :
    scanFraction rest = .ok ([], rest) := by
  unfold scanFraction
  split
  · rename_i text
    exact absurd rfl (ends '.' text rfl).2.1
  · rfl

theorem scanExponent_of_ends {rest : List Char} (ends : EndsNumber rest) :
    scanExponent rest = .ok (none, rest) := by
  cases rest with
  | nil => rfl
  | cons c rest =>
    obtain ⟨_, _, small, capital⟩ := ends c rest rfl
    simp [scanExponent, small, capital]

/-- A written number starts with a digit. -/
theorem exists_cons_toDigits (n : Nat) :
    ∃ c more, Nat.toDigits 10 n = c :: more ∧ c.isDigit = true := by
  cases digits : Nat.toDigits 10 n with
  | nil => exact absurd digits Nat.toDigits_ne_nil
  | cons c more =>
    refine ⟨c, more, rfl, Nat.isDigit_of_mem_toDigits (b := 10) (n := n) (by decide) (by decide) ?_⟩
    rw [digits]
    exact List.mem_cons_self

/-- A written number is read as it is spelled. -/
theorem scanNumber_toDigits (n : Nat) {rest : List Char} (ends : EndsNumber rest) :
    scanNumber (Nat.toDigits 10 n ++ rest) = .ok (.ofNat n, rest) := by
  obtain ⟨c, more, digits, digit⟩ := exists_cons_toDigits n
  have unsigned : c ≠ '-' := by
    rintro rfl
    exact absurd digit (by decide)
  have whole := scanWhole_toDigits n ends
  rw [digits, List.cons_append] at whole ⊢
  unfold scanNumber
  split
  rename_i negative text sign
  split at sign
  · rename_i minus
    exact absurd (List.cons.inj minus).1 unsigned
  · cases sign
    simp only [whole, scanFraction_of_ends ends, scanExponent_of_ends ends, bind, Except.bind]
    rw [← digits]
    rfl

end WrapperSynthesis.Json
