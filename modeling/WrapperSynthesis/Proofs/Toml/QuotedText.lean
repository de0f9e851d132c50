import Mathlib.Tactic.SplitIfs
import WrapperSynthesis.Toml.Quoted

/-! A string in quotes is read back as the text that was written, whichever of the four forms it has
(`scanQuoted_quoted`). The text behind the closing quotes may not begin with a further quote. -/

namespace WrapperSynthesis.Toml

/-! ### Characters -/

theorem hexDigit?_toUpper_digitChar {n : Nat} (h : n < 16) :
    Text.hexDigit? (Nat.digitChar n).toUpper = some n := by
  revert n
  decide

theorem scanHex_toNat (c : Char) (rest : List Char) : scanHex c.toNat 0 rest = some (c, rest) :=
  dif_pos (show c.toNat.isValidChar from c.valid)

theorem scanHex_cons (n digits : Nat) (c : Char) (rest : List Char) :
    scanHex n (digits + 1) (c :: rest) =
      (Text.hexDigit? c).bind fun d => scanHex (16 * n + d) digits rest := rfl

/-- An escape of four digits for a character of one byte. -/
theorem scanEscape_control {c : Char} (small : c.toNat < 256) (rest : List Char) :
    scanEscape ('u' :: '0' :: '0' :: (Nat.digitChar (c.toNat / 16)).toUpper ::
      (Nat.digitChar (c.toNat % 16)).toUpper :: rest) = some (c, rest) := by
  have zero : Text.hexDigit? '0' = some 0 := rfl
  have value : 16 * (c.toNat / 16) + c.toNat % 16 = c.toNat := Nat.div_add_mod _ _
  show scanHex 0 4 _ = _
  rw [← scanHex_toNat c rest]
  simp only [scanHex_cons, zero, hexDigit?_toUpper_digitChar (show c.toNat / 16 < 16 by omega),
    hexDigit?_toUpper_digitChar (Nat.mod_lt c.toNat (show 0 < 16 by decide)), Option.bind_some,
    Nat.mul_zero, Nat.zero_add, value]

/-- A backslash in front of this text ends no line. -/
theorem skipLineEnd_cons {c : Char} (rest : List Char) (solid : c ≠ ' ' ∧ c ≠ '\t')
    (unbroken : c ≠ '\n' ∧ c ≠ '\r') : skipLineEnd (c :: rest) = none := by
  simp [skipLineEnd, solid, unbroken]

/-- How a written character looks: an escape that stands for it, or the character itself. -/
theorem escaped_cases (multiline : Bool) (c : Char) :
    (∃ mark, escaped multiline c = '\\' :: mark ∧
      (∀ rest, scanEscape (mark ++ rest) = some (c, rest)) ∧
      ∀ rest, skipLineEnd (mark ++ rest) = none) ∨
    escaped multiline c = [c] ∧ c ≠ '\\' ∧ (c = '\n' → multiline = true) ∧
      (c ≠ '\n' → isControl c = false) := by
  have marked (e : Char) (solid : e ≠ ' ' ∧ e ≠ '\t') (unbroken : e ≠ '\n' ∧ e ≠ '\r') (more)
      (rest : List Char) : skipLineEnd (e :: more ++ rest) = none :=
    skipLineEnd_cons _ solid unbroken
  unfold escaped
  split_ifs with h₁ h₂ h₃ h₄ h₅ h₆ h₇ h₈
  · exact .inl ⟨_, rfl, fun rest => by rw [h₁]; rfl, marked 'b' (by decide) (by decide) _⟩
  · exact .inl ⟨_, rfl, fun rest => by rw [h₂]; rfl, marked 't' (by decide) (by decide) _⟩
  · exact .inr ⟨by rw [h₃], by rw [h₃]; decide, fun _ => h₄, fun other => absurd h₃ other⟩
  · exact .inl ⟨_, rfl, fun rest => by rw [h₃]; rfl, marked 'n' (by decide) (by decide) _⟩
  · exact .inl ⟨_, rfl, fun rest => by rw [h₅]; rfl, marked 'f' (by decide) (by decide) _⟩
  · exact .inl ⟨_, rfl, fun rest => by rw [h₆]; rfl, marked 'r' (by decide) (by decide) _⟩
  · exact .inl ⟨_, rfl, fun rest => by rw [h₇]; rfl, marked '\\' (by decide) (by decide) _⟩
  · refine .inl ⟨_, rfl, fun rest => scanEscape_control ?_ rest,
      marked 'u' (by decide) (by decide) _⟩
    simp at h₈
    omega
  · refine .inr ⟨rfl, h₇, fun line => absurd line h₃, fun _ => ?_⟩
    simp at h₈
    have large : ¬c.toNat < 32 := by omega
    simp [isControl, h₈, large]

/-! ### One line -/

theorem scanBasic_basicBody (text rest : List Char) (fuel : Nat) (enough : text.length < fuel) :
    scanBasic fuel (basicBody text ++ '"' :: rest) = some (text, rest) := by
  induction text generalizing fuel with
  | nil =>
    obtain ⟨fuel, rfl⟩ : ∃ k, fuel = k + 1 := ⟨fuel - 1, by simp at enough; omega⟩
    simp [basicBody, scanBasic]
  | cons c text ih =>
    obtain ⟨fuel, rfl⟩ : ∃ k, fuel = k + 1 := ⟨fuel - 1, by omega⟩
    rw [List.length_cons] at enough
    have later := ih fuel (by omega)
    unfold basicBody at later ⊢
    rw [List.flatMap_cons, List.append_assoc]
    by_cases quote : c = '"'
    · rw [if_pos quote, quote]
      simp [scanBasic, scanEscape, later, Scanned.push]
    · rw [if_neg quote]
      rcases escaped_cases false c with ⟨mark, written, read, -⟩ | ⟨written, solid, line, plain⟩
      · rw [written]
        simp [scanBasic, read, later, Scanned.push]
      · have visible : isControl c = false := plain fun h => absurd (line h) (by decide)
        rw [written]
        simp [scanBasic, quote, solid, visible, later, Scanned.push]

theorem scanLiteral_append {text : List Char} (rest : List Char) (unquoted : '\'' ∉ text)
    (visible : ∀ c ∈ text, isControl c = false) :
    scanLiteral (text ++ '\'' :: rest) = some (text, rest) := by
  induction text with
  | nil => simp [scanLiteral]
  | cons c text ih =>
    rw [List.mem_cons, not_or] at unquoted
    have later := ih unquoted.2 fun d hd => visible d (List.mem_cons_of_mem c hd)
    have other : c ≠ '\'' := fun h => unquoted.1 h.symm
    simp [scanLiteral, other, visible c List.mem_cons_self, later, Scanned.push]

/-! ### Several lines

A run of quotes that belongs to the text has at most two of them, and so does not close it, or it
stands right before the closing quotes, which are told from it by their number. -/

section

variable {q : Char}

theorem closing_of_inside {k : Nat} (few : k ≤ 2) {c : Char} (other : c ≠ q) (more : List Char) :
    closing q (List.replicate k q ++ c :: more) = none := by
  have run : (List.replicate k q ++ c :: more).takeWhile (· = q) = List.replicate k q := by
    rw [List.takeWhile_append_of_pos (by simp)]
    simp [other]
  simp only [closing, run, List.length_replicate]
  rw [if_pos (by omega)]

theorem closing_of_end {k : Nat} (few : k ≤ 2) {rest : List Char} (ends : rest.head? ≠ some q) :
    closing q (List.replicate k q ++ q :: q :: q :: rest) = some (k, rest) := by
  have whole : List.replicate k q ++ q :: q :: q :: rest = List.replicate (k + 3) q ++ rest := by
    rw [← List.replicate_append_replicate, List.append_assoc]
    rfl
  have none : rest.takeWhile (· = q) = [] := by
    cases rest with
    | nil => rfl
    | cons c rest =>
      rw [List.takeWhile_cons_of_neg]
      simpa using ends
  have run : (List.replicate (k + 3) q ++ rest).takeWhile (· = q) = List.replicate (k + 3) q := by
    rw [List.takeWhile_append_of_pos (by simp), none, List.append_nil]
  have five : min (k + 3) 5 = k + 3 := by omega
  simp only [whole, closing, run, List.length_replicate, five]
  rw [if_neg (by omega), List.drop_left' List.length_replicate]
  rfl

end

/-- The written text consists of few quotes, or it goes on differently behind them. -/
theorem exists_run_multilineBody {quotes : Nat} (few : quotes ≤ 2) (text : List Char) :
    ∃ k, quotes + k ≤ 2 ∧ ((text = List.replicate k '"' ∧ multilineBody quotes text = text) ∨
      ∃ c more, c ≠ '"' ∧ multilineBody quotes text = List.replicate k '"' ++ c :: more) := by
  induction text generalizing quotes with
  | nil => exact ⟨0, few, .inl ⟨rfl, rfl⟩⟩
  | cons c text ih =>
    rw [multilineBody]
    -- A third quote is escaped, one before it stands for itself, and any other character ends the
    -- run.
    split_ifs with quote third
    · exact ⟨0, few, .inr ⟨'\\', _, by decide, rfl⟩⟩
    · obtain ⟨k, bound, ⟨whole, same⟩ | ⟨d, more, other, body⟩⟩ := ih (show quotes + 1 ≤ 2 by omega)
      · exact ⟨k + 1, by omega, .inl ⟨by rw [quote, whole]; rfl, by rw [quote, same]⟩⟩
      · exact ⟨k + 1, by omega, .inr ⟨d, more, other, by rw [body]; rfl⟩⟩
    · rcases escaped_cases true c with ⟨mark, written, -⟩ | ⟨written, -⟩
      · exact ⟨0, few, .inr ⟨'\\', _, by decide, by rw [written]; rfl⟩⟩
      · exact ⟨0, few, .inr ⟨c, _, quote, by rw [written]; rfl⟩⟩

theorem scanMultilineBasic_multilineBody {quotes : Nat} (few : quotes ≤ 2) (text : List Char)
    {rest : List Char} (ends : rest.head? ≠ some '"') (fuel : Nat) (enough : text.length < fuel) :
    scanMultilineBasic fuel (multilineBody quotes text ++ '"' :: '"' :: '"' :: rest) =
      some (text, rest) := by
  induction text generalizing quotes fuel with
  | nil =>
    obtain ⟨fuel, rfl⟩ : ∃ k, fuel = k + 1 := ⟨fuel - 1, by simp at enough; omega⟩
    have closes := closing_of_end (show 0 ≤ 2 by decide) ends
    rw [List.replicate_zero, List.nil_append] at closes
    rw [multilineBody, List.nil_append, scanMultilineBasic, if_pos rfl, closes]
    rfl
  | cons c text ih =>
    obtain ⟨fuel, rfl⟩ : ∃ k, fuel = k + 1 := ⟨fuel - 1, by omega⟩
    rw [List.length_cons] at enough
    by_cases quote : c = '"'
    · subst quote
      by_cases third : quotes = 2
      · have unbroken (more : List Char) : skipLineEnd ('"' :: more) = none :=
          skipLineEnd_cons more (by decide) (by decide)
        have later := ih (show 0 ≤ 2 by decide) fuel (by omega)
        simp [multilineBody, third, scanMultilineBasic, unbroken, scanEscape, later, Scanned.push]
      · have later := ih (show quotes + 1 ≤ 2 by omega) fuel (by omega)
        obtain ⟨k, bound, run⟩ := exists_run_multilineBody few ('"' :: text)
        have body :
            multilineBody quotes ('"' :: text) = '"' :: multilineBody (quotes + 1) text := by
          simp [multilineBody, third]
        rw [body] at run ⊢
        rw [List.cons_append, scanMultilineBasic, if_pos rfl, ← List.cons_append]
        -- Where the text ends in quotes, those in front of the closing ones belong to it.
        rcases run with ⟨whole, same⟩ | ⟨d, more, other, front⟩
        · rw [same, whole, closing_of_end (by omega) ends]
        · rw [front, List.append_assoc, List.cons_append, closing_of_inside (by omega) other, later]
          rfl
    · have later := ih (show 0 ≤ 2 by decide) fuel (by omega)
      rw [multilineBody, if_neg quote, List.append_assoc]
      rcases escaped_cases true c with ⟨mark, written, read, unbroken⟩ | ⟨written, solid, -, plain⟩
      · rw [written]
        simp [scanMultilineBasic, unbroken, read, later, Scanned.push]
      · rw [written, List.singleton_append, scanMultilineBasic, if_neg quote, if_neg solid, later]
        by_cases line : c = '\n'
        · simp [line, Scanned.push]
        · simp [plain line, Scanned.push]

theorem longestRun_mono (q : Char) {m n : Nat} (h : m ≤ n) (text : List Char) :
    longestRun q m text ≤ longestRun q n text := by
  induction text generalizing m n with
  | nil => exact h
  | cons c text ih =>
    rw [longestRun, longestRun]
    split_ifs
    · exact ih (Nat.succ_le_succ h)
    · omega

theorem longestRun_tail_le (q c : Char) (text : List Char) :
    longestRun q 0 text ≤ longestRun q 0 (c :: text) := by
  rw [longestRun]
  split_ifs
  · exact longestRun_mono q (Nat.zero_le 1) text
  · exact Nat.le_max_right 0 _

/-- A text consists of quotes, or it goes on differently behind them. -/
theorem exists_run (q : Char) (length : Nat) (text : List Char) :
    ∃ k, length + k ≤ longestRun q length text ∧ (text = List.replicate k q ∨
      ∃ c more, c ≠ q ∧ text = List.replicate k q ++ c :: more) := by
  induction text generalizing length with
  | nil => exact ⟨0, Nat.le_refl _, .inl rfl⟩
  | cons c text ih =>
    rw [longestRun]
    split_ifs with quote
    · obtain ⟨k, bound, run⟩ := ih (length + 1)
      refine ⟨k + 1, by omega, ?_⟩
      rcases run with whole | ⟨d, more, other, front⟩
      · exact .inl (by rw [quote, whole]; rfl)
      · exact .inr ⟨d, more, other, by rw [quote, front]; rfl⟩
    · exact ⟨0, Nat.le_max_left _ _, .inr ⟨c, text, quote, rfl⟩⟩

theorem scanMultilineLiteral_append {text rest : List Char} (few : longestRun '\'' 0 text ≤ 2)
    (plain : ∀ c ∈ text, c ≠ '\n' → isControl c = false) (ends : rest.head? ≠ some '\'') :
    scanMultilineLiteral (text ++ '\'' :: '\'' :: '\'' :: rest) = some (text, rest) := by
  induction text with
  | nil =>
    have closes := closing_of_end (show 0 ≤ 2 by decide) ends
    rw [List.replicate_zero, List.nil_append] at closes
    rw [List.nil_append, scanMultilineLiteral, if_pos rfl, closes]
    rfl
  | cons c text ih =>
    have later := ih (Nat.le_trans (longestRun_tail_le _ c text) few) fun d hd =>
      plain d (List.mem_cons_of_mem c hd)
    by_cases quote : c = '\''
    · subst quote
      obtain ⟨k, bound, run⟩ := exists_run '\'' 0 ('\'' :: text)
      rw [List.cons_append, scanMultilineLiteral, if_pos rfl, ← List.cons_append]
      -- A run at the end is read with the closing quotes, and any other run is too short to close.
      rcases run with whole | ⟨d, more, other, front⟩
      · rw [whole, closing_of_end (by omega) ends]
      · rw [front, List.append_assoc, List.cons_append, closing_of_inside (by omega) other, later]
        rw [← front]
        rfl
    · rw [List.cons_append, scanMultilineLiteral, if_neg quote, later]
      by_cases line : c = '\n'
      · simp [line, Scanned.push]
      · simp [plain c List.mem_cons_self line, Scanned.push]

/-! ### All forms -/

theorem ne_return_of_not_isControl {c : Char} (visible : isControl c = false) : c ≠ '\r' := by
  rintro rfl
  exact absurd visible (by decide)

theorem scanQuoted_basic {text : List Char} (single : ∀ rest, text ≠ '"' :: '"' :: rest) :
    scanQuoted true ('"' :: text) = scanBasic (text.length + 1) text := by
  unfold scanQuoted
  split
  · rename_i rest three
    exact absurd (List.cons.inj three).2 (single rest)
  · rename_i three
    cases three
  · rename_i one
    cases one
    rfl
  · rename_i one
    cases one
  · rename_i none _
    exact absurd rfl (none text)

theorem scanQuoted_literal {text : List Char} (single : ∀ rest, text ≠ '\'' :: '\'' :: rest) :
    scanQuoted true ('\'' :: text) = scanLiteral text := by
  unfold scanQuoted
  split
  · rename_i three
    cases three
  · rename_i rest three
    exact absurd (List.cons.inj three).2 (single rest)
  · rename_i one
    cases one
  · rename_i one
    cases one
    rfl
  · rename_i none
    exact absurd rfl (none text)

theorem not_mem_of_longestRun_eq_zero {q : Char} {text : List Char}
    (none : longestRun q 0 text = 0) : q ∉ text := by
  induction text with
  | nil => exact List.not_mem_nil
  | cons c text ih =>
    have tail := longestRun_tail_le q c text
    rw [List.mem_cons, not_or]
    refine ⟨?_, ih (by omega)⟩
    rintro rfl
    obtain ⟨k, bound, -⟩ := exists_run q (0 + 1) text
    rw [longestRun, if_pos rfl] at none
    omega

/-- What the form of a string says about its text, as far as its reader relies on it. -/
theorem quoteForm_cases (text : List Char) :
    quoteForm text = .basic ∨
    (quoteForm text = .literal ∧ '\'' ∉ text ∧ ∀ c ∈ text, isControl c = false) ∨
    quoteForm text = .multilineBasic ∨
    quoteForm text = .multilineLiteral ∧ longestRun '\'' 0 text ≤ 2 ∧
      ∀ c ∈ text, c ≠ '\n' → isControl c = false := by
  have uncontrolled (none : text.any (fun c => isControl c && c ≠ '\n') = false) :
      ∀ c ∈ text, c ≠ '\n' → isControl c = false := by
    intro c hc other
    simpa [other] using List.any_eq_false.mp none c hc
  unfold quoteForm
  simp only
  split_ifs with h₁ h₂ h₃ h₄ h₅
  · exact .inl rfl
  · simp only [Bool.and_eq_true, Bool.not_eq_true', List.contains_eq_mem, decide_eq_false_iff_not,
      decide_eq_true_eq] at h₂
    exact .inr (.inl ⟨rfl, not_mem_of_longestRun_eq_zero h₂.2, fun c hc =>
      uncontrolled h₂.1.2 c hc fun line => h₂.1.1 (line ▸ hc)⟩)
  · exact .inr (.inr (.inl rfl))
  · simp only [Bool.and_eq_true, Bool.not_eq_true', decide_eq_true_eq] at h₄
    exact .inr (.inr (.inr ⟨rfl, h₄.2, uncontrolled h₄.1⟩))
  · exact .inr (.inr (.inl rfl))
  · exact .inl rfl

theorem skipLeadingBreak_append {text body : List Char}
    (unbroken : '\n' ∉ text → ∀ c, body.head? = some c → c ≠ '\n' ∧ c ≠ '\r') :
    skipLeadingBreak (leadingBreak text ++ body) = body := by
  by_cases line : '\n' ∈ text
  · simp [leadingBreak, line, skipLeadingBreak]
  · have first := unbroken line
    simp only [leadingBreak, List.contains_eq_mem, line, decide_false, Bool.false_eq_true,
      ite_false, List.nil_append]
    unfold skipLeadingBreak
    split
    · exact absurd rfl (first _ rfl).1
    · exact absurd rfl (first _ rfl).2
    · rfl

theorem exists_cons_escaped (multiline : Bool) (c : Char) :
    ∃ d mark, escaped multiline c = d :: mark ∧ (c ≠ '"' → d ≠ '"') ∧
      (c ≠ '\n' → d ≠ '\n' ∧ d ≠ '\r') := by
  rcases escaped_cases multiline c with ⟨mark, written, -⟩ | ⟨written, -, -, plain⟩
  · exact ⟨'\\', mark, written, fun _ => by decide, fun _ => by decide⟩
  · exact ⟨c, [], written, id, fun other => ⟨other, ne_return_of_not_isControl (plain other)⟩⟩

theorem exists_cons_basicBody (c : Char) (text : List Char) :
    ∃ d more, d ≠ '"' ∧ basicBody (c :: text) = d :: more := by
  unfold basicBody
  rw [List.flatMap_cons]
  split_ifs with quote
  · exact ⟨'\\', _, by decide, rfl⟩
  · obtain ⟨d, mark, written, other, -⟩ := exists_cons_escaped false c
    exact ⟨d, _, other quote, by rw [written]; rfl⟩

theorem length_le_basicBody (text : List Char) : text.length ≤ (basicBody text).length := by
  induction text with
  | nil => exact Nat.le_refl 0
  | cons c text ih =>
    unfold basicBody at ih ⊢
    rw [List.flatMap_cons, List.length_append, List.length_cons]
    obtain ⟨d, mark, written, -⟩ := exists_cons_escaped false c
    split_ifs <;> simp only [written, List.length_cons] <;> omega

theorem length_le_multilineBody (quotes : Nat) (text : List Char) :
    text.length ≤ (multilineBody quotes text).length := by
  induction text generalizing quotes with
  | nil => exact Nat.le_refl 0
  | cons c text ih =>
    rw [multilineBody]
    obtain ⟨d, mark, written, -⟩ := exists_cons_escaped true c
    split_ifs
    · have := ih 0
      simp only [List.length_cons]
      omega
    · have := ih (quotes + 1)
      simp only [List.length_cons]
      omega
    · have := ih 0
      simp only [written, List.length_append, List.length_cons]
      omega

/-- A written text without line breaks does not begin with one. -/
theorem unbroken_multilineBody {text rest : List Char} {d : Char} (line : '\n' ∉ text)
    (first : (multilineBody 0 text ++ '"' :: rest).head? = some d) : d ≠ '\n' ∧ d ≠ '\r' := by
  cases text with
  | nil =>
    cases first
    decide
  | cons c text =>
    rw [multilineBody] at first
    split_ifs at first
    · cases first
      decide
    · cases first
      decide
    · obtain ⟨e, mark, written, -, other⟩ := exists_cons_escaped true c
      rw [written] at first
      cases first
      exact other fun h => line (by rw [h]; exact List.mem_cons_self)

theorem exists_cons_quoted (text : List Char) :
    ∃ c more, quoted text = c :: more ∧ (c = '"' ∨ c = '\'') := by
  unfold quoted
  split
  · exact ⟨'"', _, rfl, .inl rfl⟩
  · exact ⟨'\'', _, rfl, .inr rfl⟩
  · exact ⟨'"', _, rfl, .inl rfl⟩
  · exact ⟨'\'', _, rfl, .inr rfl⟩

/-! ### The four forms -/

section Forms

variable (text : List Char) {rest : List Char}

theorem scanQuoted_basicText (ends : rest.head? ≠ some '"') :
    scanQuoted true ('"' :: (basicBody text ++ '"' :: rest)) = some (text, rest) := by
  have single : ∀ more, basicBody text ++ '"' :: rest ≠ '"' :: '"' :: more := by
    intro more three
    cases text with
    | nil =>
      rw [basicBody, List.flatMap_nil, List.nil_append, List.cons.injEq] at three
      exact ends (by rw [three.2]; rfl)
    | cons c text =>
      obtain ⟨d, body, other, written⟩ := exists_cons_basicBody c text
      rw [written] at three
      exact other (List.cons.inj three).1
  have := length_le_basicBody text
  rw [scanQuoted_basic single, scanBasic_basicBody]
  rw [List.length_append]
  omega

theorem scanQuoted_literalText (unquoted : '\'' ∉ text) (visible : ∀ c ∈ text, isControl c = false)
    (ends : rest.head? ≠ some '\'') :
    scanQuoted true ('\'' :: (text ++ '\'' :: rest)) = some (text, rest) := by
  rw [scanQuoted_literal, scanLiteral_append _ unquoted visible]
  intro more three
  cases text with
  | nil =>
    rw [List.nil_append, List.cons.injEq] at three
    exact ends (by rw [three.2]; rfl)
  | cons c text =>
    rw [List.cons_append, List.cons.injEq] at three
    exact unquoted (by rw [three.1]; exact List.mem_cons_self)

theorem scanQuoted_multilineBasicText (ends : rest.head? ≠ some '"') :
    scanQuoted true ('"' :: '"' :: '"' :: (leadingBreak text ++ (multilineBody 0 text ++
      '"' :: '"' :: '"' :: rest))) = some (text, rest) := by
  have := length_le_multilineBody 0 text
  show scanMultilineBasic _ (skipLeadingBreak _) = _
  rw [skipLeadingBreak_append fun line _ => unbroken_multilineBody line,
    scanMultilineBasic_multilineBody (Nat.zero_le 2) _ ends]
  rw [List.length_append]
  omega

theorem scanQuoted_multilineLiteralText (few : longestRun '\'' 0 text ≤ 2)
    (plain : ∀ c ∈ text, c ≠ '\n' → isControl c = false) (ends : rest.head? ≠ some '\'') :
    scanQuoted true ('\'' :: '\'' :: '\'' :: (leadingBreak text ++ (text ++
      '\'' :: '\'' :: '\'' :: rest))) = some (text, rest) := by
  show scanMultilineLiteral (skipLeadingBreak _) = _
  rw [skipLeadingBreak_append, scanMultilineLiteral_append few plain ends]
  intro line c first
  cases text with
  | nil =>
    cases first
    decide
  | cons d text =>
    cases first
    have other : c ≠ '\n' := fun h => line (by rw [h]; exact List.mem_cons_self)
    exact ⟨other, ne_return_of_not_isControl (plain c List.mem_cons_self other)⟩

end Forms

/-- A string in quotes is read back. -/
theorem scanQuoted_quoted (text : List Char) {rest : List Char} (ends : rest.head? ≠ some '"')
    (ends' : rest.head? ≠ some '\'') :
    scanQuoted true (quoted text ++ rest) = some (text, rest) := by
  unfold quoted
  rcases quoteForm_cases text with form | ⟨form, unquoted, visible⟩ | form | ⟨form, few, plain⟩ <;>
    simp only [form, List.cons_append, List.append_assoc, List.nil_append]
  · exact scanQuoted_basicText text ends
  · exact scanQuoted_literalText text unquoted visible ends'
  · exact scanQuoted_multilineBasicText text ends
  · exact scanQuoted_multilineLiteralText text few plain ends'

end WrapperSynthesis.Toml
