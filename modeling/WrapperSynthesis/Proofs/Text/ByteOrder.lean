import Mathlib.Data.String.Basic
import Mathlib.Tactic.SplitIfs

/-! Texts are compared by their characters, and this is the order of their bytes
(`lt_iff_utf8_lt`): a greater character has the greater encoding, whatever follows it. -/

namespace WrapperSynthesis.Text

/-- The bytes of a text. -/
def utf8 (s : String) : List UInt8 := s.toUTF8.data.toList

theorem utf8_eq_flatMap (s : String) : utf8 s = s.toList.flatMap String.utf8EncodeChar := by
  rw [utf8, String.toUTF8_eq_toByteArray, ← String.utf8Encode_toList, List.utf8Encode,
    List.data_toByteArray]

/-- Numbers are compared by what is in front of their last six bits, and then by these. -/
theorem lt_of_six_bits {v w : Nat} (h : v < w) :
    v / 64 < w / 64 ∨ v / 64 = w / 64 ∧ v % 64 < w % 64 := by
  omega

/-- Encodings of one length are compared like their characters, and a longer one has the greater
first byte. -/
theorem utf8EncodeChar_append_lt {c d : Char} (h : c < d) (x y : List UInt8) :
    String.utf8EncodeChar c ++ x < String.utf8EncodeChar d ++ y := by
  have less : c.val.toNat < d.val.toNat := h
  have bound : d.val.toNat < 0x110000 := by
    rcases d.valid with small | ⟨_, large⟩
    · exact Nat.lt_trans small (by decide)
    · exact large
  simp only [String.utf8EncodeChar]
  generalize c.val.toNat = v at less
  generalize d.val.toNat = w at less bound
  have last := lt_of_six_bits less
  have third := @lt_of_six_bits (v / 64) (w / 64)
  have second := @lt_of_six_bits (v / 4096) (w / 4096)
  simp only [Nat.div_div_eq_div_mul, Nat.reduceMul] at third second
  -- One case for each two lengths. That of `c` is not the longer one, by the order of the two.
  split_ifs <;>
    simp (disch := omega) only [List.cons_append, List.nil_append, List.cons_lt_cons_iff,
      UInt8.lt_iff_toNat_lt, UInt8.toNat_ofNat', ← UInt8.toNat_inj, Nat.mod_eq_of_lt] <;>
    omega

theorem flatMap_utf8EncodeChar_lt {a b : List Char} (h : a < b) :
    a.flatMap String.utf8EncodeChar < b.flatMap String.utf8EncodeChar := by
  induction a generalizing b with
  | nil =>
    obtain ⟨d, b, rfl⟩ : ∃ d b', b = d :: b' := by
      cases b with
      | nil => cases h
      | cons d b => exact ⟨d, b, rfl⟩
    obtain ⟨first, rest, encoding⟩ :=
      List.exists_cons_of_ne_nil (String.utf8EncodeChar_ne_nil (c := d))
    rw [List.flatMap_nil, List.flatMap_cons, encoding]
    exact List.nil_lt_cons _ _
  | cons c a ih =>
    cases b with
    | nil => cases h
    | cons d b =>
      rw [List.flatMap_cons, List.flatMap_cons]
      rcases List.cons_lt_cons_iff.mp h with less | ⟨rfl, less⟩
      · exact utf8EncodeChar_append_lt less _ _
      · exact List.append_left_lt (ih less)

theorem lt_iff_utf8_lt (a b : String) : a < b ↔ utf8 a < utf8 b := by
  have ascending : ∀ {a b : String}, a < b → utf8 a < utf8 b := by
    intro a b less
    rw [utf8_eq_flatMap, utf8_eq_flatMap]
    exact flatMap_utf8EncodeChar_lt (String.lt_iff_toList_lt.mp less)
  refine ⟨ascending, fun less => ?_⟩
  rcases lt_trichotomy a b with before | rfl | after
  · exact before
  · exact absurd less (List.lt_irrefl _)
  · exact absurd less (List.lt_asymm (ascending after))

end WrapperSynthesis.Text
