import Mathlib
import GasAdvisor.Text.CharClass

/-!
# How character classes exclude one another

White space, words and digits are told apart by their tables: no character of a word is white space
(`isBlank_eq_false_of_isWord`), and no digit is (`isBlank_eq_false_of_isDecimalDigit`). Whatever ends
a word or a run of white space therefore is a character of its own.
-/

namespace GasAdvisor.Text

/-- The white space outside of ASCII. -/
def wideBlanks : List Nat :=
  [0x85, 0xa0, 0x1680, 0x2000, 0x2001, 0x2002, 0x2003, 0x2004, 0x2005, 0x2006, 0x2007, 0x2008,
   0x2009, 0x200a, 0x2028, 0x2029, 0x202f, 0x205f, 0x3000]

theorem toNat_mem_wideBlanks {c : Char} (hc : ¬ c.toNat < 128) (h : isBlank c = true) :
    c.toNat ∈ wideBlanks := by
  simp only [isBlank, hc, if_false, Bool.or_eq_true, decide_eq_true_eq, Bool.and_eq_true] at h
  simp only [wideBlanks, List.mem_cons, List.not_mem_nil]
  omega

theorem covered_word_wideBlanks :
    ∀ n ∈ wideBlanks, covered WordCharacter.ranges n = false := by
  decide +kernel

theorem covered_digit_wideBlanks :
    ∀ n ∈ wideBlanks, covered DecimalDigit.ranges n = false := by
  decide +kernel

/-- ASCII white space stands before all letters, digits and the underscore. -/
theorem isAlphanum_eq_false_of_blank {c : Char} (hc : c.toNat < 128) (h : isBlank c = true) :
    c.isAlphanum = false ∧ c ≠ '_' := by
  have hle : c.toNat ≤ 32 := by
    simp only [isBlank, hc, if_true, Bool.or_eq_true, decide_eq_true_eq, Bool.and_eq_true] at h
    rcases h with rfl | h
    · decide
    · omega
  constructor
  · simp only [Char.isAlphanum, Char.isAlpha, Char.isUpper, Char.isLower, Char.isDigit,
      Bool.or_eq_false_iff, Bool.and_eq_false_iff, decide_eq_false_iff_not,
      UInt32.le_iff_toNat_le, ge_iff_le]
    change (¬ (65 ≤ c.toNat ∧ _) ∧ (¬ 97 ≤ c.toNat ∨ _)) ∧ (¬ 48 ≤ c.toNat ∨ _)
    exact ⟨⟨fun h => by omega, .inl (by omega)⟩, .inl (by omega)⟩
  · rintro rfl
    exact absurd hle (by decide)

/-- **No character of a word is white space.** -/
theorem isBlank_eq_false_of_isWord {c : Char} (h : isWord c = true) : isBlank c = false := by
  by_contra hb
  rw [Bool.not_eq_false] at hb
  by_cases hc : c.toNat < 128
  · obtain ⟨ha, hu⟩ := isAlphanum_eq_false_of_blank hc hb
    simp [isWord, hc, ha, hu] at h
  · have := covered_word_wideBlanks _ (toNat_mem_wideBlanks hc hb)
    simp [isWord, hc, this] at h

/-- **No digit is white space.** -/
theorem isBlank_eq_false_of_isDecimalDigit {c : Char} (h : isDecimalDigit c = true) :
    isBlank c = false := by
  by_contra hb
  rw [Bool.not_eq_false] at hb
  by_cases hc : c.toNat < 128
  · have ha := (isAlphanum_eq_false_of_blank hc hb).1
    simp only [Char.isAlphanum, Bool.or_eq_false_iff] at ha
    simp [isDecimalDigit, hc, ha.2] at h
  · have := covered_digit_wideBlanks _ (toNat_mem_wideBlanks hc hb)
    simp [isDecimalDigit, hc, this] at h

/-- White space is no character of a word. -/
theorem isWord_eq_false_of_isBlank {c : Char} (h : isBlank c = true) : isWord c = false := by
  by_contra hw
  rw [Bool.not_eq_false] at hw
  simp [isBlank_eq_false_of_isWord hw] at h

end GasAdvisor.Text
