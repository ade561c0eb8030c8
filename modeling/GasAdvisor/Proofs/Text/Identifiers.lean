import GasAdvisor.Proofs.Text.Classes
import GasAdvisor.Text.LetterCase

/-!
# ASCII identifiers

The lower case of an ASCII text is told character by character (`lower_of_isAscii`), and a text with
the same lower case in ASCII is one as well (`isAscii_map_toLower`). An identifier is a word of ASCII
characters (`IsIdentifier`), and a word of any characters is a name (`IsName`).
-/

namespace GasAdvisor.Text

/-- A text of ASCII characters. -/
def IsAscii (s : List Char) : Prop :=
  ∀ c ∈ s, c.toNat < 128

theorem forall_ascii {p : Char → Prop} (h : ∀ n < 128, p (Char.ofNat n)) {c : Char}
    (hc : c.toNat < 128) : p c := by
  have hcode := h c.toNat hc
  rwa [Char.ofNat_toNat] at hcode

theorem toLower_of_not_ascii {c : Char} (h : ¬c.toNat < 128) : c.toLower = c := by
  refine dif_neg fun hupper => h ?_
  have hle : c.toNat ≤ 'Z'.toNat := hupper.2
  exact Nat.lt_of_le_of_lt hle (by decide)

/-- Lower case in ASCII neither leaves ASCII nor enters it. -/
theorem isAscii_map_toLower {s : List Char} : IsAscii (s.map Char.toLower) ↔ IsAscii s := by
  have hkept (c : Char) : c.toLower.toNat < 128 ↔ c.toNat < 128 := by
    by_cases hc : c.toNat < 128
    · exact iff_of_true (forall_ascii (p := fun c => c.toLower.toNat < 128) (by decide) hc) hc
    · rw [toLower_of_not_ascii hc]
  simp only [IsAscii, List.forall_mem_map, hkept]

/-- **The lower case of an ASCII text is that of its characters.** -/
theorem lower_of_isAscii {s : List Char} (h : IsAscii s) : lower s = s.map Char.toLower := by
  have after (before : List Char) : lowerAfter before s = s.map Char.toLower := by
    induction s generalizing before with
    | nil => rfl
    | cons c s ih =>
      obtain ⟨hc, hs⟩ := List.forall_mem_cons.1 h
      have hsigma : c.toNat ≠ 0x3a3 := by omega
      rw [lowerAfter, ih hs]
      simp only [if_neg hsigma, lowerChar, if_pos hc]
      rfl
  exact after []

/-- A text of one or more letters, digits and underscores of ASCII. A digit may stand first, which
makes no difference to any reader of reports. -/
structure IsIdentifier (s : List Char) : Prop where
  ne_nil : s ≠ []
  part : ∀ c ∈ s, c.isAlphanum = true ∨ c = '_'

theorem isIdentifier_iff {s : List Char} :
    IsIdentifier s ↔ (!s.isEmpty && s.all fun c => c.isAlphanum || c = '_') = true := by
  rw [Bool.and_eq_true, Bool.not_eq_true', List.isEmpty_eq_false_iff, List.all_eq_true]
  simp only [Bool.or_eq_true, decide_eq_true_eq]
  exact ⟨fun h => ⟨h.ne_nil, h.part⟩, fun h => ⟨h.1, h.2⟩⟩

instance (s : List Char) : Decidable (IsIdentifier s) :=
  decidable_of_iff' _ isIdentifier_iff

namespace IsIdentifier

variable {s : List Char}

theorem isAscii (h : IsIdentifier s) : IsAscii s := by
  intro c hc
  by_contra hwide
  rcases h.part c hc with halphanum | rfl
  · have hletters : c.toNat ≤ 'z'.toNat := by
      simp only [Char.isAlphanum, Char.isAlpha, Char.isUpper, Char.isLower, Char.isDigit,
        Bool.or_eq_true, Bool.and_eq_true, decide_eq_true_eq, UInt32.le_iff_toNat_le, ge_iff_le]
        at halphanum
      change ((65 ≤ c.toNat ∧ c.toNat ≤ 90) ∨ (97 ≤ c.toNat ∧ c.toNat ≤ 122)) ∨
        (48 ≤ c.toNat ∧ c.toNat ≤ 57) at halphanum
      show c.toNat ≤ 122
      omega
    exact hwide (Nat.lt_of_le_of_lt hletters (by decide))
  · exact hwide (by decide)

theorem isWord (h : IsIdentifier s) : ∀ c ∈ s, isWord c = true := by
  intro c hc
  rw [Text.isWord, if_pos (h.isAscii c hc)]
  simpa using h.part c hc

end IsIdentifier

/-- A text of one or more characters of words, of any script. -/
structure IsName (s : List Char) : Prop where
  ne_nil : s ≠ []
  isWord : ∀ c ∈ s, isWord c = true

theorem isName_iff {s : List Char} : IsName s ↔ (!s.isEmpty && s.all isWord) = true := by
  rw [Bool.and_eq_true, Bool.not_eq_true', List.isEmpty_eq_false_iff, List.all_eq_true]
  exact ⟨fun h => ⟨h.ne_nil, h.isWord⟩, fun h => ⟨h.1, h.2⟩⟩

instance (s : List Char) : Decidable (IsName s) :=
  decidable_of_iff' _ isName_iff

theorem IsName.not_mem {s : List Char} {c : Char} (h : IsName s) (hc : Text.isWord c = false) :
    c ∉ s := by
  intro hmem
  rw [h.isWord c hmem] at hc
  cases hc

theorem IsIdentifier.isName {s : List Char} (h : IsIdentifier s) : IsName s :=
  ⟨h.ne_nil, h.isWord⟩

end GasAdvisor.Text
