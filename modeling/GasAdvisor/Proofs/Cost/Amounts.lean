import GasAdvisor.Cost.Amount
import GasAdvisor.Decimal.Text
import GasAdvisor.Proofs.Text.Spans

/-!
# Written amounts

An amount is read from digits of ASCII if it is one of 64 bits, and from nothing else
(`Gas.ofDigits?_eq`); so every number of 64 bits is read from the digits that write it
(`Gas.ofDigits?_digits`). Digits are no white space and end where the class of digits does.
-/

namespace GasAdvisor

open Text

/-- A text of one or more digits of ASCII. -/
structure IsDigits (s : List Char) : Prop where
  ne_nil : s ≠ []
  isDigit : ∀ c ∈ s, c.isDigit = true

theorem isDigits_iff {s : List Char} : IsDigits s ↔ (!s.isEmpty && s.all Char.isDigit) = true := by
  rw [Bool.and_eq_true, Bool.not_eq_true', List.isEmpty_eq_false_iff, List.all_eq_true]
  exact ⟨fun h => ⟨h.ne_nil, h.isDigit⟩, fun h => ⟨h.1, h.2⟩⟩

instance (s : List Char) : Decidable (IsDigits s) :=
  decidable_of_iff' _ isDigits_iff

theorem isDigits_digits (n : Nat) : IsDigits (Decimal.digits n) :=
  ⟨Nat.toDigits_ne_nil, fun _ h => Nat.isDigit_of_mem_toDigits (by decide) (by decide) h⟩

/-- **A number is read from digits**, if it is one of 64 bits. -/
theorem Gas.ofDigits?_eq (ds : List Char) :
    Gas.ofDigits? ds =
      if IsDigits ds ∧ Nat.ofDigitChars 10 ds 0 < 2 ^ 64 then some (Nat.ofDigitChars 10 ds 0)
      else none := by
  have hvalue : ds.foldl (fun n d => n * 10 + (d.toNat - '0'.toNat)) 0 = Nat.ofDigitChars 10 ds 0 := by
    simp only [Nat.ofDigitChars_eq_foldl, Nat.mul_comm 10]
  have hdigits : (ds.isEmpty || !ds.all Char.isDigit) = true ↔ ¬ IsDigits ds := by
    rw [isDigits_iff]
    cases ds.isEmpty <;> cases ds.all Char.isDigit <;> decide
  have hlimit : Nat.ofDigitChars 10 ds 0 ≤ Gas.limit ↔ Nat.ofDigitChars 10 ds 0 < 2 ^ 64 :=
    Nat.le_sub_one_iff_lt (by decide)
  rw [Gas.ofDigits?, hvalue]
  by_cases hds : IsDigits ds
  · rw [if_neg fun h => hdigits.1 h hds]
    simp only [hlimit, hds, true_and]
  · rw [if_pos (hdigits.2 hds), if_neg fun h => hds h.1]

theorem Gas.ofDigits?_digits (n : Nat) :
    Gas.ofDigits? (Decimal.digits n) = if n < 2 ^ 64 then some n else none := by
  have hvalue : Nat.ofDigitChars 10 (Decimal.digits n) 0 = n := Nat.ofDigitChars_ten_toDigits
  simp only [Gas.ofDigits?_eq, hvalue, isDigits_digits, true_and]

theorem Decimal.toList_toString (n : Nat) : (toString n).toList = Decimal.digits n := by
  rw [Nat.toString_eq_ofList_toDigits, String.toList_ofList]
  rfl

theorem isDecimalDigit_of_isDigit {c : Char} (h : c.isDigit = true) : isDecimalDigit c = true := by
  have hascii : c.toNat < 128 := by
    simp only [Char.isDigit, Bool.and_eq_true, decide_eq_true_eq, UInt32.le_iff_toNat_le] at h
    exact Nat.lt_of_le_of_lt h.2 (by decide)
  rw [isDecimalDigit, if_pos hascii, h]

theorem isDecimalDigit_of_mem_digits {n : Nat} {c : Char} (h : c ∈ Decimal.digits n) :
    isDecimalDigit c = true :=
  isDecimalDigit_of_isDigit ((isDigits_digits n).isDigit c h)

theorem not_mem_digits {n : Nat} {c : Char} (hc : isDecimalDigit c = false) :
    c ∉ Decimal.digits n := by
  intro hmem
  rw [isDecimalDigit_of_mem_digits hmem] at hc
  cases hc

theorem stops_isBlank_digits (n : Nat) (s : List Char) : Stops isBlank (Decimal.digits n ++ s) := by
  obtain ⟨d, ds, hds⟩ := List.exists_cons_of_ne_nil (Nat.toDigits_ne_nil (n := n) (b := 10))
  have hdigits : Decimal.digits n = d :: ds := hds
  have hdigit : isDecimalDigit d = true :=
    isDecimalDigit_of_mem_digits (n := n) (by rw [hdigits]; exact List.mem_cons_self)
  rw [hdigits]
  exact stops_cons.2 (isBlank_eq_false_of_isDecimalDigit hdigit)

end GasAdvisor
