import GasAdvisor.Cost.Basic
import Mathlib

/-!
# Sums of gas

A sum of gas stops at the largest amount. It is the exact sum cut off there (`Gas.total_eq_min`), so
neither the order of the amounts nor the way in which they are grouped matters (`Gas.total_perm`,
`Gas.total_append`), and it is zero only if all amounts are (`Gas.total_pos_iff`).
-/

namespace GasAdvisor.Gas

theorem foldl_plus {n : Nat} (hn : n ≤ limit) (amounts : List Nat) :
    amounts.foldl plus n = min limit (n + amounts.sum) := by
  induction amounts generalizing n with
  | nil =>
    rw [List.foldl_nil, List.sum_nil]
    omega
  | cons m amounts ih =>
    have hplus : plus n m ≤ limit := Nat.min_le_left limit (n + m)
    rw [List.foldl_cons, ih hplus, List.sum_cons, plus]
    omega

/-- **A total is the sum, cut off at the largest amount.** -/
theorem total_eq_min (amounts : List Nat) : total amounts = min limit amounts.sum := by
  rw [total, foldl_plus (Nat.zero_le limit), Nat.zero_add]

theorem total_perm {amounts amounts' : List Nat} (h : amounts.Perm amounts') :
    total amounts = total amounts' := by
  rw [total_eq_min, total_eq_min, h.sum_eq]

theorem total_append (amounts amounts' : List Nat) :
    total (amounts ++ amounts') = plus (total amounts) (total amounts') := by
  simp only [total_eq_min, plus, List.sum_append]
  omega

/-- A total does not go down when amounts go up, each in its place. -/
theorem total_le_total {α : Type} {f g : α → Nat} {items : List α} (h : ∀ x ∈ items, f x ≤ g x) :
    total (items.map f) ≤ total (items.map g) := by
  have hsum := List.sum_le_sum h
  simp only [total_eq_min]
  omega

/-- **A total tells whether there is any amount**, also where it is cut off. -/
theorem total_pos_iff {amounts : List Nat} : 0 < total amounts ↔ ∃ n ∈ amounts, 0 < n := by
  have hlimit : 0 < limit := by decide
  have hsum : 0 < amounts.sum ↔ ∃ n ∈ amounts, 0 < n := by
    simp [Nat.pos_iff_ne_zero, List.sum_eq_zero_iff]
  rw [← hsum, total_eq_min]
  omega

end GasAdvisor.Gas
