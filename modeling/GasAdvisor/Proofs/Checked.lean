import GasAdvisor.Checked
import Mathlib.Algebra.Group.Nat.Defs

/-!
# What checked arithmetic gives

A result that fits its word is the number that it is without bounds, and one that does not is none.
-/

namespace GasAdvisor.Checked

variable {bits m n : Nat}

theorem fit?_eq_some_iff {word : Nat} : fit? bits n = some word ↔ n < 2 ^ bits ∧ n = word := by
  rw [fit?, Nat.one_shiftLeft, Option.ite_none_right_eq_some, Option.some.injEq]

theorem fit?_eq_none_iff : fit? bits n = none ↔ 2 ^ bits ≤ n := by
  rw [fit?, Nat.one_shiftLeft, ite_eq_right_iff, ← Nat.not_lt]
  exact forall_congr' fun _ => iff_false_intro (Option.some_ne_none n)

theorem fit?_of_lt (h : n < 2 ^ bits) : fit? bits n = some n :=
  fit?_eq_some_iff.2 ⟨h, rfl⟩

theorem add?_of_lt (h : m + n < 2 ^ 64) : add? m n = some (m + n) :=
  fit?_of_lt h

theorem mul?_of_lt (h : m * n < 2 ^ 64) : mul? m n = some (m * n) :=
  fit?_of_lt h

theorem sub?_of_le (h : n ≤ m) : sub? m n = some (m - n) :=
  if_pos h

/-- **Counting gives the number of what was found**, if that fits. -/
theorem count?_of_lt {α : Type} {found : List α} (h : found.length < 2 ^ 64) :
    count? found = some found.length := by
  have hfrom (start : Nat) (hstart : start + found.length < 2 ^ 64) :
      found.foldlM (fun count _ => add? count 1) start = some (start + found.length) := by
    induction found generalizing start with
    | nil => rfl
    | cons x found ih =>
      rw [List.length_cons] at h hstart
      have hnext : add? start 1 = some (start + 1) := add?_of_lt (by omega)
      rw [List.foldlM_cons, hnext]
      exact (ih (by omega) (start + 1) (by omega)).trans (congrArg some (by rw [List.length_cons]; omega))
  simpa [count?] using hfrom 0 (by omega)

end GasAdvisor.Checked
