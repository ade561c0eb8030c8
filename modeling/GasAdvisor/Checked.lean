/-!
# Checked arithmetic

Sums, products and differences of numbers that are held in words. A result that does not fit its word is
none, and so is a difference below zero.
-/

namespace GasAdvisor.Checked

/-- A number, if it fits a word of so many bits. -/
def fit? (bits n : Nat) : Option Nat :=
  if n < 1 <<< bits then some n else none

/-- The sum of two words. -/
def add? (m n : Nat) : Option Nat :=
  fit? 64 (m + n)

/-- The difference of two words. -/
def sub? (m n : Nat) : Option Nat :=
  if n ≤ m then some (m - n) else none

/-- The product of two words. -/
def mul? (m n : Nat) : Option Nat :=
  fit? 64 (m * n)

/-- The number of things that were found, counted one by one. -/
def count? {α : Type} (found : List α) : Option Nat :=
  found.foldlM (fun count _ => add? count 1) 0

end GasAdvisor.Checked
