import GasAdvisor.Cost.Words
import GasAdvisor.Proofs.Cost.Totals

/-!
# Savings are exact

Savings computed in machine words lose nothing (`potentialSavings_exact`). A percentage is below one
hundred, so a share of a cost is no larger than the cost, and the low half of the double word in which
it is computed is all of it (`Impact.toNat_savingInWords`). Sums that wrap around are noticed, so a
total of words is the exact sum, cut off at the largest word (`Gas.toNat_totalOfWords`).

What is true of sums that are cut off then holds of savings: the order of the suggestions does not
matter, the savings of a concatenation are those of its parts added up, and a larger measured cost
never makes them smaller.
-/

namespace GasAdvisor

namespace Gas

theorem toNat_largestWord : largestWord.toNat = limit := by
  decide

/-- **A sum of words is the exact sum, cut off at the largest word.** -/
theorem toNat_addWords (m n : UInt64) : (addWords m n).toNat = plus m.toNat n.toNat := by
  have hm := m.toNat_lt
  have hn := n.toNat_lt
  have hsum : (m + n).toNat = (m.toNat + n.toNat) % 2 ^ 64 := UInt64.toNat_add m n
  have hlimit : limit = 2 ^ 64 - 1 := rfl
  rw [addWords, plus]
  split
  · next hwrapped =>
    rw [UInt64.lt_iff_toNat_lt] at hwrapped
    rw [toNat_largestWord]
    omega
  · next hwhole =>
    rw [UInt64.lt_iff_toNat_lt] at hwhole
    omega

theorem toNat_foldl_addWords (words : List UInt64) (start : UInt64) :
    (words.foldl addWords start).toNat = (words.map UInt64.toNat).foldl plus start.toNat := by
  induction words generalizing start with
  | nil => rfl
  | cons word words ih => rw [List.foldl_cons, List.map_cons, List.foldl_cons, ih, toNat_addWords]

theorem toNat_totalOfWords (words : List UInt64) :
    (totalOfWords words).toNat = total (words.map UInt64.toNat) :=
  toNat_foldl_addWords words 0

theorem toNat_widen (gas : UInt64) : (widen gas).toNat = gas.toNat := by
  have hgas := gas.toNat_lt
  rw [widen, BitVec.toNat_setWidth, UInt64.toNat_toBitVec]
  omega

/-- A double word that is no larger than a word loses nothing. -/
theorem toNat_narrow {wide : BitVec 128} (h : wide.toNat < 2 ^ 64) :
    (narrow wide).toNat = wide.toNat := by
  rw [narrow, UInt64.toNat_ofBitVec, BitVec.toNat_setWidth, Nat.mod_eq_of_lt h]

end Gas

namespace Impact

theorem percent_lt (i : Impact) : i.percent < 100 := by
  cases i <;> decide

/-- **The product of a cost and a percentage fits a double word.** -/
theorem toNat_wideProduct (i : Impact) (gas : UInt64) :
    (i.wideProduct gas).toNat = gas.toNat * i.percent := by
  have hgas := gas.toNat_lt
  have hpercent := i.percent_lt
  have hproduct : gas.toNat * i.percent < 2 ^ 64 * 100 := Nat.mul_lt_mul'' hgas hpercent
  have hlow : i.percent % 2 ^ 128 = i.percent := by omega
  rw [wideProduct, BitVec.toNat_mul, Gas.toNat_widen, BitVec.toNat_ofNat, hlow]
  omega

theorem toNat_wideShare (i : Impact) (gas : UInt64) :
    (i.wideShare gas).toNat = gas.toNat * i.percent / 100 := by
  rw [wideShare, BitVec.toNat_udiv, toNat_wideProduct]
  rfl

/-- A share of a cost is no larger than the cost. -/
theorem toNat_wideShare_le (i : Impact) (gas : UInt64) :
    (i.wideShare gas).toNat ≤ gas.toNat := by
  have hpercent : i.percent ≤ 100 := Nat.le_of_lt i.percent_lt
  have hproduct : gas.toNat * i.percent ≤ gas.toNat * 100 := Nat.mul_le_mul_left _ hpercent
  rw [toNat_wideShare]
  omega

/-- The low half of a share is all of it. -/
theorem toNat_narrow_wideShare (i : Impact) (gas : UInt64) :
    (Gas.narrow (i.wideShare gas)).toNat = (i.wideShare gas).toNat :=
  Gas.toNat_narrow (Nat.lt_of_le_of_lt (i.toNat_wideShare_le gas) gas.toNat_lt)

/-- **What a suggestion saves is computed exactly.** -/
theorem toNat_savingInWords (i : Impact) (gas : UInt64) :
    (i.savingInWords gas).toNat = i.saving gas.toNat := by
  have hpos : 0 < gas ↔ 0 < gas.toNat := UInt64.lt_iff_toNat_lt
  rw [savingInWords, saving]
  simp only [hpos]
  split
  · rw [toNat_narrow_wideShare, toNat_wideShare]
  · cases i <;> rfl

/-- A larger measured cost has larger shares. -/
theorem saving_le_saving (i : Impact) {gas gas' : Nat} (hpos : 0 < gas) (hle : gas ≤ gas') :
    i.saving gas ≤ i.saving gas' := by
  have hproduct : gas * i.percent ≤ gas' * i.percent := Nat.mul_le_mul_right _ hle
  rw [saving, saving, if_pos hpos, if_pos (by omega)]
  exact Nat.div_le_div_right hproduct

end Impact

variable (suggestions : List Suggestion) (gas : UInt64)

/-- **Savings in words are the savings.** -/
theorem toNat_potentialSavingsInWords :
    (potentialSavingsInWords suggestions gas).toNat = potentialSavings suggestions gas.toNat := by
  have hsaving : UInt64.toNat ∘ (fun s : Suggestion => s.impact.savingInWords gas) =
      fun s => s.impact.saving gas.toNat := by
    funext s
    exact s.impact.toNat_savingInWords gas
  rw [potentialSavingsInWords, Gas.toNat_totalOfWords, List.map_map, hsaving, potentialSavings]

theorem potentialSavings_perm {suggestions suggestions' : List Suggestion}
    (h : suggestions.Perm suggestions') (gas : Nat) :
    potentialSavings suggestions gas = potentialSavings suggestions' gas :=
  Gas.total_perm (h.map _)

theorem potentialSavings_append (suggestions suggestions' : List Suggestion) (gas : Nat) :
    potentialSavings (suggestions ++ suggestions') gas =
      Gas.plus (potentialSavings suggestions gas) (potentialSavings suggestions' gas) := by
  rw [potentialSavings, List.map_append, Gas.total_append]
  rfl

theorem potentialSavings_le {gas gas' : Nat} (hpos : 0 < gas) (hle : gas ≤ gas') :
    potentialSavings suggestions gas ≤ potentialSavings suggestions gas' :=
  Gas.total_le_total fun s _ => s.impact.saving_le_saving hpos hle

/-- **Savings arithmetic is exact.** Computed in words, savings are the smaller one of the largest word
and the exact sum of what each suggestion saves: a percentage of a measured cost, rounded down, or a
flat amount. The product fits the double word in which it is computed, and the share fits the word to
which it is cut; the savings that are computed without words are the same number. So savings do not
depend on the order of the suggestions, those of a concatenation are the sum of those of its parts,
cut off again, and they do not go down when a measured cost goes up. -/
theorem potentialSavings_exact :
    (∀ (suggestions : List Suggestion) (gas : UInt64),
      (potentialSavingsInWords suggestions gas).toNat =
        min (2 ^ 64 - 1) (suggestions.map fun s => match s.impact with
          | .high => if 0 < gas then gas.toNat * 15 / 100 else 15000
          | .medium => if 0 < gas then gas.toNat * 8 / 100 else 5000
          | .low => if 0 < gas then gas.toNat * 3 / 100 else 1000).sum ∧
      potentialSavings suggestions gas.toNat = (potentialSavingsInWords suggestions gas).toNat) ∧
    (∀ (i : Impact) (gas : UInt64),
      (i.wideProduct gas).toNat = gas.toNat * i.percent ∧
      (Gas.narrow (i.wideShare gas)).toNat = (i.wideShare gas).toNat) ∧
    (∀ (suggestions suggestions' : List Suggestion) (gas : UInt64), suggestions.Perm suggestions' →
      potentialSavingsInWords suggestions gas = potentialSavingsInWords suggestions' gas) ∧
    (∀ (suggestions suggestions' : List Suggestion) (gas : UInt64),
      potentialSavingsInWords (suggestions ++ suggestions') gas =
        Gas.addWords (potentialSavingsInWords suggestions gas)
          (potentialSavingsInWords suggestions' gas)) ∧
    ∀ (suggestions : List Suggestion) (gas gas' : UInt64), 0 < gas → gas ≤ gas' →
      potentialSavingsInWords suggestions gas ≤ potentialSavingsInWords suggestions gas' := by
  refine ⟨fun suggestions gas => ⟨?_, ?_⟩, fun i gas => ⟨?_, ?_⟩, ?_, ?_, ?_⟩
  · have hpos : 0 < gas ↔ 0 < gas.toNat := UInt64.lt_iff_toNat_lt
    rw [toNat_potentialSavingsInWords, potentialSavings, Gas.total_eq_min]
    congr 3
    funext s
    simp only [Impact.saving, hpos]
    cases s.impact <;> rfl
  · exact (toNat_potentialSavingsInWords suggestions gas).symm
  · exact i.toNat_wideProduct gas
  · exact i.toNat_narrow_wideShare gas
  · intro suggestions suggestions' gas hperm
    apply UInt64.toNat_inj.1
    rw [toNat_potentialSavingsInWords, toNat_potentialSavingsInWords, potentialSavings_perm hperm]
  · intro suggestions suggestions' gas
    apply UInt64.toNat_inj.1
    simp only [Gas.toNat_addWords, toNat_potentialSavingsInWords, potentialSavings_append]
  · intro suggestions gas gas' hpos hle
    rw [UInt64.lt_iff_toNat_lt] at hpos
    rw [UInt64.le_iff_toNat_le] at hle ⊢
    rw [toNat_potentialSavingsInWords, toNat_potentialSavingsInWords]
    exact potentialSavings_le suggestions hpos hle

/-- A suggestion of high impact. -/
def highAdvice : List Suggestion := [.generated "Pack the storage slots." 0.5 .high]

/-- A suggestion of medium and one of low impact. -/
def otherAdvice : List Suggestion :=
  [.generated "Cache the length." 0.5 .medium, .generated "Skip the initial value." 0.5 .low]

/-- Three shares of 1010, each rounded down, in either order, and of the largest word. -/
theorem potentialSavings_exact_shares :
    (highAdvice ++ otherAdvice).Perm (otherAdvice ++ highAdvice) ∧
      potentialSavingsInWords (highAdvice ++ otherAdvice) 1010 =
        potentialSavingsInWords (otherAdvice ++ highAdvice) 1010 ∧
      (potentialSavingsInWords (highAdvice ++ otherAdvice) 1010).toNat = 151 + 80 + 30 ∧
      (0 : UInt64) < 1010 ∧ 1010 ≤ Gas.largestWord ∧
      potentialSavingsInWords (highAdvice ++ otherAdvice) 1010 ≤
        potentialSavingsInWords (highAdvice ++ otherAdvice) Gas.largestWord := by
  have hperm : (highAdvice ++ otherAdvice).Perm (otherAdvice ++ highAdvice) := List.perm_append_comm
  refine ⟨hperm, potentialSavings_exact.2.2.1 _ _ 1010 hperm, ?_, by decide, by decide,
    potentialSavings_exact.2.2.2.2 _ _ _ (by decide) (by decide)⟩
  rw [(potentialSavings_exact.1 _ _).1]
  rfl

end GasAdvisor
