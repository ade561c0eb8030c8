import Mathlib
import GasAdvisor.Suggestion.Basic

/-!
# The total order of floating-point numbers

Scores are ranked by the total order of IEEE 754, in which every number has a place: numbers are
ordered by their values, negative zero comes before positive zero, and what is not a number comes
last, after positive infinity (`TotalLe`). There is one such datum here: the sign and the payload that
IEEE 754 gives to it, and by which its total order goes on, are not represented.

The key by which the ranking sorts is an integer made of the bits. It orders exactly as the total
order does (`rankKey_le_iff`), and different numbers have different keys (`rankKey_injective`). The
step in between is the magnitude of a number, its bits without the sign: two numbers compare as their
magnitudes do (`compare_eq_compare_place`), since the exponent stands in front of the mantissa.
-/

namespace GasAdvisor

open Float.Model Float.Model.UnpackedFloat

/-- Whether the sign bit of a number is set. -/
def isSigned (x : Float) : Bool :=
  2 ^ 63 ≤ x.toBits.toNat

/-- The total order of numbers: by value, of equal values a signed one first, and last what is not a
number. That has no sign and no payload here, so nothing of it comes before the numbers. -/
def TotalLe (x y : Float) : Prop :=
  y.isNaN = true ∨
    (x.isNaN = false ∧ (x < y ∨ ((x == y) = true ∧ (isSigned x = true ∨ isSigned y = false))))

/-! ## The parts of the bits -/

section Parts

variable (b : BitVec Format.binary64.numBits)

theorem toNat_unpackMantissa : (unpackMantissa b).toNat = b.toNat % 2 ^ 52 := by
  simp [unpackMantissa]

theorem toNat_unpackExponent : (unpackExponent b).toNat = b.toNat / 2 ^ 52 % 2 ^ 11 := by
  simp [unpackExponent, Nat.shiftRight_eq_div_pow]

theorem toNat_unpackSign : (unpackSign b).toNat = b.toNat / 2 ^ 63 % 2 := by
  simp [unpackSign, Nat.shiftRight_eq_div_pow]

theorem ofBitVec_unpackSign :
    Sign.ofBitVec (unpackSign b) = if b.toNat < 2 ^ 63 then .positive else .negative := by
  have hlt : b.toNat < 2 ^ 64 := b.isLt
  have hsign := toNat_unpackSign b
  by_cases h : b.toNat < 2 ^ 63
  · have hzero : unpackSign b = 0#1 := BitVec.eq_of_toNat_eq (by simp; omega)
    rw [if_pos h, Sign.ofBitVec, if_pos hzero]
  · have hone : unpackSign b ≠ 0#1 := fun h0 => by
      rw [h0] at hsign
      simp at hsign
      omega
    rw [if_neg h, Sign.ofBitVec, if_neg hone]

theorem toNat_one_append (m : BitVec 52) : (1#1 ++ m).toNat = 2 ^ 52 + m.toNat := by
  rw [BitVec.toNat_append, ← Nat.shiftLeft_add_eq_or_of_lt m.isLt]
  simp [Nat.shiftLeft_eq]

end Parts

/-! ## Magnitudes -/

/-- The magnitude of a number with its sign: its place on both sides of zero. -/
def place : UnpackedFloat → Int
  | .infinity s => s.apply (2047 * 2 ^ 52)
  | .notANumber => 0
  | .zero _ => 0
  | .finite s m e _ => s.apply ((e + 1074) * 2 ^ 52 + m)

/-- The mantissa of a number has a leading bit, unless its exponent is the least one. -/
def Normalized : UnpackedFloat → Prop
  | .finite _ m e _ => -1074 ≤ e ∧ e ≤ 971 ∧ m < 2 ^ 53 ∧ (2 ^ 52 ≤ m ∨ e = -1074)
  | _ => True

/-- The signed integer of a pattern of bits. -/
def signedBits (b : Nat) : Int :=
  if b < 2 ^ 63 then b else 2 ^ 63 - b

/-- A magnitude with its sign is the signed integer of its bits. -/
theorem apply_eq_signedBits {b : Nat} (hb : b < 2 ^ 64) {magnitude : Int}
    (h : magnitude = (b % 2 ^ 63 : Nat)) :
    (if b < 2 ^ 63 then Sign.positive else Sign.negative).apply magnitude = signedBits b := by
  unfold signedBits
  split
  · show magnitude = _
    omega
  · show -magnitude = _
    omega

/-- **What a valid pattern of bits stands for**: the only datum that is not a number, or a number
whose place is given by the bits. -/
theorem unpack_cases {b : BitVec Format.binary64.numBits} (hvalid : Format.binary64.Valid b) :
    (unpack .binary64 b = .notANumber ∧ b.toNat = 2047 * 2 ^ 52 + 2 ^ 51) ∨
      (unpack .binary64 b ≠ .notANumber ∧ Normalized (unpack .binary64 b) ∧
        place (unpack .binary64 b) = signedBits b.toNat ∧ b.toNat % 2 ^ 63 ≤ 2047 * 2 ^ 52) := by
  have hlt : b.toNat < 2 ^ 64 := b.isLt
  have hm := toNat_unpackMantissa b
  have he := toNat_unpackExponent b
  have hs := ofBitVec_unpackSign b
  have hbias : ((Format.binary64.exponentBias : Nat) : Int) = 1023 := rfl
  have hwidth : ((Format.binary64.mantissaBitsWithoutImplicit : Nat) : Int) = 52 := rfl
  have hones : (-1#11 : BitVec 11).toNat = 2047 := by decide
  rw [UnpackedFloat.unpack]
  simp only [hs, hbias, hwidth]
  by_cases hexp : unpackExponent b = -1#11
  · have hexp' : b.toNat / 2 ^ 52 % 2 ^ 11 = 2047 := by rw [← he, hexp, hones]
    rw [if_pos hexp]
    by_cases hman : unpackMantissa b = 0#52
    · -- infinity
      have hman' : b.toNat % 2 ^ 52 = 0 := by rw [← hm, hman]; rfl
      rw [if_pos hman]
      refine .inr ⟨nofun, trivial, apply_eq_signedBits hlt ?_, ?_⟩
      · omega
      · omega
    · rw [if_neg hman]
      refine .inl ⟨rfl, ?_⟩
      have hnan := hvalid.eq_packedNaN hexp hman
      rw [hnan]
      decide
  · have hexp' : b.toNat / 2 ^ 52 % 2 ^ 11 ≠ 2047 := fun h => by
      exact hexp (BitVec.eq_of_toNat_eq (by rw [he, h, hones]))
    rw [if_neg hexp]
    by_cases hzero : unpackExponent b = 0#11
    · have hzero' : b.toNat / 2 ^ 52 % 2 ^ 11 = 0 := by rw [← he, hzero]; rfl
      rw [if_pos hzero]
      by_cases hman : unpackMantissa b = 0#52
      · -- zero
        have hman' : b.toNat % 2 ^ 52 = 0 := by rw [← hm, hman]; rfl
        rw [dif_pos hman]
        refine .inr ⟨nofun, trivial, ?_, ?_⟩
        · show (0 : Int) = _
          unfold signedBits
          split <;> omega
        · omega
      · -- a subnormal number
        rw [dif_neg hman]
        refine .inr ⟨nofun, ⟨?_, ?_, ?_, ?_⟩, apply_eq_signedBits hlt ?_, ?_⟩
        all_goals omega
    · -- a normal number
      have hzero' : b.toNat / 2 ^ 52 % 2 ^ 11 ≠ 0 := fun h => by
        exact hzero (BitVec.eq_of_toNat_eq (by rw [he, h]; rfl))
      have hone := toNat_one_append (unpackMantissa b)
      rw [if_neg hzero]
      refine .inr ⟨nofun, ⟨?_, ?_, ?_, ?_⟩, apply_eq_signedBits hlt ?_, ?_⟩
      all_goals omega

/-! ## Comparing magnitudes -/

/-- **The exponent decides before the mantissa**, since a mantissa has a leading bit unless the
exponent is the least one. -/
theorem compare_then_eq {e₁ e₂ : Int} {m₁ m₂ : Nat} (h₁ : -1074 ≤ e₁) (h₂ : -1074 ≤ e₂)
    (hm₁ : m₁ < 2 ^ 53) (hm₂ : m₂ < 2 ^ 53) (hn₁ : 2 ^ 52 ≤ m₁ ∨ e₁ = -1074)
    (hn₂ : 2 ^ 52 ≤ m₂ ∨ e₂ = -1074) :
    (compare e₁ e₂).then (compare m₁ m₂) =
      compare ((e₁ + 1074) * 2 ^ 52 + m₁) ((e₂ + 1074) * 2 ^ 52 + m₂) := by
  rcases Int.lt_trichotomy e₁ e₂ with he | rfl | he
  · rw [Int.compare_eq_lt.2 he, Ordering.lt_then]
    exact (Int.compare_eq_lt.2 (by omega)).symm
  · rw [Int.compare_eq_eq.2 rfl, Ordering.eq_then]
    rcases Nat.lt_trichotomy m₁ m₂ with hm | rfl | hm
    · rw [Nat.compare_eq_lt.2 hm]
      exact (Int.compare_eq_lt.2 (by omega)).symm
    · rw [Nat.compare_eq_eq.2 rfl]
      exact (Int.compare_eq_eq.2 rfl).symm
    · rw [Nat.compare_eq_gt.2 hm]
      exact (Int.compare_eq_gt.2 (by omega)).symm
  · rw [Int.compare_eq_gt.2 he, Ordering.gt_then]
    exact (Int.compare_eq_gt.2 (by omega)).symm

theorem compare_neg (a b : Int) : compare (-a) (-b) = (compare a b).swap := by
  rcases Int.lt_trichotomy a b with h | rfl | h
  · rw [Int.compare_eq_lt.2 h]
    exact Int.compare_eq_gt.2 (by omega)
  · rw [Int.compare_eq_eq.2 rfl, Int.compare_eq_eq.2 rfl]
    rfl
  · rw [Int.compare_eq_gt.2 h]
    exact Int.compare_eq_lt.2 (by omega)

/-- **Numbers compare as their places do.** -/
theorem compare_eq_compare_place {x y : UnpackedFloat} (hx : x ≠ .notANumber)
    (hy : y ≠ .notANumber) (hnx : Normalized x) (hny : Normalized y) :
    x.compare y = some (compare (place x) (place y)) := by
  have lt {a b : Int} (h : a < b) : some Ordering.lt = some (compare a b) :=
    congrArg some (Int.compare_eq_lt.2 h).symm
  have gt {a b : Int} (h : b < a) : some Ordering.gt = some (compare a b) :=
    congrArg some (Int.compare_eq_gt.2 h).symm
  have eq (a : Int) : some Ordering.eq = some (compare a a) :=
    congrArg some (Int.compare_eq_eq.2 rfl).symm
  cases x with
  | notANumber => exact absurd rfl hx
  | infinity s₁ =>
    cases y with
    | notANumber => exact absurd rfl hy
    | infinity s₂ =>
      cases s₁ <;> cases s₂
      · exact eq _
      · exact lt (by simp [place, Sign.apply])
      · exact gt (by simp [place, Sign.apply])
      · exact eq _
    | zero s₂ =>
      cases s₁
      · exact lt (by simp [place, Sign.apply])
      · exact gt (by simp [place, Sign.apply])
    | finite s₂ m₂ e₂ hm₂ =>
      obtain ⟨hlow, hhigh, hmant, -⟩ := hny
      cases s₁ <;> cases s₂
      all_goals first
        | exact lt (by simp only [place, Sign.apply]; omega)
        | exact gt (by simp only [place, Sign.apply]; omega)
  | zero s₁ =>
    cases y with
    | notANumber => exact absurd rfl hy
    | infinity s₂ =>
      cases s₂
      · exact gt (by simp [place, Sign.apply])
      · exact lt (by simp [place, Sign.apply])
    | zero s₂ => exact eq _
    | finite s₂ m₂ e₂ hm₂ =>
      obtain ⟨hlow, hhigh, hmant, -⟩ := hny
      cases s₂
      · exact gt (by simp only [place, Sign.apply]; omega)
      · exact lt (by simp only [place, Sign.apply]; omega)
  | finite s₁ m₁ e₁ hm₁ =>
    obtain ⟨hlow₁, hhigh₁, hmant₁, hnorm₁⟩ := hnx
    cases y with
    | notANumber => exact absurd rfl hy
    | infinity s₂ =>
      cases s₁ <;> cases s₂
      all_goals first
        | exact lt (by simp only [place, Sign.apply]; omega)
        | exact gt (by simp only [place, Sign.apply]; omega)
    | zero s₂ =>
      cases s₁
      · exact lt (by simp only [place, Sign.apply]; omega)
      · exact gt (by simp only [place, Sign.apply]; omega)
    | finite s₂ m₂ e₂ hm₂ =>
      obtain ⟨hlow₂, hhigh₂, hmant₂, hnorm₂⟩ := hny
      have hmagnitude := compare_then_eq hlow₁ hlow₂ hmant₁ hmant₂ hnorm₁ hnorm₂
      cases s₁ <;> cases s₂
      · simp only [UnpackedFloat.compare, place, Sign.apply, hmagnitude, compare_neg]
      · exact lt (by simp only [place, Sign.apply]; omega)
      · exact gt (by simp only [place, Sign.apply]; omega)
      · simp only [UnpackedFloat.compare, place, Sign.apply, hmagnitude]

/-! ## Numbers by their bits -/

theorem isNaN_eq_false_iff {x : Float} : x.isNaN = false ↔ x.toModel.unpack ≠ .notANumber := by
  show x.toModel.unpack.isNaN = false ↔ _
  cases x.toModel.unpack <;> simp [UnpackedFloat.isNaN]

/-- What is not a number has the bits of the one such datum; all others have smaller magnitudes. -/
theorem toBits_cases (x : Float) :
    (x.isNaN = true ∧ x.toBits.toNat = 2047 * 2 ^ 52 + 2 ^ 51) ∨
      (x.isNaN = false ∧ x.toBits.toNat % 2 ^ 63 ≤ 2047 * 2 ^ 52) := by
  rcases unpack_cases x.toModel.valid with ⟨hnan, hbits⟩ | ⟨hnum, -, -, hbits⟩
  · refine .inl ⟨?_, hbits⟩
    show (unpack .binary64 x.toModel.toBits.toBitVec).isNaN = true
    rw [hnan]
    rfl
  · exact .inr ⟨isNaN_eq_false_iff.2 hnum, hbits⟩

/-- Numbers compare as the signed integers of their bits do. -/
theorem compare_unpack {x y : Float} (hx : x.isNaN = false) (hy : y.isNaN = false) :
    x.toModel.unpack.compare y.toModel.unpack =
      some (compare (signedBits x.toBits.toNat) (signedBits y.toBits.toNat)) := by
  rw [isNaN_eq_false_iff] at hx hy
  obtain ⟨-, hnx, hpx, -⟩ := (unpack_cases x.toModel.valid).resolve_left fun h => hx h.1
  obtain ⟨-, hny, hpy, -⟩ := (unpack_cases y.toModel.valid).resolve_left fun h => hy h.1
  have hplace := compare_eq_compare_place hx hy hnx hny
  rw [Float.Model.unpack, Float.Model.unpack, hpx, hpy] at hplace
  exact hplace

theorem lt_iff_signedBits {x y : Float} (hx : x.isNaN = false) (hy : y.isNaN = false) :
    x < y ↔ signedBits x.toBits.toNat < signedBits y.toBits.toNat := by
  show decide ((x.toModel.unpack.compare y.toModel.unpack == some .lt) = true) = true ↔ _
  rw [compare_unpack hx hy, ← Int.compare_eq_lt]
  cases compare (signedBits x.toBits.toNat) (signedBits y.toBits.toNat) <;> decide

theorem beq_iff_signedBits {x y : Float} (hx : x.isNaN = false) (hy : y.isNaN = false) :
    (x == y) = true ↔ signedBits x.toBits.toNat = signedBits y.toBits.toNat := by
  show (x.toModel.unpack.compare y.toModel.unpack == some .eq) = true ↔ _
  rw [compare_unpack hx hy, ← Int.compare_eq_eq]
  cases compare (signedBits x.toBits.toNat) (signedBits y.toBits.toNat) <;> decide

theorem le_iff_signedBits {x y : Float} (hx : x.isNaN = false) (hy : y.isNaN = false) :
    x ≤ y ↔ signedBits x.toBits.toNat ≤ signedBits y.toBits.toNat := by
  show decide (((x.toModel.unpack.compare y.toModel.unpack).any (·.isLE)) = true) = true ↔ _
  rw [compare_unpack hx hy, ← Int.isLE_compare]
  cases compare (signedBits x.toBits.toNat) (signedBits y.toBits.toNat) <;> decide

/-- Of two numbers one is at least the other. -/
theorem le_of_not_lt {x y : Float} (hx : x.isNaN = false) (hy : y.isNaN = false) (h : ¬ x < y) :
    y ≤ x := by
  rw [lt_iff_signedBits hx hy] at h
  exact (le_iff_signedBits hy hx).2 (Int.not_lt.1 h)

theorem not_lt_of_le {x y : Float} (hx : x.isNaN = false) (hy : y.isNaN = false) (h : x ≤ y) :
    ¬ y < x := by
  rw [le_iff_signedBits hx hy] at h
  rw [lt_iff_signedBits hy hx]
  exact Int.not_lt.2 h

theorem isNaN_of_isFinite {x : Float} (h : x.isFinite = true) : x.isNaN = false := by
  have hunpack : x.toModel.unpack.isFinite = true := h
  refine isNaN_eq_false_iff.2 fun hnan => ?_
  rw [hnan] at hunpack
  cases hunpack

/-! ## The key of a number -/

theorem rankKey_eq (x : Float) :
    rankKey x = if x.toBits.toNat < 2 ^ 63 then (x.toBits.toNat : Int)
      else 2 ^ 63 - 1 - x.toBits.toNat := rfl

/-- The key sets the signed numbers apart from the others by one, so that the two zeros differ. -/
theorem rankKey_eq_signedBits (x : Float) :
    rankKey x = signedBits x.toBits.toNat - if isSigned x = true then 1 else 0 := by
  rw [rankKey_eq, signedBits]
  simp only [isSigned, decide_eq_true_eq]
  split <;> split <;> omega

theorem signedBits_of_isSigned {x : Float} :
    (isSigned x = true → signedBits x.toBits.toNat ≤ 0) ∧
      (isSigned x = false → 0 ≤ signedBits x.toBits.toNat) := by
  simp only [isSigned, signedBits, decide_eq_true_eq, decide_eq_false_iff_not]
  constructor <;> intro h <;> split <;> omega

/-- **The key orders all numbers as the total order does.** -/
theorem rankKey_le_iff {x y : Float} : rankKey x ≤ rankKey y ↔ TotalLe x y := by
  have hx : x.toBits.toNat < 2 ^ 64 := x.toBits.toNat_lt
  have hy : y.toBits.toNat < 2 ^ 64 := y.toBits.toNat_lt
  rcases toBits_cases y with ⟨hny, hby⟩ | ⟨hny, hby⟩
  · -- what is not a number comes last
    have hle : rankKey x ≤ rankKey y := by
      rw [rankKey_eq, rankKey_eq, hby]
      rcases toBits_cases x with ⟨-, hbx⟩ | ⟨-, hbx⟩ <;> split <;> omega
    exact iff_of_true hle (.inl hny)
  · rcases toBits_cases x with ⟨hnx, hbx⟩ | ⟨hnx, hbx⟩
    · refine iff_of_false ?_ ?_
      · rw [rankKey_eq, rankKey_eq, hbx]
        split <;> split <;> omega
      · rintro (hnan | ⟨hnum, -⟩)
        · rw [hny] at hnan
          cases hnan
        · rw [hnx] at hnum
          cases hnum
    · -- two numbers compare by their signed bits, and then by their signs
      obtain ⟨hxneg, hxpos⟩ := signedBits_of_isSigned (x := x)
      obtain ⟨hyneg, hypos⟩ := signedBits_of_isSigned (x := y)
      have hle : TotalLe x y ↔ signedBits x.toBits.toNat < signedBits y.toBits.toNat ∨
          (signedBits x.toBits.toNat = signedBits y.toBits.toNat ∧
            (isSigned x = true ∨ isSigned y = false)) := by
        rw [TotalLe, hnx, hny, lt_iff_signedBits hnx hny, beq_iff_signedBits hnx hny]
        simp
      rw [hle, rankKey_eq_signedBits, rankKey_eq_signedBits]
      cases hsx : isSigned x <;> cases hsy : isSigned y <;> simp [hsx, hsy] at * <;> omega

/-- **Different numbers have different keys.** -/
theorem rankKey_injective {x y : Float} (h : rankKey x = rankKey y) : x = y := by
  have hx : x.toBits.toNat < 2 ^ 64 := x.toBits.toNat_lt
  have hy : y.toBits.toNat < 2 ^ 64 := y.toBits.toNat_lt
  have hbits : x.toBits.toNat = y.toBits.toNat := by
    rw [rankKey_eq, rankKey_eq] at h
    split at h <;> split at h <;> omega
  obtain ⟨⟨bx, vx⟩⟩ := x
  obtain ⟨⟨by', vy⟩⟩ := y
  obtain rfl : bx = by' := UInt64.toNat_inj.1 hbits
  rfl

end GasAdvisor
