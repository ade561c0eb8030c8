import GasAdvisor.Proofs.Suggestion.TotalOrder

/-!
# Dividing counts

The similarity of two messages is a quotient of floating-point numbers that stand for counts. A count
below `2 ^ 64` stands for a positive finite number, whether or not it can be told exactly
(`exists_unpack_ofNat`), and a positive finite number divided by itself is one, without a rounding
error (`ofNat_div_self`).

That a count stays finite follows from what rounding does to a mantissa with at least 53 bits: it is
cut to its first 53 bits and goes up by one at most, and the exponent makes up for the bits that are
dropped (`exists_roundWithAccuracy`).
-/

namespace GasAdvisor

open Float.Model Float.Model.UnpackedFloat

/-! ## Rounding -/

theorem mantissa_shiftRight (m : ExtendedMantissa) (k : Nat) :
    (m >>> k).mantissa = m.mantissa / 2 ^ k := by
  induction k with
  | zero => simp [HShiftRight.hShiftRight, Nat.repeat]
  | succ k ih =>
    have hstep : (m >>> (k + 1)).mantissa = (m >>> k).mantissa / 2 := rfl
    rw [hstep, ih, Nat.div_div_eq_div_mul, Nat.pow_succ]

theorem mantissa_ofMantissaAndAccuracy (m : Nat) (accuracy : Accuracy) :
    (ExtendedMantissa.ofMantissaAndAccuracy m accuracy).mantissa = m := by
  rcases accuracy with - | - | - | - <;> rfl

/-- Rounding takes the mantissa or the next one. -/
theorem roundedMantissa_mem (m : ExtendedMantissa) :
    m.mantissa ≤ m.roundedMantissa ∧ m.roundedMantissa ≤ m.mantissa + 1 := by
  obtain ⟨m, roundBit, stickyBit⟩ := m
  cases roundBit <;> cases stickyBit
  all_goals
    simp only [ExtendedMantissa.roundedMantissa, ExtendedMantissa.accuracy,
      Accuracy.roundToNearestEven]
    omega

theorem log2_mul_two_pow {m : Nat} (hm : m ≠ 0) (k : Nat) : (m * 2 ^ k).log2 = m.log2 + k := by
  induction k with
  | zero => rw [Nat.pow_zero, Nat.mul_one, Nat.add_zero]
  | succ k ih =>
    have hne : m * 2 ^ k ≠ 0 := Nat.mul_ne_zero hm (Nat.two_pow_pos k).ne'
    rw [Nat.pow_succ, ← Nat.mul_assoc, Nat.mul_comm _ 2, Nat.log2_two_mul hne, ih, Nat.add_assoc]

/-- The number of bits that is left of a mantissa. -/
theorem log2_div_two_pow {m k : Nat} (hk : m.log2 = 52 + k) : (m / 2 ^ k).log2 = 52 := by
  have hm : m ≠ 0 := by
    rintro rfl
    rw [Nat.log2_zero] at hk
    omega
  obtain ⟨hlow, hhigh⟩ := (Nat.log2_eq_iff hm).1 hk
  have hge : 2 ^ 52 ≤ m / 2 ^ k := by
    rw [Nat.le_div_iff_mul_le (Nat.two_pow_pos k), ← Nat.pow_add]
    exact hlow
  have hlt : m / 2 ^ k < 2 ^ 53 := by
    rw [Nat.div_lt_iff_lt_mul (Nat.two_pow_pos k), ← Nat.pow_add, Nat.add_right_comm 52 1 k]
    exact hhigh
  exact (Nat.log2_eq_iff (by omega)).2 ⟨hge, hlt⟩

theorem pos_of_log2 {m : Nat} (h : m.log2 = 52) : 0 < m := by
  refine Nat.pos_of_ne_zero ?_
  rintro rfl
  rw [Nat.log2_zero] at h
  omega

/-- A mantissa with 53 bits at least is shifted until it has as many. -/
theorem shiftToTargetExponent_eq {m k : Nat} {e : Int} (hk : m.log2 = 52 + k) (he : -1074 ≤ e + k)
    (accuracy : Accuracy) :
    shiftToTargetExponent .binary64 m e accuracy =
      (ExtendedMantissa.ofMantissaAndAccuracy m accuracy >>> k, e + k) := by
  have htarget : Format.binary64.targetExponent (totalExponent m e) = e + k := by
    simp only [Format.targetExponent, totalExponent, Format.mantissaBits, Format.minExponent, hk]
    norm_num
    omega
  have hshift : (e + k - e).toNat = k := by omega
  rw [shiftToTargetExponent, htarget, shiftToExponent, hshift]

/-- **Rounding keeps 53 bits.** The first shift leaves a mantissa of 53 bits; if it is rounded up to
the next power of two, the second shift drops one more bit. -/
theorem exists_roundWithAccuracy {m k : Nat} {e : Int} (hk : m.log2 = 52 + k) (he : -1074 ≤ e + k)
    (sign : Sign) (accuracy : Accuracy) :
    ∃ m' e' hpos, roundWithAccuracy .binary64 sign m e accuracy = .finite sign m' e' hpos ∧
      m'.log2 = 52 ∧ e + k ≤ e' ∧ e' ≤ e + k + 1 := by
  set first := ExtendedMantissa.ofMantissaAndAccuracy m accuracy >>> k with hfirst
  have hbits : first.mantissa.log2 = 52 := by
    rw [hfirst, mantissa_shiftRight, mantissa_ofMantissaAndAccuracy, log2_div_two_pow hk]
  obtain ⟨hge, hlt⟩ := (Nat.log2_eq_iff (pos_of_log2 hbits).ne').1 hbits
  obtain ⟨hdown, hup⟩ := roundedMantissa_mem first
  obtain ⟨carry, hcarry, hlog⟩ : ∃ carry ≤ 1, first.roundedMantissa.log2 = 52 + carry := by
    by_cases h : first.roundedMantissa < 2 ^ 53
    · exact ⟨0, by omega, (Nat.log2_eq_iff (by omega)).2 ⟨by omega, h⟩⟩
    · exact ⟨1, le_rfl, (Nat.log2_eq_iff (by omega)).2 ⟨by omega, by omega⟩⟩
  have hfinal := log2_div_two_pow hlog
  refine ⟨first.roundedMantissa / 2 ^ carry, e + k + carry, pos_of_log2 hfinal, ?_, hfinal,
    by omega, by omega⟩
  rw [roundWithAccuracy, shiftToTargetExponent_eq hk he]
  simp only [← hfirst, shiftToTargetExponent_eq hlog (by omega : -1074 ≤ e + k + carry),
    mantissa_shiftRight, mantissa_ofMantissaAndAccuracy, (pos_of_log2 hfinal).ne', ↓reduceDIte]

/-! ## Packing -/

/-- **A number with 53 bits and an exponent in range is unpacked as it was packed.** -/
theorem unpack_pack {sign : Sign} {m : Nat} {e : Int} (hpos : 0 < m) (hm : m.log2 = 52)
    (hlow : -1074 ≤ e) (hhigh : e ≤ 971) :
    (Float.Model.pack (.finite sign m e hpos)).unpack = .finite sign m e hpos := by
  obtain ⟨hge, hlt⟩ := (Nat.log2_eq_iff hpos.ne').1 hm
  obtain ⟨exponent, hexponent⟩ : ∃ exponent : Nat, exponent = (e + 1075).toNat := ⟨_, rfl⟩
  have hbits : (BitVec.ofNat 11 exponent).toNat = exponent := by
    rw [BitVec.toNat_ofNat, Nat.mod_eq_of_lt (by omega)]
  have hones : BitVec.ofNat 11 exponent ≠ -1#11 := fun h => by
    have hones : (-1#11 : BitVec 11).toNat = 2047 := by decide
    rw [h, hones] at hbits
    omega
  have hzero : BitVec.ofNat 11 exponent ≠ 0#11 := fun h => by
    rw [h] at hbits
    simp at hbits
    omega
  have hmantissa : (1#1 ++ BitVec.ofNat 52 m).toNat = m := by
    rw [toNat_one_append, BitVec.toNat_ofNat]
    omega
  have hpack : UnpackedFloat.pack .binary64 (.finite sign m e hpos) =
      packComponents .binary64 sign (BitVec.ofNat 11 exponent) (BitVec.ofNat 52 m) := by
    have hbias : (e + (Format.binary64.exponentBias : Nat) + (52 : Nat)).toNat = exponent := by
      show (e + (1023 : Nat) + (52 : Nat)).toNat = exponent
      omega
    rw [UnpackedFloat.pack, hbias, if_neg (by show ¬2 ^ 11 ≤ exponent + 1; omega), hm]
    exact if_pos rfl
  show UnpackedFloat.unpack .binary64 (UnpackedFloat.pack .binary64 _) = _
  rw [hpack, UnpackedFloat.unpack]
  simp only [unpackMantissa_packComponents, unpackExponent_packComponents,
    unpackSign_packComponents, Sign.ofBitVec_toBitVec, hones, hzero, ↓reduceIte, hbits, hmantissa]
  congr 1
  show (exponent : Int) - ((1023 : Nat) + (52 : Nat)) = e
  omega

/-- **What rounding gives is finite.** -/
theorem exists_unpack_roundWithAccuracy {m k : Nat} {e : Int} (hk : m.log2 = 52 + k)
    (hlow : -1074 ≤ e + k) (hhigh : e + k ≤ 970) (sign : Sign) (accuracy : Accuracy) :
    ∃ m' e' hpos,
      (Float.Model.pack (roundWithAccuracy .binary64 sign m e accuracy)).unpack =
        .finite sign m' e' hpos ∧ m'.log2 = 52 ∧ e + k ≤ e' ∧ e' ≤ e + k + 1 := by
  obtain ⟨m', e', hpos, hround, hlog, hle, hle'⟩ := exists_roundWithAccuracy hk hlow sign accuracy
  refine ⟨m', e', hpos, ?_, hlog, hle, hle'⟩
  rw [hround, unpack_pack hpos hlog (by omega) (by omega)]

/-! ## Counts -/

/-- A positive finite number divided by itself is one: the quotient of the mantissas is a power of two
without a remainder, whatever they are. -/
theorem div_self_of_unpack {x : Float} {m : Nat} {e : Int} {hpos : 0 < m}
    (h : x.toModel.unpack = .finite .positive m e hpos) : x / x = 1 := by
  have hcore : divCore .binary64 m e m e = (2 ^ 53, -53, .exact) := by
    have htarget : min 0 (Format.binary64.targetExponent 0) = -53 := by decide
    rw [divCore, Int.sub_self, Int.sub_self, htarget]
    have hshift : m <<< (0 - -53 : Int).toNat = 2 ^ 53 * m := by
      rw [Nat.shiftLeft_eq, Nat.mul_comm]
      rfl
    simp only [hshift, Nat.mul_div_cancel _ hpos, Nat.mul_mod_left, accuracyOfFraction, ↓reduceIte]
  have hdiv : UnpackedFloat.div .binary64 x.toModel.unpack x.toModel.unpack =
      roundWithAccuracy .binary64 .positive (2 ^ 53) (-53) .exact := by
    rw [h, UnpackedFloat.div, hcore]
    rfl
  show Float.ofModel (Float.Model.pack (UnpackedFloat.div .binary64 _ _)) = 1
  rw [hdiv]
  decide +kernel

/-- A count with 53 bits at most is converted by filling its mantissa up. -/
theorem exists_unpack_toFloat {n : Nat} (hpos : 0 < n) (hn : n < 2 ^ 53) :
    ∃ m e hpos, n.toUInt64.toFloat.toModel.unpack = .finite .positive m e hpos ∧
      m.log2 = 52 ∧ -52 ≤ e ∧ e ≤ 1 := by
  have hlog : n.log2 < 53 := (Nat.log2_lt hpos.ne').2 hn
  obtain ⟨fill, hfill⟩ : ∃ fill, n.log2 + fill = 52 := ⟨52 - n.log2, by omega⟩
  have hbits : (n * 2 ^ fill).log2 = 52 + 0 := by
    rw [log2_mul_two_pow hpos.ne', hfill]
  have hround : UnpackedFloat.ofUInt64 .binary64 n.toUInt64 =
      roundWithAccuracy .binary64 .positive (n * 2 ^ fill) (-fill) .exact := by
    have hcount : n.toUInt64.toNat = n :=
      UInt64.toNat_ofNat_of_lt' (by show n < 2 ^ 64; omega)
    have htarget : Format.binary64.targetExponent (totalExponent n 0) = -fill := by
      simp only [Format.targetExponent, totalExponent, Format.mantissaBits, Format.minExponent]
      norm_num
      omega
    have hshift : (- -fill : Int).toNat = fill := by omega
    rw [UnpackedFloat.ofUInt64, UnpackedFloat.ofNat, UnpackedFloat.ofInt, UnpackedFloat.normalize,
      hcount, Int.compare_eq_gt.2 (by omega)]
    simp only [UnpackedFloat.round, decreaseExponent, Int.toNat_natCast, htarget, Int.zero_sub,
      hshift, Nat.shiftLeft_eq]
  obtain ⟨m, e, hm, hunpack, hlog', hlow, hhigh⟩ :=
    exists_unpack_roundWithAccuracy hbits (e := -fill) (by omega) (by omega) .positive .exact
  refine ⟨m, e, hm, ?_, hlog', by omega, by omega⟩
  show (Float.Model.pack (UnpackedFloat.ofUInt64 .binary64 n.toUInt64)).unpack = _
  rw [hround, hunpack]

/-- **A positive count stands for a positive finite number.** A count with 53 bits at most is converted
as it is and multiplied by one, any other is shifted and multiplied by one. -/
theorem exists_unpack_ofNat {n : Nat} (hpos : 0 < n) (hn : n < 2 ^ 64) :
    ∃ m e hpos, (Float.ofNat n).toModel.unpack = .finite .positive m e hpos := by
  have hlog : n.log2 < 64 := (Nat.log2_lt hpos.ne').2 hn
  show ∃ m e hpos, (Float.ofScientific n false 0).toModel.unpack = .finite .positive m e hpos
  rw [Float.ofScientific]
  split
  next h =>
    obtain ⟨m, e, hm, hunpack, hlog, hlow, hhigh⟩ := exists_unpack_toFloat hpos h.1
    have hone : (Float.ofBits 0x3FF0000000000000).toModel.unpack =
        .finite .positive (2 ^ 52) (-52) (by decide) := rfl
    have hbits : (m * 2 ^ 52).log2 = 52 + 52 := by rw [log2_mul_two_pow hm.ne', hlog]
    obtain ⟨m', e', hm', hunpack', -⟩ := exists_unpack_roundWithAccuracy hbits (e := e + -52)
      (by omega) (by omega) .positive .exact
    refine ⟨m', e', hm', ?_⟩
    show (Float.Model.pack (UnpackedFloat.mul .binary64 n.toUInt64.toFloat.toModel.unpack
      (Float.ofBits 0x3FF0000000000000).toModel.unpack)).unpack = _
    rw [hunpack, hone]
    exact hunpack'
  next h =>
    have hge : 53 ≤ n.log2 := (Nat.le_log2 hpos.ne').2 (by omega)
    have hbits : (n * 2 ^ 53).log2 = 52 + (n.log2 + 1) := by
      rw [log2_mul_two_pow hpos.ne']
      omega
    obtain ⟨m', e', hm', hunpack', -⟩ := exists_unpack_roundWithAccuracy hbits (e := -53)
      (by omega) (by omega) .positive .exact
    refine ⟨m', e', hm', ?_⟩
    rw [← hunpack']
    show (Float.Model.pack (UnpackedFloat.ofScientific .binary64 n 0)).unpack = _
    have hexponent : ¬(0 : Int) < -((2 ^ Format.binary64.exponentBits : Int) + n.log2) := by
      have := Int.pow_pos (n := 2) (m := Format.binary64.exponentBits) (by decide)
      omega
    rw [UnpackedFloat.ofScientific, dif_neg hpos.ne', if_neg (by decide), if_neg hexponent,
      if_pos le_rfl]
    have hproduct : n <<< Format.binary64.mantissaBits * 10 ^ (0 : Int).toNat = n * 2 ^ 53 := by
      rw [Nat.shiftLeft_eq]
      exact Nat.mul_one _
    rw [UnpackedFloat.mul, hproduct]
    rfl

/-- **A positive count divided by itself is one.** -/
theorem ofNat_div_self {n : Nat} (hpos : 0 < n) (hn : n < 2 ^ 64) :
    Float.ofNat n / Float.ofNat n = 1 := by
  obtain ⟨m, e, hm, h⟩ := exists_unpack_ofNat hpos hn
  exact div_self_of_unpack h

end GasAdvisor
