import Worksheet.Proofs.Number.Order
import Worksheet.Proofs.Number.Rounded

/-!
# Results that are finite

A significand that is not too large for its exponent is rounded to a finite number
(`isFinite_roundWithAccuracy`).  So the square root of a finite number is finite, and so are its
absolute value and every count that a machine could come to.
-/

namespace Worksheet.Number

open Float.Model Float.Model.UnpackedFloat

/-! ### Packing and rounding -/

theorem isFinite_pack_finite (s : Sign) {m : ℕ} {e : ℤ} (hm : 0 < m) (he : e ≤ 971) :
    (Float.ofModel (pack (.finite s m e hm))).isFinite = true := by
  have hsign := s.toBitVec.isLt
  have hfraction := (BitVec.ofNat 52 m).isLt
  rw [isFinite_iff]
  show (if 2 ^ 11 ≤ (e + 1023 + 52).toNat + 1 then packedInfinity Format.binary64 s
    else if m.log2 + 1 = 53 then
      packComponents Format.binary64 s (BitVec.ofNat 11 (e + 1023 + 52).toNat) (BitVec.ofNat 52 m)
    else packComponents Format.binary64 s 0#11 (BitVec.ofNat 52 m)).toNat / 2 ^ 52 % 2048 ≠ 2047
  rw [if_neg (by omega)]
  split
  · have hexponent : (BitVec.ofNat 11 (e + 1023 + 52).toNat).toNat = (e + 1023 + 52).toNat := by
      rw [BitVec.toNat_ofNat]
      omega
    rw [toNat_packComponents, hexponent]
    omega
  · have hexponent : (0#11).toNat = 0 := rfl
    rw [toNat_packComponents, hexponent]
    omega

theorem mantissa_shiftRight (em : ExtendedMantissa) (k : ℕ) :
    (em >>> k).mantissa = em.mantissa / 2 ^ k := by
  induction k with
  | zero => exact (Nat.div_one _).symm
  | succ k ih =>
    show (em >>> k).mantissa / 2 = _
    rw [ih, Nat.div_div_eq_div_mul, pow_succ]

theorem roundedMantissa_le (em : ExtendedMantissa) : em.roundedMantissa ≤ em.mantissa + 1 := by
  obtain ⟨m, r, s⟩ := em
  cases r with
  | false => cases s <;> exact Nat.le_succ m
  | true =>
    cases s with
    | false =>
      show m + m % 2 ≤ m + 1
      omega
    | true => exact Nat.le_refl _

/-- The first shift leaves no more than 53 bits, and rounding adds at most one unit. -/
theorem roundedMantissa_shift_le (n : ℕ) (e : ℤ) (accuracy : Accuracy) :
    (ExtendedMantissa.ofMantissaAndAccuracy n accuracy >>> excess n e).roundedMantissa ≤
      2 ^ 53 := by
  have hmantissa : (ExtendedMantissa.ofMantissaAndAccuracy n accuracy).mantissa = n := by
    cases accuracy with
    | exact => rfl
    | inexact o => cases o <;> rfl
  have hbits : n.log2 + 1 ≤ 53 + excess n e := by
    unfold excess
    omega
  have hlt : n / 2 ^ excess n e < 2 ^ 53 := by
    rw [Nat.div_lt_iff_lt_mul (Nat.two_pow_pos _), ← pow_add]
    exact Nat.lt_log2_self.trans_le (Nat.pow_le_pow_right (by decide) hbits)
  have hround := roundedMantissa_le
    (ExtendedMantissa.ofMantissaAndAccuracy n accuracy >>> excess n e)
  rw [mantissa_shiftRight, hmantissa] at hround
  omega

/-- **What is below the greatest power of two is rounded to a finite number.** -/
theorem isFinite_roundWithAccuracy (s : Sign) {n : ℕ} {e : ℤ} (he : e ≤ 970)
    (hn : n.log2 + e ≤ 1022) (accuracy : Accuracy) :
    (Float.ofModel (pack (roundWithAccuracy Format.binary64 s n e accuracy))).isFinite = true := by
  have hr := roundedMantissa_shift_le n e accuracy
  unfold roundWithAccuracy
  rw [shiftToTargetExponent_eq]
  dsimp only
  generalize (ExtendedMantissa.ofMantissaAndAccuracy n accuracy >>> excess n e).roundedMantissa = r
    at *
  have hlog : r.log2 ≤ 53 := by
    rcases Nat.eq_zero_or_pos r with rfl | hpos
    · decide
    · have := (Nat.log2_lt hpos.ne').2 (hr.trans_lt (by decide : 2 ^ 53 < 2 ^ 54))
      omega
  have hfirst : e + excess n e ≤ 970 := by
    unfold excess
    omega
  have hsecond : e + excess n e + excess r (e + excess n e) ≤ 971 := by
    generalize e + (excess n e : ℤ) = e₁ at *
    unfold excess
    omega
  rw [shiftToTargetExponent_eq]
  dsimp only
  split
  · cases s <;> decide +kernel
  · exact isFinite_pack_finite s _ hsecond

/-! ### Absolute values and square roots -/

theorem log2_shiftLeft {n : ℕ} (hn : 0 < n) (k : ℕ) : (n <<< k).log2 = n.log2 + k := by
  have hlow := Nat.log2_self_le hn.ne'
  have hhigh := Nat.lt_log2_self (n := n)
  have hpos := Nat.two_pow_pos k
  rw [Nat.shiftLeft_eq, Nat.log2_eq_iff (Nat.mul_pos hn hpos).ne', Nat.add_right_comm, pow_add,
    pow_add]
  exact ⟨Nat.mul_le_mul_right _ hlow, Nat.mul_lt_mul_of_pos_right hhigh hpos⟩

/-- A number has no more than 53 bits, and its exponent is not above the greatest. -/
theorem bounds_of_unpack {x : Float} {s : Sign} {m : ℕ} {e : ℤ} {hm : 0 < m}
    (h : x.toModel.unpack = .finite s m e hm) : m < 2 ^ 53 ∧ e ≤ 971 := by
  change UnpackedFloat.unpack Format.binary64 x.toBits.toBitVec = _ at h
  have hexponent : (@unpackExponent Format.binary64 x.toBits.toBitVec).toNat < 2 ^ 11 :=
    BitVec.isLt _
  have hmantissa : (@unpackMantissa Format.binary64 x.toBits.toBitVec).toNat < 2 ^ 52 :=
    BitVec.isLt _
  unfold UnpackedFloat.unpack at h
  dsimp only at h
  split at h
  · split at h <;> cases h
  · next hones =>
    split at h
    · next hzero =>
      split at h
      · cases h
      · obtain ⟨-, rfl, rfl⟩ := UnpackedFloat.finite.inj h
        rw [hzero]
        exact ⟨by omega, by decide⟩
    · obtain ⟨-, rfl, rfl⟩ := UnpackedFloat.finite.inj h
      refine ⟨BitVec.isLt _, ?_⟩
      have hne : (@unpackExponent Format.binary64 x.toBits.toBitVec).toNat ≠ 2047 :=
        fun heq => hones (BitVec.eq_of_toNat_eq heq)
      show (_ : ℤ) - (1023 + 52) ≤ 971
      omega

theorem isFinite_abs {x : Float} (hx : x.isFinite = true) : x.abs.isFinite = true := by
  have hfinite : x.toModel.unpack.isFinite = true := hx
  show (Float.ofModel (pack x.toModel.unpack.abs)).isFinite = true
  cases h : x.toModel.unpack with
  | notANumber | infinity s =>
    rw [h] at hfinite
    cases hfinite
  | zero s =>
    show (Float.ofModel (pack (.zero .positive))).isFinite = true
    decide +kernel
  | finite s m e hm => exact isFinite_pack_finite .positive hm (bounds_of_unpack h).2

theorem log2_sqrt_le (n : ℕ) : 2 * n.sqrt.log2 ≤ n.log2 := by
  rcases Nat.eq_zero_or_pos n with rfl | hpos
  · decide
  rw [Nat.le_log2 hpos.ne', Nat.mul_comm, pow_mul]
  calc (2 ^ n.sqrt.log2) ^ 2 ≤ n.sqrt ^ 2 :=
        Nat.pow_le_pow_left (Nat.log2_self_le (Nat.sqrt_pos.2 hpos).ne') 2
    _ ≤ n := Nat.sqrt_le' n

theorem isFinite_sqrt {x : Float} (hx : x.isFinite = true) (hneg : ¬ x < 0.0) :
    x.sqrt.isFinite = true := by
  have hfinite : x.toModel.unpack.isFinite = true := hx
  show (Float.ofModel (pack (x.toModel.unpack.sqrt Format.binary64))).isFinite = true
  cases h : x.toModel.unpack with
  | notANumber | infinity s =>
    rw [h] at hfinite
    cases hfinite
  | zero s => cases s <;> decide +kernel
  | finite s m e hm =>
    cases s with
    | negative =>
      refine absurd ?_ hneg
      rw [lt_iff, h]
      rfl
    | positive =>
      obtain ⟨hlt, he⟩ := bounds_of_unpack h
      have hlog := (Nat.log2_lt hm.ne').2 hlt
      unfold UnpackedFloat.sqrt sqrtCore
      dsimp only
      generalize ht : min (e.ediv 2) (Format.binary64.targetExponent
        ((totalExponent m e + 1).ediv 2)) = t
      have hhalf : t ≤ e / 2 := ht ▸ min_le_left _ _
      have hroot := log2_sqrt_le (m <<< (e - 2 * t).toNat)
      rw [log2_shiftLeft hm] at hroot
      exact isFinite_roundWithAccuracy .positive (by omega) (by omega) _

/-! ### Counts -/

theorem isFinite_ofNat {n : ℕ} (hn : n < 2 ^ 128) : n.toFloat.isFinite = true := by
  rcases Nat.eq_zero_or_pos n with rfl | hpos
  · decide +kernel
  have hbits : n.log2 < 128 := (Nat.log2_lt hpos.ne').2 hn
  by_cases hsmall : n < 2 ^ 53
  · obtain ⟨m, e, hm, hu, -, -⟩ := normal_ofNat hpos hsmall
    show n.toFloat.toModel.unpack.isFinite = true
    rw [hu]
    rfl
  · have hlog : (n <<< 53 * 1).log2 = n.log2 + 53 := by rw [mul_one, log2_shiftLeft hpos]
    have hzero : (if false then Int.negOfNat 0 else Int.ofNat 0) = 0 := rfl
    show (Float.ofScientific n false 0).isFinite = true
    rw [ofScientific_eq (fun h => hsmall h.1), hzero, unpacked_ofScientific hpos,
      if_neg (by decide), if_neg (by omega), if_pos (by decide)]
    unfold UnpackedFloat.mul
    exact isFinite_roundWithAccuracy _ (by decide) (by rw [Int.toNat_zero, pow_zero]; omega) _

end Worksheet.Number
