import Worksheet.Proofs.Number.Interval

/-!
# The bits of a number

The bits of a positive number are its significand, with the exponent counted in units above it
(`toNat_bits`), so they determine the number.  Packing a number writes these bits, and unpacking
reads them.
-/

namespace Worksheet.Number

open Float.Model Float.Model.UnpackedFloat

/-- A finite number without a minus sign. -/
def Unsigned (x : Float) : Prop :=
  ∃ m q, Binary.ofFloat x = .finite false m q

/-! ### Reading the bits -/

theorem ofFloat_eq (x : Float) : Binary.ofFloat x =
    if x.toBits.toNat / 2 ^ 52 % 2048 = 2047 then
      if x.toBits.toNat % 2 ^ 52 = 0 then .infinite (x.toBits.toNat / 2 ^ 63 == 1) else .nan
    else if x.toBits.toNat / 2 ^ 52 % 2048 = 0 then
      .finite (x.toBits.toNat / 2 ^ 63 == 1) (x.toBits.toNat % 2 ^ 52) (-1074)
    else
      .finite (x.toBits.toNat / 2 ^ 63 == 1) (2 ^ 52 + x.toBits.toNat % 2 ^ 52)
        (-1074 + (x.toBits.toNat / 2 ^ 52 % 2048 - 1 : ℕ)) := rfl

/-- What the bits of a finite number are. -/
theorem ofFloat_eq_finite {x : Float} {negative : Bool} {m : ℕ} {q : ℤ}
    (h : Binary.ofFloat x = .finite negative m q) :
    (x.toBits.toNat / 2 ^ 63 == 1) = negative ∧ x.toBits.toNat / 2 ^ 52 % 2048 ≠ 2047 ∧
      (x.toBits.toNat / 2 ^ 52 % 2048 = 0 ∧ m = x.toBits.toNat % 2 ^ 52 ∧ q = -1074 ∨
        x.toBits.toNat / 2 ^ 52 % 2048 ≠ 0 ∧ m = 2 ^ 52 + x.toBits.toNat % 2 ^ 52 ∧
          q = -1074 + (x.toBits.toNat / 2 ^ 52 % 2048 - 1 : ℕ)) := by
  rw [ofFloat_eq] at h
  split at h
  · split at h <;> cases h
  · next hfinite =>
    split at h
    · next hzero =>
      obtain ⟨rfl, rfl, rfl⟩ := Binary.finite.inj h
      exact ⟨rfl, hfinite, Or.inl ⟨hzero, rfl, rfl⟩⟩
    · next hzero =>
      obtain ⟨rfl, rfl, rfl⟩ := Binary.finite.inj h
      exact ⟨rfl, hfinite, Or.inr ⟨hzero, rfl, rfl⟩⟩

/-- The bits of an unsigned number are its significand, the exponent being counted above it. -/
theorem toNat_bits {x : Float} {m : ℕ} {q : ℤ} (h : Binary.ofFloat x = .finite false m q) :
    x.toBits.toNat = (q + 1074).toNat * 2 ^ 52 + m ∧ (0 < m → Canonical m q) := by
  have hlt := x.toBits.toNat_lt
  obtain ⟨hsign, hfinite, hparts⟩ := ofFloat_eq_finite h
  rw [beq_eq_false_iff_ne] at hsign
  generalize x.toBits.toNat = bits at *
  rcases hparts with ⟨hzero, rfl, rfl⟩ | ⟨hzero, rfl, rfl⟩
  · exact ⟨by omega, fun hm => ⟨hm, by omega, by omega, by omega, Or.inl rfl⟩⟩
  · exact ⟨by omega, fun hm => ⟨hm, by omega, by omega, by omega, Or.inr (by omega)⟩⟩

theorem eq_of_toNat_bits {x y : Float} (h : x.toBits.toNat = y.toBits.toNat) : x = y := by
  obtain ⟨⟨a, ha⟩⟩ := x
  obtain ⟨⟨b, hb⟩⟩ := y
  obtain rfl : a = b := UInt64.toNat_inj.1 h
  rfl

theorem toNat_unpackExponent (b : BitVec 64) :
    (@unpackExponent Format.binary64 b).toNat = b.toNat / 2 ^ 52 % 2048 := by
  show (b.extractLsb 62 52).toNat = _
  rw [BitVec.extractLsb_toNat, Nat.shiftRight_eq_div_pow]

theorem isFinite_iff (x : Float) :
    x.isFinite = true ↔ x.toBits.toNat / 2 ^ 52 % 2048 ≠ 2047 := by
  have hones : @unpackExponent Format.binary64 x.toBits.toBitVec = -1#11 ↔
      x.toBits.toNat / 2 ^ 52 % 2048 = 2047 := by
    rw [← BitVec.toNat_inj, toNat_unpackExponent]
    rfl
  show (UnpackedFloat.unpack Format.binary64 x.toBits.toBitVec).isFinite = true ↔ _
  rw [Ne, ← hones]
  unfold UnpackedFloat.unpack
  dsimp only
  split
  · next h =>
    split
    · exact iff_of_false Bool.false_ne_true (not_not_intro h)
    · exact iff_of_false Bool.false_ne_true (not_not_intro h)
  · next h =>
    split
    · split
      · exact iff_of_true rfl h
      · exact iff_of_true rfl h
    · exact iff_of_true rfl h

theorem isFinite_of_ofFloat {x : Float} {negative : Bool} {m : ℕ} {q : ℤ}
    (h : Binary.ofFloat x = .finite negative m q) : x.isFinite = true :=
  (isFinite_iff x).2 (ofFloat_eq_finite h).2.1

theorem Unsigned.isFinite {x : Float} (h : Unsigned x) : x.isFinite = true := by
  obtain ⟨m, q, hx⟩ := h
  exact isFinite_of_ofFloat hx

/-! ### Packing -/

theorem toNat_packComponents (s : Sign) (e : BitVec 11) (m : BitVec 52) :
    (packComponents Format.binary64 s e m).toNat =
      s.toBitVec.toNat * 2 ^ 63 + e.toNat * 2 ^ 52 + m.toNat := by
  show (s.toBitVec ++ e ++ m).toNat = _
  rw [BitVec.toNat_append, BitVec.toNat_append, ← Nat.shiftLeft_add_eq_or_of_lt e.isLt,
    ← Nat.shiftLeft_add_eq_or_of_lt m.isLt, Nat.shiftLeft_eq, Nat.shiftLeft_eq]
  ring

/-- Packing writes the significand and, in units above it, the exponent. -/
theorem toNat_pack {m : ℕ} {q : ℤ} (hm : Canonical m q) :
    (pack (.finite .positive m q hm.pos)).toBits.toNat = (q + 1074).toNat * 2 ^ 52 + m := by
  have hlow := hm.least_le
  have hhigh := hm.le_greatest
  have hsign : Sign.positive.toBitVec.toNat = 0 := rfl
  show (if 2 ^ 11 ≤ (q + 1023 + 52).toNat + 1 then packedInfinity Format.binary64 .positive
    else if m.log2 + 1 = 53 then
      packComponents Format.binary64 .positive (BitVec.ofNat 11 (q + 1023 + 52).toNat)
        (BitVec.ofNat 52 m)
    else packComponents Format.binary64 .positive 0#11 (BitVec.ofNat 52 m)).toNat = _
  rw [if_neg (by omega)]
  by_cases hfull : 2 ^ 52 ≤ m
  · have hlog : m.log2 + 1 = 53 := by
      rw [(Nat.log2_eq_iff hm.pos.ne').2 ⟨hfull, hm.lt⟩]
    have hlt := hm.lt
    rw [if_pos hlog, toNat_packComponents, BitVec.toNat_ofNat, BitVec.toNat_ofNat,
      Nat.mod_eq_of_lt (by omega : (q + 1023 + 52).toNat < 2 ^ 11), hsign]
    omega
  · have hlog : m.log2 + 1 ≠ 53 := by
      have := (Nat.log2_lt hm.pos.ne').2 (Nat.lt_of_not_le hfull)
      omega
    have hq : q = -1074 := hm.full.resolve_right hfull
    rw [if_neg hlog, toNat_packComponents, BitVec.toNat_ofNat, BitVec.toNat_ofNat, hsign, hq]
    omega

/-- **A positive number is what its significand and exponent are packed to.** -/
theorem eq_pack {x : Float} {m : ℕ} {q : ℤ} (h : Binary.ofFloat x = .finite false m q)
    (hm : 0 < m) : x = .ofModel (pack (.finite .positive m q hm)) := by
  obtain ⟨hbits, hcanonical⟩ := toNat_bits h
  exact eq_of_toNat_bits (hbits.trans (toNat_pack (hcanonical hm)).symm)

theorem unpackSign_packComponents (s : Sign) (e : BitVec 11) (m : BitVec 52) :
    Sign.ofBitVec (unpackSign (packComponents Format.binary64 s e m)) = s := by
  have hsign : unpackSign (packComponents Format.binary64 s e m) = s.toBitVec := by
    rw [← BitVec.toNat_inj]
    show ((packComponents Format.binary64 s e m).extractLsb 63 63).toNat = _
    rw [BitVec.extractLsb_toNat, Nat.shiftRight_eq_div_pow, toNat_packComponents]
    omega
  rw [hsign]
  cases s <;> rfl

/-- A number with all 53 bits is unpacked from what it is packed to. -/
theorem unpack_pack {m : ℕ} {q : ℤ} (hm : Canonical m q) (hfull : 2 ^ 52 ≤ m) :
    (pack (.finite .positive m q hm.pos)).unpack = .finite .positive m q hm.pos := by
  have hlow := hm.least_le
  have hhigh := hm.le_greatest
  have hlt := hm.lt
  have hlog : m.log2 + 1 = 53 := by rw [(Nat.log2_eq_iff hm.pos.ne').2 ⟨hfull, hm.lt⟩]
  set exponent := BitVec.ofNat 11 (q + 1023 + 52).toNat with hexponent
  set mantissa := BitVec.ofNat 52 m with hmantissa
  have hpack : UnpackedFloat.pack Format.binary64 (.finite .positive m q hm.pos) =
      packComponents Format.binary64 .positive exponent mantissa := by
    show (if 2 ^ 11 ≤ (q + 1023 + 52).toNat + 1 then _ else if m.log2 + 1 = 53 then _ else _) = _
    rw [if_neg (by omega), if_pos hlog]
    rfl
  have hvalue : exponent.toNat = (q + 1023 + 52).toNat := by
    rw [hexponent, BitVec.toNat_ofNat]
    omega
  have hnones : exponent ≠ -1#11 := by
    intro h
    have hones : (q + 1023 + 52).toNat = 2047 := hvalue.symm.trans (congrArg BitVec.toNat h)
    omega
  have hnzero : exponent ≠ 0#11 := by
    intro h
    have hzero : (q + 1023 + 52).toNat = 0 := hvalue.symm.trans (congrArg BitVec.toNat h)
    omega
  have hsignificand : (1#1 ++ mantissa).toNat = m := by
    rw [BitVec.toNat_append, ← Nat.shiftLeft_add_eq_or_of_lt mantissa.isLt, Nat.shiftLeft_eq,
      hmantissa, BitVec.toNat_ofNat, BitVec.toNat_ofNat]
    omega
  show UnpackedFloat.unpack Format.binary64
    (UnpackedFloat.pack Format.binary64 (.finite .positive m q hm.pos)) = _
  rw [hpack]
  unfold UnpackedFloat.unpack
  simp only [unpackExponent_packComponents, unpackMantissa_packComponents,
    unpackSign_packComponents, if_neg hnones, if_neg hnzero, hsignificand, hvalue]
  congr 1
  show ((q + 1023 + 52).toNat : ℤ) - (1023 + 52) = q
  omega

end Worksheet.Number
