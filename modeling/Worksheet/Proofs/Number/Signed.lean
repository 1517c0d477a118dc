import Worksheet.Proofs.Number.ReadBack

/-!
# Numbers with a sign

The sign of a number is a bit of its own (`toNat_bits_neg`).  So what a cell writes for a finite
number is read as this number, except that zero is written without its sign
(`exists_readFinite?_write`).
-/

namespace Worksheet.Number

open Float.Model Float.Model.UnpackedFloat

/-! ### The sign bit -/

theorem toNat_toBitVec_neg (s : Sign) : (-s).toBitVec.toNat + s.toBitVec.toNat = 1 := by
  cases s <;> rfl

/-- A finite number is packed to the same fields with either sign. -/
theorem exists_packComponents {u : UnpackedFloat} (h : u.isFinite = true) :
    ∃ (s : Sign) (e : BitVec 11) (m : BitVec 52),
      UnpackedFloat.pack Format.binary64 u = packComponents Format.binary64 s e m ∧
      UnpackedFloat.pack Format.binary64 u.neg = packComponents Format.binary64 (-s) e m := by
  cases u with
  | notANumber => cases h
  | infinity s => cases h
  | zero s => exact ⟨s, 0, 0, rfl, rfl⟩
  | finite s m e hm =>
    unfold UnpackedFloat.neg UnpackedFloat.pack
    dsimp only
    split
    · exact ⟨s, -1#11, 0, rfl, rfl⟩
    · split
      · exact ⟨s, _, _, rfl, rfl⟩
      · exact ⟨s, _, _, rfl, rfl⟩

section Neg

variable {x : Float} (hx : x.isFinite = true)
include hx

theorem pack_unpack_toBits :
    UnpackedFloat.pack Format.binary64 x.toModel.unpack = x.toBits.toBitVec := by
  have hnan : @isNaNBits Format.binary64 x.toBits.toBitVec = false := by
    refine decide_eq_false fun h => (isFinite_iff x).1 hx ?_
    exact (toNat_unpackExponent x.toBits.toBitVec).symm.trans (congrArg BitVec.toNat h.1)
  refine (@pack_unpack Format.binary64 x.toBits.toBitVec (by decide)).trans ?_
  rw [hnan, if_neg Bool.false_ne_true]

/-- **A minus sign turns the first bit over.** -/
theorem toNat_bits_neg : (-x).toBits.toNat = (x.toBits.toNat + 2 ^ 63) % 2 ^ 64 := by
  obtain ⟨s, e, m, hpack, hneg⟩ := exists_packComponents (u := x.toModel.unpack) hx
  have hbits : x.toBits.toNat = s.toBitVec.toNat * 2 ^ 63 + e.toNat * 2 ^ 52 + m.toNat := by
    rw [← toNat_packComponents, ← hpack, pack_unpack_toBits hx]
    rfl
  have hbits' : (-x).toBits.toNat = (-s).toBitVec.toNat * 2 ^ 63 + e.toNat * 2 ^ 52 + m.toNat := by
    rw [← toNat_packComponents, ← hneg]
    rfl
  have hsign := toNat_toBitVec_neg s
  have he := e.isLt
  have hm := m.isLt
  omega

theorem isFinite_neg : (-x).isFinite = true := by
  have hfinite := (isFinite_iff x).1 hx
  rw [isFinite_iff, toNat_bits_neg hx]
  omega

theorem neg_neg_self : -(-x) = x := by
  have hlt := x.toBits.toNat_lt
  refine eq_of_toNat_bits ?_
  rw [toNat_bits_neg (isFinite_neg hx), toNat_bits_neg hx]
  omega

end Neg

/-- A finite number is taken apart into sign, significand and exponent. -/
theorem exists_ofFloat {x : Float} (h : x.isFinite = true) :
    ∃ negative m q, Binary.ofFloat x = .finite negative m q := by
  rw [ofFloat_eq, if_neg ((isFinite_iff x).1 h)]
  split
  · exact ⟨_, _, _, rfl⟩
  · exact ⟨_, _, _, rfl⟩

theorem canonical_of_ofFloat {x : Float} {negative : Bool} {m : ℕ} {q : ℤ}
    (h : Binary.ofFloat x = .finite negative m q) (hm : 0 < m) : Canonical m q := by
  obtain ⟨-, hfinite, ⟨-, rfl, rfl⟩ | ⟨hzero, rfl, rfl⟩⟩ := ofFloat_eq_finite h
  · exact ⟨hm, by omega, by omega, by omega, Or.inl rfl⟩
  · exact ⟨hm, by omega, by omega, by omega, Or.inr (by omega)⟩

theorem ofFloat_neg {x : Float} {negative : Bool} {m : ℕ} {q : ℤ}
    (h : Binary.ofFloat x = .finite negative m q) :
    Binary.ofFloat (-x) = .finite (!negative) m q := by
  have hbits := toNat_bits_neg (isFinite_of_ofFloat h)
  have hlt := x.toBits.toNat_lt
  obtain ⟨hsign, hfinite, hparts⟩ := ofFloat_eq_finite h
  have hpower : (-x).toBits.toNat / 2 ^ 52 % 2048 = x.toBits.toNat / 2 ^ 52 % 2048 := by omega
  have hfraction : (-x).toBits.toNat % 2 ^ 52 = x.toBits.toNat % 2 ^ 52 := by omega
  have hsign' : ((-x).toBits.toNat / 2 ^ 63 == 1) = !negative := by
    rw [← hsign, Bool.eq_iff_iff]
    simp only [Bool.not_eq_true', beq_eq_false_iff_ne, beq_iff_eq]
    omega
  rw [ofFloat_eq, hpower, hfraction, hsign', if_neg hfinite]
  rcases hparts with ⟨hzero, rfl, rfl⟩ | ⟨hzero, rfl, rfl⟩
  · rw [if_pos hzero]
  · rw [if_neg hzero]

/-- A finite number is equal to itself. -/
theorem beq_self {x : Float} (hx : x.isFinite = true) : (x == x) = true := by
  have hfinite : x.toModel.unpack.isFinite = true := hx
  show (x.toModel.unpack.compare x.toModel.unpack == some Ordering.eq) = true
  generalize x.toModel.unpack = u at hfinite ⊢
  cases u with
  | notANumber => cases hfinite
  | infinity s => cases hfinite
  | zero s => cases s <;> rfl
  | finite s m e hm => cases s <;> simp [UnpackedFloat.compare]

/-! ### Reading back -/

/-- Behind a minus sign a numeral is the same but for its sign. -/
theorem ofChars?_minus {s : List Char} (h : splitSign s = (false, s)) :
    Numeral.ofChars? ('-' :: s) =
      (Numeral.ofChars? s).map fun n => { n with negative := true } := by
  have hminus : splitSign ('-' :: s) = (true, s) := rfl
  unfold Numeral.ofChars?
  rw [hminus, h]
  dsimp only
  split
  · split
    · rfl
    · rw [Option.map_map]
      rfl
  · split
    · rfl
    · rw [Option.map_map]
      rfl

theorem readFinite?_minus {w f s : List Char} {x : Float} (hs : Plain w f s)
    (hread : Numeral.toFloat ⟨false, w, f, 0⟩ = x) (hx : x.isFinite = true) :
    readFinite? ('-' :: s) = some (-x) := by
  have hsign : splitSign s = (false, s) := by
    obtain ⟨c, cs, rfl, hc⟩ := hs.exists_cons
    exact splitSign_of_isDigit hc cs
  have hneg : Numeral.toFloat ⟨true, w, f, 0⟩ = -x := by
    rw [← hread]
    rfl
  unfold readFinite?
  rw [ofChars?_minus hsign, hs.ofChars?, Option.map_some, Option.bind_some, hneg,
    if_pos (isFinite_neg hx)]

/-- A number with a minus sign is written with it, unless it is zero. -/
theorem write_neg {x : Float} {m : ℕ} {q : ℤ} (h : Binary.ofFloat x = .finite false m q) :
    Value.layout.write (-x) =
      if m = 0 then Value.layout.write x else '-' :: Value.layout.write x := by
  unfold Layout.write
  rw [ofFloat_neg h, h]
  by_cases hm : m = 0
  · simp [hm, Value.layout]
  · simp [hm, Value.layout]

/-- A cell writes a finite number as a plain numeral, behind a minus sign or not. -/
theorem exists_plain_write {x : Float} (hx : x.isFinite = true) :
    ∃ w f s, Plain w f s ∧
      (Value.layout.write x = s ∧ (Numeral.toFloat ⟨false, w, f, 0⟩ = x ∨
          x = -0.0 ∧ Numeral.toFloat ⟨false, w, f, 0⟩ = 0.0) ∨
        Value.layout.write x = '-' :: s ∧ Numeral.toFloat ⟨false, w, f, 0⟩ = -x) := by
  obtain ⟨negative, m, q, h⟩ := exists_ofFloat hx
  cases negative with
  | false =>
    obtain ⟨w, f, hplain, hread⟩ := plain_write ⟨m, q, h⟩
    exact ⟨w, f, _, hplain, Or.inl ⟨rfl, Or.inl hread⟩⟩
  | true =>
    have hunsigned : Binary.ofFloat (-x) = .finite false m q := ofFloat_neg h
    obtain ⟨w, f, hplain, hread⟩ := plain_write ⟨m, q, hunsigned⟩
    have hwrite := write_neg hunsigned
    rw [neg_neg_self hx] at hwrite
    refine ⟨w, f, _, hplain, ?_⟩
    rw [hwrite]
    by_cases hm : m = 0
    · subst hm
      have hzero : -x = 0.0 := eq_zero_of_ofFloat hunsigned
      rw [if_pos rfl]
      exact Or.inl ⟨rfl, Or.inr ⟨by rw [← hzero, neg_neg_self hx], hread.trans hzero⟩⟩
    · rw [if_neg hm]
      exact Or.inr ⟨rfl, hread⟩

/-- **What a cell writes for a finite number is read as an equal one**: the same number, or zero
without its sign. -/
theorem exists_readFinite?_write {x : Float} (hx : x.isFinite = true) :
    ∃ y, readFinite? (Value.layout.write x) = some y ∧ (y = x ∨ x = -0.0 ∧ y = 0.0) := by
  obtain ⟨w, f, s, hplain, ⟨hwrite, hread⟩ | ⟨hwrite, hread⟩⟩ := exists_plain_write hx
  · refine ⟨Numeral.toFloat ⟨false, w, f, 0⟩, ?_, hread⟩
    have hfinite : (Numeral.toFloat ⟨false, w, f, 0⟩).isFinite = true := by
      rcases hread with hread | ⟨-, hread⟩
      · rwa [hread]
      · rw [hread]
        exact unsigned_zero.isFinite
    unfold readFinite?
    rw [hwrite, hplain.ofChars?, Option.bind_some, if_pos hfinite]
  · refine ⟨x, ?_, Or.inl rfl⟩
    rw [hwrite, readFinite?_minus hplain hread (isFinite_neg hx), neg_neg_self hx]

end Worksheet.Number
