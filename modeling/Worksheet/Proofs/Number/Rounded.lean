import Worksheet.Proofs.Number.ReadBack

/-!
# Numbers that decimals are read as

A finite number that a decimal is read as has the decimal in its interval (`isRounded_nearest`), so
it is the nearest number, and of two the one with the even significand.
-/

namespace Worksheet.Number

open Float.Model Float.Model.UnpackedFloat

/-- The value rounds to the number, which is finite and has no minus sign. -/
def IsRounded (x : Float) (v : ℚ) : Prop :=
  ∃ m q, Binary.ofFloat x = .finite false m q ∧ (Rounding.ofFinite m q).Contains v

theorem IsRounded.unsigned {x : Float} {v : ℚ} (h : IsRounded x v) : Unsigned x := by
  obtain ⟨m, q, hx, -⟩ := h
  exact ⟨m, q, hx⟩

/-! ### Intervals of nearest significands -/

section Interval

variable {m : ℕ} {q e : ℤ} {v : ℚ}

/-- Below a power of two, values are rounded at another exponent. -/
theorem contains_of_nearestEven (hm : 0 < m) (h : NearestEven m (v / 2 ^ q))
    (hpower : m = 2 ^ 52 → q ≠ -1074 → 2 ^ 52 * 2 ^ q ≤ v) :
    (Rounding.ofFinite m q).Contains v := by
  have hpos : (0 : ℚ) < 2 ^ q := zpow_pos (by decide) q
  obtain ⟨hlow, hhigh, heven⟩ := h
  rw [le_div_iff₀ hpos] at hlow
  rw [div_le_iff₀ hpos] at hhigh
  rw [div_eq_iff hpos.ne', div_eq_iff hpos.ne'] at heven
  unfold Rounding.Contains
  rw [Rounding.two_zpow_unit, Rounding.cast_high, Rounding.cast_low hm]
  refine ⟨?_, by linarith, fun hopen => ?_⟩
  · split
    · next hp =>
      have hvalue := hpower hp.1 hp.2
      rw [hp.1]
      push_cast
      linarith
    · linarith
  · have hodd : m % 2 ≠ 0 := beq_eq_false_iff_ne.1 hopen
    have hnot : ¬ (m = 2 ^ 52 ∧ q ≠ -1074) := fun hp => hodd (by rw [hp.1]; decide)
    rw [if_neg hnot]
    exact ⟨fun hv => hodd (heven (Or.inl (by linarith))),
      fun hv => hodd (heven (Or.inr (by linarith)))⟩

/-- What is rounded up to a power of two lies just below it. -/
theorem contains_of_nearestEven_power (he : -1074 ≤ e) (h : NearestEven (2 ^ 53) (v / 2 ^ e))
    (hlt : v < 2 ^ (e + 53)) : (Rounding.ofFinite (2 ^ 52) (e + 1)).Contains v := by
  have hpos : (0 : ℚ) < 2 ^ e := zpow_pos (by decide) e
  have hlow := h.1
  rw [le_div_iff₀ hpos] at hlow
  push_cast at hlow
  have hhalf : (2 : ℚ) ^ (e + 1) = 2 * 2 ^ e := by rw [zpow_add_one₀ two_ne_zero]; ring
  have hhigh : (2 : ℚ) ^ (e + 53) = 2 ^ 53 * 2 ^ e := by
    rw [← Rounding.two_zpow_add 53, add_comm]
    rfl
  rw [hhigh] at hlt
  unfold Rounding.Contains
  rw [Rounding.two_zpow_unit, Rounding.cast_high, Rounding.cast_low (by decide),
    if_pos ⟨rfl, by omega⟩, hhalf]
  push_cast
  have hclosed : (Rounding.ofFinite (2 ^ 52) (e + 1)).closed = true := rfl
  exact ⟨by linarith, by linarith, fun hopen => absurd (hclosed.symm.trans hopen) (by decide)⟩

theorem contains_zero (hv : 0 ≤ v) (hsmall : v ≤ 2 ^ (-1075 : ℤ)) :
    (Rounding.ofFinite 0 (-1074)).Contains v := by
  have hlow : (Rounding.ofFinite 0 (-1074)).low = 0 := by decide
  have hhigh : (2 : ℚ) * 2 ^ (-1076 : ℤ) = 2 ^ (-1075 : ℤ) := by
    rw [← zpow_one_add₀ two_ne_zero]
    norm_num
  refine ⟨?_, ?_, fun hopen => absurd hopen (by decide)⟩
  · rw [hlow, Nat.cast_zero, zero_mul]
    exact hv
  · show v ≤ ((2 : ℕ) : ℚ) * 2 ^ (-1076 : ℤ)
    rw [Nat.cast_ofNat, hhigh]
    exact hsmall

end Interval

/-! ### What rounding gives -/

section RoundsAt

variable {r : ℕ} {e : ℤ} {v : ℚ} (he : RoundsAt e v)
include he

theorem RoundsAt.full : e = -1074 ∨ 2 ^ 52 * 2 ^ e ≤ v :=
  he.2.2.imp_right fun h => by
    rwa [← Rounding.two_zpow_add 52, add_comm]

variable (hr : NearestEven r (v / 2 ^ e))
include hr

theorem RoundsAt.nearest_le : r ≤ 2 ^ 53 := by
  have hlt : v / 2 ^ e < 2 ^ 53 := by
    rw [div_lt_iff₀ (zpow_pos (by decide) e), ← Rounding.two_zpow_add 53, add_comm]
    exact he.2.1
  have hcast : (r : ℚ) < (2 ^ 53 + 1 : ℕ) := by
    push_cast
    linarith [hr.1]
  exact Nat.le_of_lt_succ (by exact_mod_cast hcast)

theorem RoundsAt.le_nearest (hne : e ≠ -1074) : 2 ^ 52 ≤ r := by
  have hle : 2 ^ 52 ≤ v / 2 ^ e :=
    (le_div_iff₀ (zpow_pos (by decide) e)).2 (he.full.resolve_left hne)
  have hcast : ((2 ^ 52 : ℕ) : ℚ) < (r + 1 : ℕ) := by
    push_cast
    linarith [hr.2.1]
  exact Nat.le_of_lt_succ (by exact_mod_cast hcast)

end RoundsAt

/-- Only the values up to half the least number are rounded to zero. -/
theorem RoundsAt.contains_zero {e : ℤ} {v : ℚ} (he : RoundsAt e v) (hv : 0 ≤ v)
    (hr : NearestEven 0 (v / 2 ^ e)) : (Rounding.ofFinite 0 (-1074)).Contains v := by
  obtain rfl : e = -1074 := by
    by_contra hne
    exact absurd (he.le_nearest hr hne) (by decide)
  have hhalf := hr.2.1
  rw [Nat.cast_zero, zero_add, div_le_iff₀ (zpow_pos (by decide) _)] at hhalf
  have hstep : (2 : ℚ) ^ (-1074 - 1 : ℤ) = 1 / 2 * 2 ^ (-1074 : ℤ) := by
    rw [zpow_sub_one₀ two_ne_zero]
    ring
  exact Number.contains_zero hv (hhalf.trans_eq hstep.symm)

/-- Rounding gives zero, or a significand with its exponent in whose interval the value lies. -/
theorem Rounds.contains {u : UnpackedFloat} {v : ℚ} (h : Rounds u v) (hv : 0 ≤ v) :
    u = .zero .positive ∧ (Rounding.ofFinite 0 (-1074)).Contains v ∨
      ∃ m q hm, u = .finite .positive m q hm ∧ (q ≤ 971 → Canonical m q) ∧
        (Rounding.ofFinite m q).Contains v := by
  obtain ⟨n, e, accuracy, rfl, hdescribes, henough⟩ := h
  obtain ⟨r, e₁, hrounds, hnearest, hless, hpower⟩ :=
    exists_roundWithAccuracy hdescribes henough .positive
  rcases (hrounds.nearest_le hnearest).lt_or_eq with hr | rfl
  · rw [hless hr]
    rcases Nat.eq_zero_or_pos r with rfl | hrpos
    · exact Or.inl ⟨rfl, hrounds.contains_zero hv hnearest⟩
    · refine Or.inr ⟨r, e₁, hrpos, dif_neg hrpos.ne', fun hq => ?_, ?_⟩
      · exact ⟨hrpos, hr, hrounds.1, hq, or_iff_not_imp_left.2 (hrounds.le_nearest hnearest)⟩
      · exact contains_of_nearestEven hrpos hnearest fun _ hne => hrounds.full.resolve_left hne
  · rw [hpower rfl]
    refine Or.inr ⟨2 ^ 52, e₁ + 1, by decide, rfl, fun hq => ?_, ?_⟩
    · have hleast := hrounds.1
      exact ⟨by decide, by decide, by omega, hq, Or.inr (Nat.le_refl _)⟩
    · exact contains_of_nearestEven_power hrounds.1 hnearest hrounds.2.1

/-! ### Packing -/

theorem ofFloat_pack {m : ℕ} {q : ℤ} (hm : Canonical m q) :
    Binary.ofFloat (.ofModel (pack (.finite .positive m q hm.pos))) = .finite false m q := by
  have hbits : (Float.ofModel (pack (.finite .positive m q hm.pos))).toBits.toNat =
      (q + 1074).toNat * 2 ^ 52 + m := toNat_pack hm
  obtain ⟨hpos, hlt, hleast, hgreatest, hfull⟩ := hm
  rw [ofFloat_eq, hbits]
  by_cases hbit : 2 ^ 52 ≤ m
  · have hexponent : ((q + 1074).toNat * 2 ^ 52 + m) / 2 ^ 52 % 2048 = (q + 1074).toNat + 1 := by
      omega
    have hfraction : ((q + 1074).toNat * 2 ^ 52 + m) % 2 ^ 52 = m - 2 ^ 52 := by omega
    have hsign : (((q + 1074).toNat * 2 ^ 52 + m) / 2 ^ 63 == 1) = false :=
      beq_eq_false_iff_ne.2 (by omega)
    rw [hexponent, hfraction, hsign, if_neg (by omega), if_neg (by omega),
      Nat.add_sub_cancel' hbit]
    congr 1
    omega
  · obtain rfl : q = -1074 := hfull.resolve_right hbit
    have hvalue : (-1074 + 1074 : ℤ).toNat * 2 ^ 52 + m = m := by omega
    have hsign : (m / 2 ^ 63 == 1) = false := beq_eq_false_iff_ne.2 (by omega)
    rw [hvalue, hsign, if_neg (by omega), if_pos (by omega), Nat.mod_eq_of_lt (by omega)]

theorem isFinite_pack {m : ℕ} {q : ℤ} {hm : 0 < m}
    (h : (Float.ofModel (pack (.finite .positive m q hm))).isFinite = true) : q ≤ 971 := by
  by_contra hlarge
  have hbits : UnpackedFloat.pack Format.binary64 (.finite .positive m q hm) =
      packedInfinity Format.binary64 .positive := by
    show (if 2 ^ 11 ≤ (q + 1023 + 52).toNat + 1 then _ else _) = _
    rw [if_pos (by omega)]
  rw [isFinite_iff] at h
  change (UnpackedFloat.pack Format.binary64 (.finite .positive m q hm)).toNat / 2 ^ 52 % 2048 ≠
    2047 at h
  rw [hbits] at h
  exact h (by decide)

/-- A finite number that a value was rounded to is the one that the value rounds to. -/
theorem Rounds.isRounded {u : UnpackedFloat} {v : ℚ} (h : Rounds u v) (hv : 0 ≤ v)
    (hfinite : (Float.ofModel (pack u)).isFinite = true) : IsRounded (.ofModel (pack u)) v := by
  rcases h.contains hv with ⟨rfl, hcontains⟩ | ⟨m, q, hm, rfl, hcanonical, hcontains⟩
  · exact ⟨0, -1074, by decide +kernel, hcontains⟩
  · exact ⟨m, q, ofFloat_pack (hcanonical (isFinite_pack hfinite)), hcontains⟩

/-! ### Whole numbers -/

/-- What a whole number of at most 53 bits is rounded to is this number. -/
theorem Rounds.eq_of_whole {u : UnpackedFloat} {n : ℕ} (hn : 0 < n) (hlt : n < 2 ^ 53)
    (h : Rounds u n) : ∃ m q, ∃ hm : Canonical m q, u = .finite .positive m q hm.pos ∧
      2 ^ 52 ≤ m ∧ (m : ℚ) * 2 ^ q = n := by
  obtain ⟨k, -, hfull, hcanonical⟩ := exists_canonical hn hlt
  have hvalue : ((n * 2 ^ k : ℕ) : ℚ) * 2 ^ (-k : ℤ) = n := by
    have hpow : (2 : ℚ) ^ k ≠ 0 := pow_ne_zero k two_ne_zero
    rw [zpow_neg, zpow_natCast]
    push_cast
    rw [mul_assoc, mul_inv_cancel₀ hpow, mul_one]
  refine ⟨n * 2 ^ k, -k, hcanonical, h.eq_of_contains hcanonical ?_, hfull, hvalue⟩
  have hself := Rounding.contains_self (q := -k) hcanonical.pos
  rwa [hvalue] at hself

theorem normal_ofNat {n : ℕ} (hn : 0 < n) (hlt : n < 2 ^ 53) :
    Normal n.toFloat.toModel.unpack n := by
  obtain ⟨u, heq, hrounds⟩ := rounds_of_small_coefficient hn false ⟨hlt, Nat.zero_le 22⟩
  have hdecimal : decimal n false 0 = n := by simp [decimal]
  rw [hdecimal] at hrounds
  obtain ⟨m, q, hm, rfl, hfull, hvalue⟩ := hrounds.eq_of_whole hn hlt
  refine ⟨m, q, hm.pos, ?_, hfull, hvalue⟩
  show (Float.ofScientific n false 0).toModel.unpack = _
  rw [heq]
  exact unpack_pack hm hfull

/-- A whole number that is scaled by one is finite. -/
theorem isFinite_toFloat_mul_one {n : ℕ} (hn : 0 < n) (hlt : n < 2 ^ 53) :
    (n.toFloat * Float.ofScientific 1 false 0).isFinite = true := by
  have hone : Normal (Float.ofScientific 1 false 0).toModel.unpack (1 : ℕ) :=
    normal_ofNat Nat.one_pos (by decide)
  have hrounds := (normal_ofNat hn hlt).rounds_mul hone
  rw [Nat.cast_one, mul_one] at hrounds
  obtain ⟨m, q, hm, hu, -, -⟩ := hrounds.eq_of_whole hn hlt
  show (Float.ofModel (pack (mul Format.binary64 _ _))).isFinite = true
  rw [hu]
  exact isFinite_of_ofFloat (ofFloat_pack hm)

/-! ### Decimals -/

/-- A decimal that is neither too large nor too small at sight is in reach. -/
theorem inReach_of_size {c size : ℕ} {e : ℤ} (hlow : 10 ^ size ≤ 10 * c)
    (hsmall : -330 ≤ size + e) (hlarge : size + e ≤ 310) :
    InReach c (decide (e < 0)) e.natAbs := by
  have hlog : size ≤ c.log2 + 1 := by
    by_contra hlt
    have hstep : 2 ^ (c.log2 + 1) * 10 ≤ 10 ^ size := calc
      2 ^ (c.log2 + 1) * 10 ≤ 10 ^ (c.log2 + 1) * 10 :=
        Nat.mul_le_mul_right 10 (Nat.pow_le_pow_left (by decide) _)
      _ = 10 ^ (c.log2 + 2) := (pow_succ 10 _).symm
      _ ≤ 10 ^ size := Nat.pow_le_pow_right (by decide) (by omega)
    have := Nat.lt_log2_self (n := c)
    omega
  unfold InReach
  split
  · omega
  · next hpositive =>
    rw [decide_eq_true_eq] at hpositive
    omega

/-- **The nearest number to a decimal has the decimal in its interval.** -/
theorem isRounded_nearest {c size : ℕ} {e : ℤ} (hhigh : c < 10 ^ size)
    (hlow : 0 < c → 10 ^ size ≤ 10 * c) (h : (Numeral.nearest c size e).isFinite = true) :
    IsRounded (Numeral.nearest c size e) (c * 10 ^ e) := by
  have hten : (0 : ℚ) < 10 ^ e := zpow_pos (by decide) e
  have hvalue : (0 : ℚ) ≤ c * 10 ^ e := mul_nonneg (Nat.cast_nonneg c) hten.le
  unfold Numeral.nearest at *
  split at h
  · next hzero =>
    rw [if_pos hzero]
    refine ⟨0, -1074, by decide +kernel, contains_zero hvalue ?_⟩
    rw [Bool.or_eq_true, decide_eq_true_eq, decide_eq_true_eq] at hzero
    rcases hzero with rfl | hsmall
    · rw [Nat.cast_zero, zero_mul]
      exact zpow_nonneg (by decide) _
    · exact (lt_of_size hhigh hsmall).le
  · next hzero =>
    rw [if_neg hzero]
    rw [Bool.or_eq_true, decide_eq_true_eq, decide_eq_true_eq, not_or] at hzero
    split at h
    · exact absurd h (by decide +kernel)
    · next hlarge =>
      rw [if_neg hlarge]
      have hc : 0 < c := Nat.pos_of_ne_zero hzero.1
      have hreach := inReach_of_size (hlow hc) (not_lt.1 hzero.2) (not_lt.1 hlarge)
      obtain ⟨u, heq, hrounds⟩ := ofScientific_spec hc hreach
      rw [decimal_natAbs] at hrounds
      rw [heq] at h ⊢
      exact hrounds.isRounded hvalue h

/-- The decimal that the parts of a numeral stand for, without its sign. -/
def Numeral.value (n : Numeral) : ℚ :=
  Text.decimalValue (n.whole ++ n.fraction) * 10 ^ (n.exponent - n.fraction.length)

/-- **A numeral without a sign is read as the number that its value rounds to.** -/
theorem Numeral.isRounded_toFloat {n : Numeral} (hsign : n.negative = false)
    (hdigits : ∀ c ∈ n.whole ++ n.fraction, c.isDigit = true)
    (h : n.toFloat.isFinite = true) : IsRounded n.toFloat n.value := by
  have hsize := fun hpos => significant_digits hdigits hpos
  unfold toFloat at *
  unfold value
  dsimp only at *
  rw [hsign, if_neg Bool.false_ne_true, decimalValue_dropWhile] at *
  refine isRounded_nearest ?_ (fun hpos => (hsize hpos).2) h
  rcases Nat.eq_zero_or_pos (Text.decimalValue (n.whole ++ n.fraction)) with hzero | hpos
  · rw [hzero]
    exact Nat.pow_pos (by decide)
  · exact (hsize hpos).1

end Worksheet.Number
