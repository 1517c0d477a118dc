import Worksheet.Proofs.Number.Interval

/-!
# Rounding to the nearest number

What the arithmetic of floating-point numbers does with a value is to cut off bits, to remember in
two further bits what was cut off, and to round at the end.  `Describes` says what the bits tell
about the value; cutting off a bit keeps it, and rounding gives the nearest significand, the even
one of two.
-/

namespace Worksheet.Number

open Float.Model Float.Model.UnpackedFloat

/-! ### Significands -/

/-- What a significand with its two residual bits tells about the exact one. -/
def Describes (em : ExtendedMantissa) (u : ℚ) : Prop :=
  match em.roundBit, em.stickyBit with
  | false, false => u = em.mantissa
  | false, true => em.mantissa < u ∧ u < em.mantissa + 1 / 2
  | true, false => u = em.mantissa + 1 / 2
  | true, true => em.mantissa + 1 / 2 < u ∧ u < em.mantissa + 1

theorem Describes.bounds {em : ExtendedMantissa} {u : ℚ} (h : Describes em u) :
    em.mantissa ≤ u ∧ u < em.mantissa + 1 := by
  obtain ⟨m, r, s⟩ := em
  cases r <;> cases s <;> simp only [Describes] at h ⊢ <;> constructor <;> linarith

theorem Describes.shiftRightOne {em : ExtendedMantissa} {u : ℚ} (h : Describes em u) :
    Describes em.shiftRightOne (u / 2) := by
  obtain ⟨m, r, s⟩ := em
  have hm : (m : ℚ) = 2 * (m / 2 : ℕ) + (m % 2 : ℕ) := by exact_mod_cast (Nat.div_add_mod m 2).symm
  -- the last bit becomes the round bit, and both residual bits become the sticky one
  rcases Nat.mod_two_eq_zero_or_one m with hmod | hmod
  · rw [hmod, Nat.cast_zero, add_zero] at hm
    have hround : (m % 2 != 0) = false := by rw [hmod]; rfl
    show Describes ⟨m / 2, m % 2 != 0, r || s⟩ (u / 2)
    rw [hround]
    match r, s, h with
    | false, false, h =>
      change u = m at h
      show u / 2 = (m / 2 : ℕ)
      linarith
    | false, true, ⟨hlow, hhigh⟩ => exact ⟨by linarith, by linarith⟩
    | true, false, h =>
      change u = m + 1 / 2 at h
      exact ⟨by linarith, by linarith⟩
    | true, true, ⟨hlow, hhigh⟩ => exact ⟨by linarith, by linarith⟩
  · rw [hmod, Nat.cast_one] at hm
    have hround : (m % 2 != 0) = true := by rw [hmod]; rfl
    show Describes ⟨m / 2, m % 2 != 0, r || s⟩ (u / 2)
    rw [hround]
    match r, s, h with
    | false, false, h =>
      change u = m at h
      show u / 2 = (m / 2 : ℕ) + 1 / 2
      linarith
    | false, true, ⟨hlow, hhigh⟩ => exact ⟨by linarith, by linarith⟩
    | true, false, h =>
      change u = m + 1 / 2 at h
      exact ⟨by linarith, by linarith⟩
    | true, true, ⟨hlow, hhigh⟩ => exact ⟨by linarith, by linarith⟩

theorem Describes.shiftRight {em : ExtendedMantissa} {u : ℚ} (h : Describes em u) (n : ℕ) :
    Describes (em >>> n) (u / 2 ^ n) := by
  induction n with
  | zero =>
    rw [pow_zero, div_one]
    exact h
  | succ n ih =>
    have hpow : u / 2 ^ (n + 1) = u / 2 ^ n / 2 := by rw [pow_succ, div_div]
    rw [hpow]
    exact ih.shiftRightOne

/-- The nearest integer, the even one of two. -/
def NearestEven (k : ℕ) (u : ℚ) : Prop :=
  k - 1 / 2 ≤ u ∧ u ≤ k + 1 / 2 ∧ (u = k - 1 / 2 ∨ u = k + 1 / 2 → k % 2 = 0)

theorem nearestEven_of_lt {k : ℕ} {u : ℚ} (hlow : k - 1 / 2 < u) (hhigh : u < k + 1 / 2) :
    NearestEven k u := by
  refine ⟨hlow.le, hhigh.le, ?_⟩
  rintro (heq | heq)
  · exact absurd heq hlow.ne'
  · exact absurd heq hhigh.ne

theorem Describes.nearestEven {em : ExtendedMantissa} {u : ℚ} (h : Describes em u) :
    NearestEven em.roundedMantissa u := by
  obtain ⟨m, r, s⟩ := em
  cases r with
  | false =>
    have hround : ExtendedMantissa.roundedMantissa ⟨m, false, s⟩ = m := by cases s <;> rfl
    have hu : (m : ℚ) ≤ u ∧ u < m + 1 / 2 := by
      cases s <;> simp only [Describes] at h <;> constructor <;> linarith
    rw [hround]
    exact nearestEven_of_lt (by linarith) (by linarith)
  | true =>
    have hnext : ((m + 1 : ℕ) : ℚ) = m + 1 := Nat.cast_succ m
    cases s with
    | false =>
      -- halfway, so the last bit decides
      have hround : ExtendedMantissa.roundedMantissa ⟨m, true, false⟩ = m + m % 2 := rfl
      have hu : u = m + 1 / 2 := h
      rcases Nat.mod_two_eq_zero_or_one m with hmod | hmod
      · rw [hround, hmod, Nat.add_zero]
        exact ⟨by linarith, by linarith, fun _ => hmod⟩
      · rw [hround, hmod]
        exact ⟨by linarith, by linarith, fun _ => by omega⟩
    | true =>
      have hround : ExtendedMantissa.roundedMantissa ⟨m, true, true⟩ = m + 1 := rfl
      have hu : m + 1 / 2 < u ∧ u < m + 1 := h
      rw [hround]
      exact nearestEven_of_lt (by linarith) (by linarith)

theorem NearestEven.le {k l : ℕ} {u : ℚ} (hk : NearestEven k u) (hl : NearestEven l u) :
    k ≤ l := by
  by_contra hlt
  have hnext : (l : ℚ) + 1 ≤ k := by exact_mod_cast Nat.lt_of_not_le hlt
  have hu : u = l + 1 / 2 := by linarith [hk.1, hl.2.1]
  have hkl : (k : ℚ) = l + 1 := by linarith [hk.1]
  have hkeven := hk.2.2 (Or.inl (by linarith))
  have hleven := hl.2.2 (Or.inr hu)
  have : k = l + 1 := by exact_mod_cast hkl
  omega

theorem NearestEven.unique {k l : ℕ} {u : ℚ} (hk : NearestEven k u) (hl : NearestEven l u) :
    k = l :=
  Nat.le_antisymm (hk.le hl) (hl.le hk)

/-! ### Cutting off bits -/

/-- The exponent that a value is rounded at: the least with which it has no more than 53 bits. -/
def RoundsAt (e : ℤ) (v : ℚ) : Prop :=
  -1074 ≤ e ∧ v < 2 ^ (e + 53) ∧ (e = -1074 ∨ 2 ^ (e + 52) ≤ v)

/-- The number of bits that are cut off a significand with this exponent. -/
def excess (m : ℕ) (e : ℤ) : ℕ :=
  (max ((m.log2 : ℤ) + 1 + e - 53) (-1074) - e).toNat

theorem shiftToTargetExponent_eq (m : ℕ) (e : ℤ) (accuracy : Accuracy) :
    shiftToTargetExponent Format.binary64 m e accuracy =
      (ExtendedMantissa.ofMantissaAndAccuracy m accuracy >>> excess m e, e + excess m e) := rfl

theorem cast_log2_le {m : ℕ} (hm : m ≠ 0) : (2 : ℚ) ^ (m.log2 : ℤ) ≤ m := by
  rw [zpow_natCast]
  exact_mod_cast Nat.log2_self_le hm

theorem cast_lt_log2 (m : ℕ) : (m : ℚ) + 1 ≤ 2 ^ ((m.log2 : ℤ) + 1) := by
  have h : m + 1 ≤ 2 ^ (m.log2 + 1) := Nat.lt_log2_self
  have hcast : (2 : ℚ) ^ ((m.log2 : ℤ) + 1) = (2 ^ (m.log2 + 1) : ℕ) := by
    push_cast
    exact_mod_cast zpow_natCast (2 : ℚ) (m.log2 + 1)
  rw [hcast]
  exact_mod_cast h

section Shift

variable {m : ℕ} {e : ℤ} {accuracy : Accuracy} {v : ℚ}
  (h : Describes (ExtendedMantissa.ofMantissaAndAccuracy m accuracy) (v / 2 ^ e))
include h

theorem Describes.bounds_of_accuracy : m * 2 ^ e ≤ v ∧ v < (m + 1) * 2 ^ e := by
  have hpos : (0 : ℚ) < 2 ^ e := zpow_pos (by decide) e
  have hmantissa : (ExtendedMantissa.ofMantissaAndAccuracy m accuracy).mantissa = m := by
    cases accuracy with
    | exact => rfl
    | inexact o => cases o <;> rfl
  have hbounds := h.bounds
  rw [hmantissa] at hbounds
  exact ⟨(le_div_iff₀ hpos).1 hbounds.1, (div_lt_iff₀ hpos).1 hbounds.2⟩

/-- The first shift brings the significand to the exponent that the value is rounded at. -/
theorem Describes.shiftToTargetExponent (henough : e ≤ -1074 ∨ 2 ^ 52 ≤ m) :
    Describes (shiftToTargetExponent Format.binary64 m e accuracy).1
        (v / 2 ^ (shiftToTargetExponent Format.binary64 m e accuracy).2) ∧
      RoundsAt (shiftToTargetExponent Format.binary64 m e accuracy).2 v := by
  obtain ⟨hlow, hhigh⟩ := h.bounds_of_accuracy
  rw [shiftToTargetExponent_eq]
  generalize hk : excess m e = k
  unfold excess at hk
  refine ⟨?_, ?_, ?_, ?_⟩
  · rw [zpow_add₀ two_ne_zero, zpow_natCast, ← div_div]
    exact h.shiftRight k
  · omega
  · calc v < (m + 1) * 2 ^ e := hhigh
      _ ≤ 2 ^ ((m.log2 : ℤ) + 1) * 2 ^ e :=
        mul_le_mul_of_nonneg_right (cast_lt_log2 m) (zpow_nonneg (by decide) e)
      _ = 2 ^ ((m.log2 : ℤ) + 1 + e) := (zpow_add₀ two_ne_zero _ _).symm
      _ ≤ 2 ^ (e + k + 53) := zpow_le_zpow_right₀ (by decide) (by omega)
  · by_cases hsmall : e ≤ -1074 ∧ (m.log2 : ℤ) + 1 + e - 53 ≤ -1074
    · left
      omega
    · right
      have hm : m ≠ 0 := by
        rintro rfl
        have hlog : Nat.log2 0 = 0 := by decide
        omega
      have hlog : 2 ^ 52 ≤ m → 52 ≤ m.log2 := (Nat.le_log2 hm).2
      calc (2 : ℚ) ^ (e + k + 52) ≤ 2 ^ ((m.log2 : ℤ) + e) :=
            zpow_le_zpow_right₀ (by decide) (by omega)
        _ = 2 ^ (m.log2 : ℤ) * 2 ^ e := zpow_add₀ two_ne_zero _ _
        _ ≤ m * 2 ^ e := mul_le_mul_of_nonneg_right (cast_log2_le hm) (zpow_nonneg (by decide) e)
        _ ≤ v := hlow

end Shift

/-! ### The rounded significand -/

section Significand

variable {m r : ℕ} {q e : ℤ} {v : ℚ}

theorem nearestEven_of_contains (hm : Canonical m q) (h : (Rounding.ofFinite m q).Contains v) :
    NearestEven m (v / 2 ^ q) := by
  have hpos : (0 : ℚ) < 2 ^ q := zpow_pos (by decide) q
  refine ⟨(le_div_iff₀ hpos).2 (h.ge hm.pos), (div_le_iff₀ hpos).2 h.le, fun hend => ?_⟩
  rw [div_eq_iff hpos.ne', div_eq_iff hpos.ne'] at hend
  exact h.even hm.pos hend

/-- A value that rounds to `m * 2 ^ q` is rounded at no higher exponent. -/
theorem RoundsAt.le (he : RoundsAt e v) (hm : Canonical m q)
    (h : (Rounding.ofFinite m q).Contains v) : e ≤ q := by
  by_contra hupper
  have hlow : (2 : ℚ) ^ (e + 52) ≤ v := he.2.2.resolve_left (by have := hm.least_le; omega)
  have hbig : (2 : ℚ) ^ 53 * 2 ^ q ≤ 2 ^ (e + 52) := by
    rw [← Rounding.two_zpow_add 53]
    exact zpow_le_zpow_right₀ (by decide) (by omega)
  exact absurd (h.lt hm) (not_lt.2 (hbig.trans hlow))

/-- Only just below a power of two is it rounded at another exponent, the one before. -/
theorem RoundsAt.power_of_lt (he : RoundsAt e v) (hm : Canonical m q)
    (h : (Rounding.ofFinite m q).Contains v) (hlower : e < q) :
    e + 1 = q ∧ m = 2 ^ 52 ∧ v < 2 ^ 52 * 2 ^ q := by
  obtain ⟨hleast, hlt, -⟩ := he
  have hpos : (0 : ℚ) < 2 ^ q := zpow_pos (by decide) q
  have hvq : v < 2 ^ 52 * 2 ^ q := by
    rw [← Rounding.two_zpow_add 52]
    exact hlt.trans_le (zpow_le_zpow_right₀ (by decide) (by omega))
  have hpower : m = 2 ^ 52 := by
    have hle : 2 ^ 52 ≤ m := hm.full.resolve_left (by omega)
    by_contra hne
    have hnext : (2 : ℚ) ^ 52 + 1 ≤ m := by exact_mod_cast (by omega : 2 ^ 52 + 1 ≤ m)
    have hcut : ((2 : ℚ) ^ 52 + 1 / 2) * 2 ^ q ≤ (m - 1 / 2) * 2 ^ q :=
      mul_le_mul_of_nonneg_right (by linarith) hpos.le
    linarith [h.ge hm.pos]
  subst hpower
  refine ⟨?_, rfl, hvq⟩
  by_contra hne
  have hfar : (2 : ℚ) ^ (e + 53) ≤ 2 ^ 51 * 2 ^ q := by
    rw [← Rounding.two_zpow_add 51]
    exact zpow_le_zpow_right₀ (by decide) (by omega)
  linarith [h.ge_of_power (by omega)]

/-- A value that rounds to `m * 2 ^ q` is rounded at the exponent `q`, or just below a power of two
at the exponent before, up to the power. -/
theorem significand_of_contains (hm : Canonical m q) (h : (Rounding.ofFinite m q).Contains v)
    (he : RoundsAt e v) (hr : NearestEven r (v / 2 ^ e)) :
    e = q ∧ r = m ∨ e + 1 = q ∧ m = 2 ^ 52 ∧ r = 2 ^ 53 := by
  rcases (he.le hm h).lt_or_eq with hlower | rfl
  · obtain ⟨rfl, rfl, hbelow⟩ := he.power_of_lt hm h hlower
    have hle := he.1
    have hge := h.ge_of_power (by omega)
    have hhalf : (2 : ℚ) ^ (e + 1) = 2 * 2 ^ e := by rw [zpow_add_one₀ two_ne_zero]; ring
    have hpos : (0 : ℚ) < 2 ^ e := zpow_pos (by decide) e
    rw [hhalf] at hge hbelow
    refine Or.inr ⟨rfl, rfl, hr.unique ⟨?_, ?_, fun _ => by decide⟩⟩
    · rw [le_div_iff₀ hpos]
      push_cast
      linarith
    · rw [div_le_iff₀ hpos]
      push_cast
      linarith
  · exact Or.inl ⟨rfl, hr.unique (nearestEven_of_contains hm h)⟩

end Significand

/-! ### The whole rounding -/

/-- The second shift does nothing to a significand of no more than 53 bits. -/
theorem shiftToTargetExponent_of_lt {r : ℕ} {e : ℤ} (hr : r < 2 ^ 53) (he : -1074 ≤ e) :
    shiftToTargetExponent Format.binary64 r e .exact = (⟨r, false, false⟩, e) := by
  have hlog : r.log2 ≤ 52 := by
    by_cases hzero : r = 0
    · rw [hzero]
      decide
    · have := (Nat.log2_lt hzero).2 hr
      omega
  have hexcess : excess r e = 0 := by
    unfold excess
    omega
  rw [shiftToTargetExponent_eq, hexcess]
  exact Prod.ext rfl (add_zero e)

/-- The second shift takes away the bit that rounding up to a power of two has added. -/
theorem shiftToTargetExponent_power {r : ℕ} {e : ℤ} (hr : r = 2 ^ 53) (he : -1074 ≤ e) :
    shiftToTargetExponent Format.binary64 r e .exact = (⟨2 ^ 52, false, false⟩, e + 1) := by
  have hlog : r.log2 = 53 := hr ▸ Nat.log2_two_pow
  have hhalf : r / 2 = 2 ^ 52 := by omega
  have heven : (r % 2 != 0) = false := by
    have hmod : r % 2 = 0 := by omega
    rw [hmod]
    rfl
  have hexcess : excess r e = 1 := by
    unfold excess
    omega
  rw [shiftToTargetExponent_eq, hexcess]
  show (ExtendedMantissa.mk (r / 2) (r % 2 != 0) false, e + 1) = _
  rw [hhalf, heven]

section Whole

variable {v : ℚ} {n : ℕ} {e : ℤ} {accuracy : Accuracy}
  (h : Describes (ExtendedMantissa.ofMantissaAndAccuracy n accuracy) (v / 2 ^ e))
  (henough : e ≤ -1074 ∨ 2 ^ 52 ≤ n) (s : Sign)
include h henough

/-- Rounding gives the nearest significand at the exponent that the value is rounded at, and a power
of two at the next exponent. -/
theorem exists_roundWithAccuracy : ∃ r e₁, RoundsAt e₁ v ∧ NearestEven r (v / 2 ^ e₁) ∧
    (r < 2 ^ 53 → roundWithAccuracy Format.binary64 s n e accuracy =
      if hr : r = 0 then .zero s else .finite s r e₁ (Nat.pos_of_ne_zero hr)) ∧
    (r = 2 ^ 53 → roundWithAccuracy Format.binary64 s n e accuracy =
      .finite s (2 ^ 52) (e₁ + 1) (Nat.two_pow_pos 52)) := by
  obtain ⟨hdescribes, hrounds⟩ := h.shiftToTargetExponent henough
  have hnearest := hdescribes.nearestEven
  generalize hfirst : shiftToTargetExponent Format.binary64 n e accuracy = first at *
  obtain ⟨em, e₁⟩ := first
  refine ⟨em.roundedMantissa, e₁, hrounds, hnearest, fun hr => ?_, fun hr => ?_⟩
  · unfold roundWithAccuracy
    rw [hfirst]
    dsimp only
    rw [shiftToTargetExponent_of_lt hr hrounds.1]
  · unfold roundWithAccuracy
    rw [hfirst]
    dsimp only
    rw [shiftToTargetExponent_power hr hrounds.1]
    exact dif_neg (Nat.two_pow_pos 52).ne'

/-- **Rounding gives the number in whose interval the value lies.** -/
theorem roundWithAccuracy_of_contains {m : ℕ} {q : ℤ} (hm : Canonical m q)
    (hv : (Rounding.ofFinite m q).Contains v) :
    roundWithAccuracy Format.binary64 s n e accuracy = .finite s m q hm.pos := by
  obtain ⟨r, e₁, hrounds, hnearest, hless, hpower⟩ := exists_roundWithAccuracy h henough s
  rcases significand_of_contains hm hv hrounds hnearest with ⟨rfl, rfl⟩ | ⟨rfl, rfl, hr⟩
  · rw [hless hm.lt, dif_neg hm.pos.ne']
  · exact hpower hr

end Whole

end Worksheet.Number
