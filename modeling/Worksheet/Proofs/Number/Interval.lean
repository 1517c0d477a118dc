import Mathlib
import Worksheet.Number.Shortest

/-!
# The reals that round to a number

`Rounding.Contains` is the interval of a number in rational numbers.  Its ends lie half a last bit
away from the number, or a quarter just below a power of two, and belong to it when the last bit is
zero.
-/

namespace Worksheet.Number

/-- Significand and exponent of a positive number: 53 bits, fewer only at the least exponent. -/
structure Canonical (m : ℕ) (q : ℤ) : Prop where
  pos : 0 < m
  lt : m < 2 ^ 53
  least_le : -1074 ≤ q
  le_greatest : q ≤ 971
  full : q = -1074 ∨ 2 ^ 52 ≤ m

namespace Rounding

/-- Does the value round to the number? -/
def Contains (r : Rounding) (v : ℚ) : Prop :=
  r.low * 2 ^ r.unit ≤ v ∧ v ≤ r.high * 2 ^ r.unit ∧
    (r.closed = false → v ≠ r.low * 2 ^ r.unit ∧ v ≠ r.high * 2 ^ r.unit)

variable {m : ℕ} {q : ℤ} {v : ℚ}

theorem two_zpow_unit (m : ℕ) (q : ℤ) : (2 : ℚ) ^ (ofFinite m q).unit = 2 ^ q / 4 := by
  show (2 : ℚ) ^ (q - 2) = _
  rw [zpow_sub₀ two_ne_zero]
  norm_num

theorem cast_high (m : ℕ) (q : ℤ) : ((ofFinite m q).high : ℚ) = 4 * m + 2 := by
  show ((4 * m + 2 : ℕ) : ℚ) = _
  push_cast
  ring

/-- Below a power of two the interval is shorter, the least one excepted. -/
theorem cast_low (hm : 0 < m) : ((ofFinite m q).low : ℚ) =
    if m = 2 ^ 52 ∧ q ≠ -1074 then 4 * (m : ℚ) - 1 else 4 * m - 2 := by
  show (((if m = 2 ^ 52 ∧ q ≠ -1074 then 4 * m - 1 else 4 * m - 2) : ℕ) : ℚ) = _
  split
  · rw [Nat.cast_sub (by omega)]
    push_cast
    ring
  · rw [Nat.cast_sub (by omega)]
    push_cast
    ring

/-- A number rounds to itself. -/
theorem contains_self (hm : 0 < m) : (ofFinite m q).Contains (m * 2 ^ q) := by
  have hpos : (0 : ℚ) < 2 ^ q := zpow_pos (by decide) q
  have hlow : ((ofFinite m q).low : ℚ) ≤ 4 * m - 1 := by
    rw [cast_low hm]
    split <;> linarith
  have hless : ((ofFinite m q).low : ℚ) * (2 ^ q / 4) < m * 2 ^ q := by
    have := mul_le_mul_of_nonneg_right hlow hpos.le
    linarith
  have hmore : (m : ℚ) * 2 ^ q < (4 * m + 2) * (2 ^ q / 4) := by linarith
  unfold Contains
  rw [two_zpow_unit, cast_high]
  exact ⟨hless.le, hmore.le, fun _ => ⟨hless.ne', hmore.ne⟩⟩

theorem Contains.le (h : (ofFinite m q).Contains v) : v ≤ (m + 1 / 2) * 2 ^ q := by
  have hhigh := h.2.1
  rw [two_zpow_unit, cast_high] at hhigh
  linarith

theorem Contains.ge (hm : 0 < m) (h : (ofFinite m q).Contains v) : (m - 1 / 2) * 2 ^ q ≤ v := by
  have hpos : (0 : ℚ) < 2 ^ q := zpow_pos (by decide) q
  have hlow := h.1
  rw [two_zpow_unit, cast_low hm] at hlow
  split at hlow
  · linarith
  · linarith

theorem Contains.ge_of_power (h : (ofFinite (2 ^ 52) q).Contains v) (hq : q ≠ -1074) :
    (2 ^ 52 - 1 / 4) * 2 ^ q ≤ v := by
  have hlow := h.1
  rw [two_zpow_unit, cast_low (by decide), if_pos ⟨rfl, hq⟩] at hlow
  push_cast at hlow
  linarith

/-- The ends belong to the interval of an even significand only. -/
theorem Contains.even (hm : 0 < m) (h : (ofFinite m q).Contains v)
    (hv : v = (m - 1 / 2) * 2 ^ q ∨ v = (m + 1 / 2) * 2 ^ q) : m % 2 = 0 := by
  by_contra hodd
  have hclosed : (ofFinite m q).closed = false := beq_eq_false_iff_ne.2 hodd
  have hpower : ¬ (m = 2 ^ 52 ∧ q ≠ -1074) := fun hp => hodd (by rw [hp.1]; decide)
  obtain ⟨hlow, hhigh⟩ := h.2.2 hclosed
  rw [two_zpow_unit, cast_low hm, if_neg hpower] at hlow
  rw [two_zpow_unit, cast_high] at hhigh
  rcases hv with hv | hv
  · exact hlow (by rw [hv]; ring)
  · exact hhigh (by rw [hv]; ring)

/-! ### The size of the values -/

theorem two_zpow_add (n : ℕ) (q : ℤ) : (2 : ℚ) ^ ((n : ℤ) + q) = 2 ^ n * 2 ^ q := by
  rw [zpow_add₀ two_ne_zero, zpow_natCast]

/-- A value that rounds to `m * 2 ^ q` has no more than 53 bits above `2 ^ q`. -/
theorem Contains.lt (hm : Canonical m q) (h : (ofFinite m q).Contains v) : v < 2 ^ 53 * 2 ^ q := by
  have hmq : (m : ℚ) + 1 ≤ 2 ^ 53 := by exact_mod_cast hm.lt
  calc v ≤ (m + 1 / 2) * 2 ^ q := h.le
    _ < 2 ^ 53 * 2 ^ q := mul_lt_mul_of_pos_right (by linarith) (zpow_pos (by decide) q)

theorem Contains.lt_two_pow (hm : Canonical m q) (h : (ofFinite m q).Contains v) :
    v < 2 ^ 1024 := by
  have hgreatest := hm.le_greatest
  calc v < 2 ^ 53 * 2 ^ q := h.lt hm
    _ = 2 ^ ((53 : ℕ) + q) := (two_zpow_add 53 q).symm
    _ ≤ 2 ^ (1024 : ℤ) := zpow_le_zpow_right₀ (by decide) (by omega)
    _ = 2 ^ 1024 := zpow_natCast 2 1024

theorem Contains.two_zpow_le (hm : Canonical m q) (h : (ofFinite m q).Contains v) :
    2 ^ (-1075 : ℤ) ≤ v := by
  have hmq : (1 : ℚ) ≤ m := by exact_mod_cast hm.pos
  calc (2 : ℚ) ^ (-1075 : ℤ) ≤ 2 ^ (q - 1) :=
        zpow_le_zpow_right₀ (by decide) (by have := hm.least_le; omega)
    _ = 1 / 2 * 2 ^ q := by rw [zpow_sub₀ two_ne_zero]; ring
    _ ≤ (m - 1 / 2) * 2 ^ q :=
      mul_le_mul_of_nonneg_right (by linarith) (zpow_nonneg (by decide) q)
    _ ≤ v := h.ge hm.pos

theorem Contains.pos (hm : Canonical m q) (h : (ofFinite m q).Contains v) : 0 < v :=
  lt_of_lt_of_le (zpow_pos (by decide) _) (h.two_zpow_le hm)

/-- The coefficient of a decimal that rounds to a number is not zero. -/
theorem Contains.coefficient_pos {c : ℕ} {unit : ℚ} (hm : Canonical m q)
    (h : (ofFinite m q).Contains (c * unit)) : 0 < c := by
  refine Nat.pos_of_ne_zero fun hzero => ?_
  have hpos := h.pos hm
  rw [hzero, Nat.cast_zero, zero_mul] at hpos
  exact lt_irrefl 0 hpos

end Rounding

end Worksheet.Number
