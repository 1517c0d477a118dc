import Worksheet.Proofs.Number.Interval
import Worksheet.Proofs.Text.Runs

/-!
# The shortest decimal rounds to its number

Grid points are compared with the interval of a number on a common scale (`holds_iff`).  On the grid
of seventeen digits the points lie closer together than the interval is long, so one of the two
points around the value lies in it and the search finds a decimal (`contains_shortest`).
-/

namespace Worksheet.Number

/-- The value of a decimal. -/
def Decimal.value (d : Decimal) : ℚ :=
  Text.decimalValue d.digits * 10 ^ (d.lead + 1 - d.digits.length)

namespace Rounding

variable {r : Rounding} {k : ℤ} {c : ℕ}

/-! ### The common scale -/

/-- What both sides of a comparison are multiplied by. -/
def scale (r : Rounding) (k : ℤ) : ℚ :=
  2 ^ (-r.unit).toNat * 10 ^ (-k).toNat

theorem scale_pos (r : Rounding) (k : ℤ) : 0 < r.scale k :=
  mul_pos (pow_pos (by decide) _) (pow_pos (by decide) _)

theorem pow_toNat {b : ℚ} (hb : b ≠ 0) (k : ℤ) : b ^ k.toNat = b ^ k * b ^ (-k).toNat := by
  rw [← zpow_natCast, ← zpow_natCast, ← zpow_add₀ hb]
  congr 1
  omega

theorem cast_gridScale (r : Rounding) (k : ℤ) : (r.gridScale k : ℚ) = 10 ^ k * r.scale k := by
  show ((10 ^ k.toNat * 2 ^ (-r.unit).toNat : ℕ) : ℚ) = _
  push_cast
  rw [pow_toNat (by decide) k, scale]
  ring

theorem cast_unitScale (r : Rounding) (k : ℤ) :
    (r.unitScale k : ℚ) = 2 ^ r.unit * r.scale k := by
  show ((2 ^ r.unit.toNat * 10 ^ (-k).toNat : ℕ) : ℚ) = _
  push_cast
  rw [pow_toNat (by decide) r.unit, scale]
  ring

theorem mul_unitScale_le_iff {a : ℕ} :
    a * r.unitScale k ≤ c * r.gridScale k ↔ (a : ℚ) * 2 ^ r.unit ≤ c * 10 ^ k := by
  rw [← Nat.cast_le (α := ℚ), Nat.cast_mul, Nat.cast_mul, cast_unitScale, cast_gridScale,
    ← mul_assoc, ← mul_assoc, mul_le_mul_iff_left₀ (r.scale_pos k)]

theorem mul_gridScale_le_iff {a : ℕ} :
    c * r.gridScale k ≤ a * r.unitScale k ↔ (c : ℚ) * 10 ^ k ≤ a * 2 ^ r.unit := by
  rw [← Nat.cast_le (α := ℚ), Nat.cast_mul, Nat.cast_mul, cast_unitScale, cast_gridScale,
    ← mul_assoc, ← mul_assoc, mul_le_mul_iff_left₀ (r.scale_pos k)]

/-- A grid point holds if it lies in the interval. -/
theorem holds_iff : r.holds k c = true ↔ r.Contains (c * 10 ^ k) := by
  have hlow := mul_unitScale_le_iff (r := r) (k := k) (c := c) (a := r.low)
  have hlow' := mul_gridScale_le_iff (r := r) (k := k) (c := c) (a := r.low)
  have hhigh := mul_gridScale_le_iff (r := r) (k := k) (c := c) (a := r.high)
  have hhigh' := mul_unitScale_le_iff (r := r) (k := k) (c := c) (a := r.high)
  unfold holds Contains
  dsimp only
  cases r.closed with
  | true =>
    simp [hlow, hhigh]
  | false =>
    simp only [Bool.false_eq_true, if_false, Bool.and_eq_true, decide_eq_true_eq,
      ← Nat.not_le, hlow', hhigh', not_le]
    constructor
    · rintro ⟨h₁, h₂⟩
      exact ⟨h₁.le, h₂.le, fun _ => ⟨h₁.ne', h₂.ne⟩⟩
    · rintro ⟨h₁, h₂, hne⟩
      obtain ⟨hne₁, hne₂⟩ := hne trivial
      exact ⟨lt_of_le_of_ne h₁ hne₁.symm, lt_of_le_of_ne h₂ hne₂⟩

/-! ### The points around the value -/

theorem holds_of_onGrid {tie : Tie} (h : r.onGrid tie k = some c) : r.holds k c = true := by
  unfold onGrid at h
  dsimp only at h
  split at h
  · next hbelow =>
    split at h
    · next habove =>
      split at h
      · exact Option.some.inj h ▸ hbelow
      split at h
      · exact Option.some.inj h ▸ habove
      split at h
      · exact Option.some.inj h ▸ habove
      split at h
      · exact Option.some.inj h ▸ hbelow
      · exact Option.some.inj h ▸ habove
    · exact Option.some.inj h ▸ hbelow
  · split at h
    · next habove => exact Option.some.inj h ▸ habove
    · cases h

theorem not_holds_of_onGrid {tie : Tie} (h : r.onGrid tie k = none) :
    ¬ r.holds k (r.value * r.unitScale k / r.gridScale k) = true ∧
      ¬ r.holds k (r.value * r.unitScale k / r.gridScale k + 1) = true := by
  unfold onGrid at h
  dsimp only at h
  split at h
  · split at h
    · split at h
      · cases h
      split at h
      · cases h
      split at h
      · cases h
      split at h <;> cases h
    · cases h
  · next hbelow =>
    split at h
    · cases h
    · next habove => exact ⟨hbelow, habove⟩

theorem gridScale_pos (r : Rounding) (k : ℤ) : 0 < r.gridScale k :=
  Nat.mul_pos (Nat.pow_pos (by decide)) (Nat.pow_pos (by decide))

/-- A value outside the interval lies at one of its sides. -/
theorem side_of_not_contains {v : ℚ} (h : ¬ r.Contains v) :
    v ≤ r.low * 2 ^ r.unit ∨ r.high * 2 ^ r.unit ≤ v := by
  by_contra hside
  rw [not_or, not_le, not_le] at hside
  exact h ⟨hside.1.le, hside.2.le, fun _ => ⟨hside.1.ne', hside.2.ne⟩⟩

/-- A grid that is finer than the interval is long has a point in it. -/
theorem onGrid_ne_none {tie : Tie} (hlow : r.low < r.value) (hhigh : r.value < r.high)
    (hfine : (10 : ℚ) ^ k < (r.high - r.low) * 2 ^ r.unit) : r.onGrid tie k ≠ none := by
  intro h
  obtain ⟨hbelow, habove⟩ := not_holds_of_onGrid h
  rw [holds_iff] at hbelow habove
  set c := r.value * r.unitScale k / r.gridScale k with hc
  have hunit : (0 : ℚ) < 2 ^ r.unit := zpow_pos (by decide) _
  have hle : (c : ℚ) * 10 ^ k ≤ r.value * 2 ^ r.unit :=
    mul_gridScale_le_iff.1 (Nat.div_mul_le_self _ _)
  have hlt : (r.value : ℚ) * 2 ^ r.unit < (c + 1 : ℕ) * 10 ^ k := by
    rw [← not_le, ← mul_gridScale_le_iff, not_le, Nat.mul_comm (c + 1)]
    exact Nat.lt_mul_div_succ _ (r.gridScale_pos k)
  have hlow' : (r.low : ℚ) * 2 ^ r.unit < r.value * 2 ^ r.unit :=
    mul_lt_mul_of_pos_right (by exact_mod_cast hlow) hunit
  have hhigh' : (r.value : ℚ) * 2 ^ r.unit < r.high * 2 ^ r.unit :=
    mul_lt_mul_of_pos_right (by exact_mod_cast hhigh) hunit
  have hpoint : (c : ℚ) * 10 ^ k ≤ r.low * 2 ^ r.unit :=
    (side_of_not_contains hbelow).resolve_right (by linarith)
  have hnext : (r.high : ℚ) * 2 ^ r.unit ≤ (c + 1 : ℕ) * 10 ^ k :=
    (side_of_not_contains habove).resolve_left (by linarith)
  push_cast at hnext
  linarith

/-! ### Seventeen digits -/

theorem pow_lead_le {r : Rounding} (hpos : 0 < r.value) :
    (10 : ℚ) ^ r.lead ≤ r.value * 2 ^ r.unit := by
  have hvalue : (r.value : ℚ) * 2 ^ r.unit =
      (r.value * 2 ^ r.unit.toNat : ℕ) / (2 ^ (-r.unit).toNat : ℕ) := by
    have hne : (2 : ℚ) ^ (-r.unit).toNat ≠ 0 := pow_ne_zero _ two_ne_zero
    push_cast
    rw [pow_toNat two_ne_zero r.unit, ← mul_assoc, mul_div_cancel_right₀ _ hne]
  have hdenominator : 0 < 2 ^ (-r.unit).toNat := Nat.two_pow_pos _
  have hnumerator : 0 < r.value * 2 ^ r.unit.toNat := Nat.mul_pos hpos (Nat.two_pow_pos _)
  have hlead : r.lead = if 2 ^ (-r.unit).toNat ≤ r.value * 2 ^ r.unit.toNat then
      ((Text.decimalDigits (r.value * 2 ^ r.unit.toNat / 2 ^ (-r.unit).toNat)).length : ℤ) - 1
    else -((Text.decimalDigits ((2 ^ (-r.unit).toNat - 1) /
      (r.value * 2 ^ r.unit.toNat))).length : ℤ) := rfl
  rw [hvalue, hlead]
  generalize r.value * 2 ^ r.unit.toNat = numerator at *
  generalize 2 ^ (-r.unit).toNat = denominator at *
  have hcast : (0 : ℚ) < denominator := by exact_mod_cast hdenominator
  split
  · next hle =>
    have hdigits := Text.pow_length_decimalDigits_le (Nat.div_pos hle hdenominator)
    have hlength : 0 < (Text.decimalDigits (numerator / denominator)).length :=
      Nat.length_toDigits_pos
    calc (10 : ℚ) ^ (((Text.decimalDigits (numerator / denominator)).length : ℤ) - 1)
        = (10 ^ ((Text.decimalDigits (numerator / denominator)).length - 1) : ℕ) := by
          rw [← Nat.cast_pred hlength, zpow_natCast]
          push_cast
          rfl
      _ ≤ (numerator / denominator : ℕ) := by exact_mod_cast hdigits
      _ ≤ numerator / denominator := Nat.cast_div_le
  · next hlt =>
    have hdigits := Text.lt_pow_length_decimalDigits ((denominator - 1) / numerator)
    rw [Nat.div_lt_iff_lt_mul hnumerator] at hdigits
    generalize (Text.decimalDigits ((denominator - 1) / numerator)).length = n at *
    have hle : denominator ≤ 10 ^ n * numerator := by omega
    have hleCast : (denominator : ℚ) ≤ 10 ^ n * numerator := by exact_mod_cast hle
    rw [zpow_neg, zpow_natCast, le_div_iff₀ hcast, inv_mul_le_iff₀ (pow_pos (by decide) n)]
    exact hleCast

variable {m : ℕ} {q : ℤ}

theorem low_lt_value (hm : Canonical m q) : (ofFinite m q).low < (ofFinite m q).value := by
  have hpos := hm.pos
  show (if m = 2 ^ 52 ∧ q ≠ -1074 then 4 * m - 1 else 4 * m - 2) < 4 * m
  split
  · omega
  · omega

theorem value_lt_high (m : ℕ) (q : ℤ) : (ofFinite m q).value < (ofFinite m q).high :=
  Nat.lt_add_of_pos_right (by decide)

/-- The grid of seventeen digits is finer than the interval is long. -/
theorem pow_lead_lt (hm : Canonical m q) :
    (10 : ℚ) ^ ((ofFinite m q).lead - 16) <
      ((ofFinite m q).high - (ofFinite m q).low) * 2 ^ (ofFinite m q).unit := by
  have hlead := pow_lead_le (Nat.lt_of_le_of_lt (Nat.zero_le _) (low_lt_value hm))
  have hvalue : ((ofFinite m q).value : ℚ) = 4 * m := by
    show ((4 * m : ℕ) : ℚ) = _
    push_cast
    rfl
  have hpos : (0 : ℚ) < 2 ^ q := zpow_pos (by decide) q
  have hmq : (m : ℚ) + 1 ≤ 2 ^ 53 := by exact_mod_cast hm.lt
  have hgrid : (10 : ℚ) ^ ((ofFinite m q).lead - 16) ≤ m * 2 ^ q / 10 ^ 16 := by
    rw [hvalue, two_zpow_unit] at hlead
    rw [zpow_sub₀ (by decide), le_div_iff₀ (by norm_num)]
    norm_num
    linarith
  rw [two_zpow_unit, cast_high, cast_low hm.pos]
  split
  · next hpower =>
    rw [hpower.1] at hgrid ⊢
    push_cast at hgrid ⊢
    linarith
  · have hcut : (m : ℚ) * 2 ^ q ≤ 2 ^ 53 * 2 ^ q :=
      mul_le_mul_of_nonneg_right (by linarith) hpos.le
    linarith

/-! ### The decimal that is found -/

/-- The search ends on a grid with a point that rounds to the number. -/
theorem exists_found (hm : Canonical m q) (tie : Tie) :
    ∃ (c : ℕ) (k : ℤ), ((List.range 17).findSome? fun (n : ℕ) =>
        ((ofFinite m q).onGrid tie ((ofFinite m q).lead - n)).map fun c =>
          (c, (ofFinite m q).lead - n)) = some (c, k) ∧
      (ofFinite m q).Contains (c * 10 ^ k) := by
  cases hfound : (List.range 17).findSome? fun (n : ℕ) =>
      ((ofFinite m q).onGrid tie ((ofFinite m q).lead - n)).map fun c =>
        (c, (ofFinite m q).lead - n) with
  | none =>
    have hnone := List.findSome?_eq_none_iff.1 hfound 16 (by decide)
    rw [Option.map_eq_none_iff] at hnone
    exact absurd hnone (onGrid_ne_none (low_lt_value hm) (value_lt_high m q) (pow_lead_lt hm))
  | some found =>
    obtain ⟨c, k⟩ := found
    obtain ⟨n, -, hn⟩ := List.exists_of_findSome?_eq_some hfound
    obtain ⟨c', hc', heq⟩ := Option.map_eq_some_iff.1 hn
    obtain ⟨rfl, rfl⟩ := Prod.mk.inj heq
    exact ⟨c', _, rfl, holds_iff.1 (holds_of_onGrid hc')⟩

end Rounding

/-! ### Its digits -/

/-- The digits without the zeros at their end. -/
def stripped (digits : List Char) : List Char :=
  (digits.reverse.dropWhile (· == '0')).reverse

theorem exists_stripped_append (digits : List Char) :
    ∃ n, digits = stripped digits ++ List.replicate n '0' := by
  have hzeros : digits.reverse.takeWhile (· == '0') =
      List.replicate (digits.reverse.takeWhile (· == '0')).length '0' := by
    refine List.eq_replicate_of_mem fun c hc => ?_
    exact beq_iff_eq.1 (List.all_eq_true.1 List.all_takeWhile c hc)
  refine ⟨(digits.reverse.takeWhile (· == '0')).length, ?_⟩
  calc digits
      = digits.reverse.reverse := (List.reverse_reverse digits).symm
    _ = (digits.reverse.takeWhile (· == '0') ++ digits.reverse.dropWhile (· == '0')).reverse := by
      rw [List.takeWhile_append_dropWhile]
    _ = stripped digits ++ (digits.reverse.takeWhile (· == '0')).reverse := by
      rw [List.reverse_append, stripped]
    _ = stripped digits ++ List.replicate (digits.reverse.takeWhile (· == '0')).length '0' := by
      rw [hzeros, List.reverse_replicate, List.length_replicate]

/-- Zeros at the end are made up for by the position of the first digit. -/
theorem value_stripped (digits : List Char) (lead : ℤ) :
    Decimal.value ⟨stripped digits, lead⟩ = Decimal.value ⟨digits, lead⟩ := by
  obtain ⟨n, hn⟩ := exists_stripped_append digits
  have hlength : (digits.length : ℤ) = (stripped digits).length + n := by
    conv_lhs => rw [hn]
    simp
  have hvalue : Text.decimalValue digits = 10 ^ n * Text.decimalValue (stripped digits) := by
    conv_lhs => rw [hn]
    rw [Text.decimalValue_append, Text.decimalValue_replicate, List.length_replicate, Nat.add_zero]
  have hexponent : lead + 1 - (stripped digits).length = n + (lead + 1 - digits.length) := by omega
  unfold Decimal.value
  dsimp only
  rw [hvalue, hexponent, zpow_add₀ (by decide), zpow_natCast]
  push_cast
  ring

/-- The shortest decimal is the coefficient of a point in the interval, without the zeros at its
end. -/
theorem exists_shortest {m : ℕ} {q : ℤ} (hm : Canonical m q) (tie : Tie) :
    ∃ (c : ℕ) (k : ℤ), (Rounding.ofFinite m q).Contains (c * 10 ^ k) ∧
      shortest tie m q = ⟨stripped (Text.decimalDigits c),
        k + ((Text.decimalDigits c).length - 1 : ℕ)⟩ := by
  obtain ⟨c, k, hfound, hcontains⟩ := Rounding.exists_found hm tie
  refine ⟨c, k, hcontains, ?_⟩
  unfold shortest Rounding.shortest
  rw [if_neg hm.pos.ne']
  dsimp only
  rw [hfound]
  rfl

/-- **The shortest decimal of a number rounds to it.** -/
theorem contains_shortest {m : ℕ} {q : ℤ} (hm : Canonical m q) (tie : Tie) :
    (Rounding.ofFinite m q).Contains (shortest tie m q).value ∧
      ∀ c ∈ (shortest tie m q).digits, c.isDigit = true := by
  obtain ⟨c, k, hcontains, hshortest⟩ := exists_shortest hm tie
  have hlength : 0 < (Text.decimalDigits c).length := Nat.length_toDigits_pos
  have hexponent : k + ((Text.decimalDigits c).length - 1 : ℕ) + 1 -
      ((Text.decimalDigits c).length : ℤ) = k := by omega
  have hvalue : (shortest tie m q).value = c * 10 ^ k := by
    rw [hshortest, value_stripped]
    unfold Decimal.value
    dsimp only
    rw [hexponent, Text.decimalValue_decimalDigits]
  refine ⟨hvalue ▸ hcontains, fun d hd => ?_⟩
  rw [hshortest] at hd
  obtain ⟨n, hn⟩ := exists_stripped_append (Text.decimalDigits c)
  exact Text.isDigit_of_mem_decimalDigits (n := c) (hn ▸ List.mem_append_left _ hd)

end Worksheet.Number
