import Worksheet.Number.Layout
import Worksheet.Proofs.Number.Plain
import Worksheet.Proofs.Number.Scientific
import Worksheet.Proofs.Number.Shortest
import Worksheet.Value.Basic

/-!
# Numbers are read back

A cell writes a number as a plain numeral with the value of its shortest decimal (`plain_spread`),
and a plain numeral in the interval of a number is read as this number (`toFloat_of_contains`).
-/

namespace Worksheet.Number

/-! ### Reading digits -/

theorem decimalValue_cons (c : Char) (cs : List Char) : Text.decimalValue (c :: cs) =
    10 ^ cs.length * (c.toNat - '0'.toNat) + Text.decimalValue cs := by
  rw [← List.singleton_append, Text.decimalValue_append]
  congr 2
  exact Nat.zero_add _

theorem decimalValue_lt {digits : List Char} (h : ∀ c ∈ digits, c.isDigit = true) :
    Text.decimalValue digits < 10 ^ digits.length := by
  induction digits with
  | nil => decide
  | cons c cs ih =>
    have hc := (Char.isDigit_iff_toNat.1 (h c List.mem_cons_self)).2
    have hcs := ih fun d hd => h d (List.mem_cons_of_mem c hd)
    have hnine : c.toNat - '0'.toNat ≤ 9 := Nat.sub_le_of_le_add hc
    rw [decimalValue_cons, List.length_cons, pow_succ]
    have := Nat.mul_le_mul_left (10 ^ cs.length) hnine
    omega

/-- The first digit that is no zero settles the size. -/
theorem pow_length_le_decimalValue {c : Char} (hc : c.isDigit = true) (hzero : c ≠ '0')
    (cs : List Char) : 10 ^ cs.length ≤ Text.decimalValue (c :: cs) := by
  have hlow := (Char.isDigit_iff_toNat.1 hc).1
  have hne : c.toNat ≠ '0'.toNat := fun h => hzero (Char.toNat_inj.1 h)
  have hone : 1 ≤ c.toNat - '0'.toNat := by omega
  rw [decimalValue_cons]
  have := Nat.mul_le_mul_left (10 ^ cs.length) hone
  omega

theorem decimalValue_dropWhile (digits : List Char) :
    Text.decimalValue (digits.dropWhile (· == '0')) = Text.decimalValue digits := by
  induction digits with
  | nil => rfl
  | cons c cs ih =>
    by_cases hc : c = '0'
    · subst hc
      rw [decimalValue_cons, List.dropWhile_cons_of_pos (by decide), ih]
      simp
    · rw [List.dropWhile_cons_of_neg (by simpa using hc)]

/-! ### The nearest number -/

section Nearest

variable {x : Float} {m : ℕ} {q : ℤ}

/-- The value of a coefficient with a power of ten. -/
theorem decimal_natAbs (c : ℕ) (e : ℤ) : decimal c (decide (e < 0)) e.natAbs = c * 10 ^ e := by
  unfold decimal
  obtain ⟨n, rfl | rfl⟩ := e.eq_nat_or_neg
  · rw [if_neg (by simp), Int.natAbs_natCast, zpow_natCast]
  · rw [Int.natAbs_neg, Int.natAbs_natCast, zpow_neg, zpow_natCast]
    split
    · rfl
    · next h =>
      obtain rfl : n = 0 := by simpa using h
      norm_num

/-- A decimal that is settled as zero lies below half the least number. -/
theorem lt_of_size {c size : ℕ} {e : ℤ} (hhigh : c < 10 ^ size) (hsmall : size + e < -330) :
    (c : ℚ) * 10 ^ e < 2 ^ (-1075 : ℤ) := calc
  (c : ℚ) * 10 ^ e ≤ 10 ^ size * 10 ^ e :=
    mul_le_mul_of_nonneg_right (by exact_mod_cast hhigh.le) (zpow_nonneg (by decide) e)
  _ = 10 ^ (size + e) := by rw [zpow_add₀ (by decide), zpow_natCast]
  _ ≤ 10 ^ (-330 : ℤ) := zpow_le_zpow_right₀ (by decide) hsmall.le
  _ < 2 ^ (-1075 : ℤ) := by
    rw [zpow_neg, zpow_neg, inv_lt_inv₀ (zpow_pos (by decide) _) (zpow_pos (by decide) _)]
    exact_mod_cast (by decide +kernel : 2 ^ 1075 < 10 ^ 330)

/-- A decimal that is settled without its power of ten is in no interval. -/
theorem size_of_contains (hm : Canonical m q) {c size : ℕ} {e : ℤ} (hlow : 10 ^ size ≤ 10 * c)
    (hhigh : c < 10 ^ size) (h : (Rounding.ofFinite m q).Contains (c * 10 ^ e)) :
    -330 ≤ size + e ∧ size + e ≤ 310 := by
  have hpow : (10 : ℚ) ^ (size + e) = 10 ^ size * 10 ^ e := by
    rw [zpow_add₀ (by decide), zpow_natCast]
  constructor
  · by_contra! hsmall
    exact absurd (h.two_zpow_le hm) (not_le.2 (lt_of_size hhigh hsmall))
  · by_contra! hlarge
    have hvalue : (2 : ℚ) ^ 1024 ≤ c * 10 ^ e := calc
      (2 : ℚ) ^ 1024 ≤ 10 ^ (310 : ℤ) := by
        exact_mod_cast (by decide +kernel : 2 ^ 1024 ≤ 10 ^ 310)
      _ ≤ 10 ^ (size + e - 1) := zpow_le_zpow_right₀ (by decide) (by omega)
      _ = 10 ^ size * 10 ^ e / 10 := by rw [zpow_sub_one₀ (by decide), hpow]; ring
      _ ≤ 10 * c * 10 ^ e / 10 := by
        have : (10 : ℚ) ^ size ≤ 10 * c := by exact_mod_cast hlow
        gcongr
      _ = c * 10 ^ e := by ring
    exact absurd (h.lt_two_pow hm) (not_lt.2 hvalue)

/-- A decimal in the interval of a number has this number as its nearest. -/
theorem nearest_of_contains (hx : Binary.ofFloat x = .finite false m q) (hm : 0 < m)
    {c size : ℕ} {e : ℤ} (hlow : 10 ^ size ≤ 10 * c) (hhigh : c < 10 ^ size)
    (h : (Rounding.ofFinite m q).Contains (c * 10 ^ e)) : Numeral.nearest c size e = x := by
  have hcanonical := (toNat_bits hx).2 hm
  obtain ⟨hsmall, hlarge⟩ := size_of_contains hcanonical hlow hhigh h
  have hc : 0 < c := h.coefficient_pos hcanonical
  unfold Numeral.nearest
  rw [if_neg (by simp [hc.ne', hsmall]), if_neg (not_lt.2 hlarge)]
  exact ofScientific_of_contains hx hm hc (by rwa [decimal_natAbs])

end Nearest

/-- Leading zeros do not count. -/
theorem significant_digits {digits : List Char} (h : ∀ c ∈ digits, c.isDigit = true)
    (hpos : 0 < Text.decimalValue digits) :
    Text.decimalValue digits < 10 ^ (digits.dropWhile (· == '0')).length ∧
      10 ^ (digits.dropWhile (· == '0')).length ≤ 10 * Text.decimalValue digits := by
  have hsuffix : digits.dropWhile (· == '0') <:+ digits := List.dropWhile_suffix _
  have hhead := List.head?_dropWhile_not (· == '0') digits
  rw [← decimalValue_dropWhile] at hpos ⊢
  generalize digits.dropWhile (· == '0') = significant at *
  have hdigits : ∀ c ∈ significant, c.isDigit = true := fun c hc => h c (hsuffix.subset hc)
  refine ⟨decimalValue_lt hdigits, ?_⟩
  cases significant with
  | nil => exact absurd hpos (by decide)
  | cons c cs =>
    have hzero : c ≠ '0' := by simpa using hhead
    rw [List.length_cons, pow_succ, mul_comm]
    exact Nat.mul_le_mul_left 10
      (pow_length_le_decimalValue (hdigits c List.mem_cons_self) hzero cs)

/-- **A plain numeral in the interval of a number is read as this number.** -/
theorem toFloat_of_contains {x : Float} {m : ℕ} {q : ℤ} {w f : List Char}
    (hx : Binary.ofFloat x = .finite false m q) (hm : 0 < m)
    (hdigits : ∀ c ∈ w ++ f, c.isDigit = true)
    (h : (Rounding.ofFinite m q).Contains
      (Text.decimalValue (w ++ f) * 10 ^ (-(f.length : ℤ)))) :
    Numeral.toFloat ⟨false, w, f, 0⟩ = x := by
  have hpos : 0 < Text.decimalValue (w ++ f) := h.coefficient_pos ((toNat_bits hx).2 hm)
  obtain ⟨hhigh, hlow⟩ := significant_digits hdigits hpos
  unfold Numeral.toFloat
  dsimp only
  rw [if_neg Bool.false_ne_true, decimalValue_dropWhile, zero_sub]
  exact nearest_of_contains hx hm hlow hhigh h

/-! ### Writing -/

/-- A cell writes a decimal as a plain numeral of the same value. -/
theorem plain_spread {d : Decimal} (hne : d.digits ≠ [])
    (hdigits : ∀ c ∈ d.digits, c.isDigit = true) :
    ∃ w f, Plain w f (Value.layout.spread d) ∧
      (Text.decimalValue (w ++ f) : ℚ) * 10 ^ (-(f.length : ℤ)) = d.value := by
  have hzeros : ∀ n, ∀ c ∈ List.replicate n '0', c.isDigit = true := fun n c hc =>
    List.eq_of_mem_replicate hc ▸ (by decide)
  unfold Layout.spread Decimal.value
  split
  · next hlead =>
    set zeros := List.replicate (-d.lead - 1).toNat '0' with hzeros'
    have hvalue :
        Text.decimalValue (['0'] ++ (zeros ++ d.digits)) = Text.decimalValue d.digits := by
      rw [← List.append_assoc, Text.decimalValue_append]
      have := Text.decimalValue_replicate ((-d.lead - 1).toNat + 1)
      rw [List.replicate_succ, ← hzeros'] at this
      rw [List.singleton_append, this, Nat.mul_zero, Nat.zero_add]
    have hexponent : -((zeros ++ d.digits).length : ℤ) = d.lead + 1 - d.digits.length := by
      rw [List.length_append, hzeros', List.length_replicate]
      omega
    refine ⟨['0'], zeros ++ d.digits, .point (hzeros 1) (List.cons_ne_nil _ _) ?_, ?_⟩
    · exact List.forall_mem_append.2 ⟨hzeros _, hdigits⟩
    · rw [hvalue, hexponent]
  · next hlead =>
    dsimp only
    split
    · next hwhole =>
      set n := d.lead.toNat + 1 - d.digits.length with hn
      have hexponent : d.lead + 1 - d.digits.length = (n : ℤ) := by omega
      refine ⟨d.digits ++ List.replicate n '0', [], ?_, ?_⟩
      · show Plain _ [] (d.digits ++ List.replicate n '0' ++ [])
        rw [List.append_nil]
        exact .whole (List.forall_mem_append.2 ⟨hdigits, hzeros n⟩)
          (List.append_ne_nil_of_left_ne_nil hne _)
      · rw [hexponent, List.append_nil, Text.decimalValue_append, Text.decimalValue_replicate]
        simp
        ring
    · next hwhole =>
      refine ⟨d.digits.take (d.lead.toNat + 1), d.digits.drop (d.lead.toNat + 1),
        .point (fun c hc => hdigits c (List.mem_of_mem_take hc)) ?_
          (fun c hc => hdigits c (List.mem_of_mem_drop hc)), ?_⟩
      · simpa using hne
      · have hexponent : -((d.digits.drop (d.lead.toNat + 1)).length : ℤ) =
            d.lead + 1 - d.digits.length := by
          rw [List.length_drop]
          omega
        rw [List.take_append_drop, hexponent]

theorem unsigned_zero : Unsigned 0.0 := ⟨0, -1074, by decide +kernel⟩

section Write

variable {x : Float}

theorem eq_zero_of_ofFloat {q : ℤ} (h : Binary.ofFloat x = .finite false 0 q) : x = 0.0 := by
  have hzero : (0.0 : Float).toBits.toNat = 0 := by decide +kernel
  have hq : q = -1074 := by
    obtain ⟨-, -, ⟨-, -, hq⟩ | ⟨-, hm, -⟩⟩ := ofFloat_eq_finite h
    · exact hq
    · omega
  refine eq_of_toNat_bits ?_
  rw [hzero, (toNat_bits h).1, hq]
  rfl

/-- **A number without a sign is written as a plain numeral that is read as this number.** -/
theorem plain_write (h : Unsigned x) :
    ∃ w f, Plain w f (Value.layout.write x) ∧ Numeral.toFloat ⟨false, w, f, 0⟩ = x := by
  obtain ⟨m, q, hx⟩ := h
  have hwrite : Value.layout.write x = Value.layout.spread (shortest .up m q) := by
    unfold Layout.write
    rw [hx]
    rfl
  rw [hwrite]
  rcases Nat.eq_zero_or_pos m with rfl | hm
  · refine ⟨['0'], [], .whole (List.forall_mem_singleton.2 rfl) (List.cons_ne_nil _ _), ?_⟩
    rw [eq_zero_of_ofFloat hx]
    rfl
  · have hcanonical := (toNat_bits hx).2 hm
    obtain ⟨hcontains, hdigits⟩ := contains_shortest hcanonical .up
    have hpos : 0 < Text.decimalValue (shortest .up m q).digits :=
      hcontains.coefficient_pos hcanonical
    have hne : (shortest .up m q).digits ≠ [] := fun hnil => by
      rw [hnil] at hpos
      exact absurd hpos (by decide)
    obtain ⟨w, f, hplain, hvalue⟩ := plain_spread hne hdigits
    exact ⟨w, f, hplain, toFloat_of_contains hx hm hplain.isDigit (hvalue ▸ hcontains)⟩

/-- **What a cell writes for a number without a sign is read as this number.** -/
theorem readFinite?_write (h : Unsigned x) : readFinite? (Value.layout.write x) = some x := by
  obtain ⟨w, f, hplain, hread⟩ := plain_write h
  unfold readFinite?
  rw [hplain.ofChars?, Option.bind_some, hread, if_pos h.isFinite]

end Write

end Worksheet.Number
