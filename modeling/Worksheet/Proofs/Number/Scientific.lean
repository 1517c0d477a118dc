import Worksheet.Proofs.Number.Bits
import Worksheet.Proofs.Number.Nearest

/-!
# The number nearest to a decimal

A decimal is brought to binary by one exact product or quotient that is then rounded
(`ofScientific_spec`), so it becomes the number in whose interval it lies
(`ofScientific_of_contains`).
-/

namespace Worksheet.Number

open Float.Model Float.Model.UnpackedFloat

/-! ### Values that are rounded -/

/-- Is the unpacked number a value that has been rounded? -/
def Rounds (u : UnpackedFloat) (v : ℚ) : Prop :=
  ∃ n e accuracy, u = roundWithAccuracy Format.binary64 .positive n e accuracy ∧
    Describes (ExtendedMantissa.ofMantissaAndAccuracy n accuracy) (v / 2 ^ e) ∧
    (e ≤ -1074 ∨ 2 ^ 52 ≤ n)

theorem Rounds.eq_of_contains {u : UnpackedFloat} {v : ℚ} (h : Rounds u v) {m : ℕ} {q : ℤ}
    (hm : Canonical m q) (hv : (Rounding.ofFinite m q).Contains v) :
    u = .finite .positive m q hm.pos := by
  obtain ⟨n, e, accuracy, rfl, hdescribes, henough⟩ := h
  exact roundWithAccuracy_of_contains hdescribes henough .positive hm hv

/-! ### Products and quotients -/

theorem describes_accuracyOfFraction {d : ℕ} (hd : 0 < d) (n : ℕ) :
    Describes (ExtendedMantissa.ofMantissaAndAccuracy (n / d) (accuracyOfFraction (n % d) d))
      (n / d) := by
  have hdpos : (0 : ℚ) < d := by exact_mod_cast hd
  have hdiv : (n : ℚ) = d * (n / d : ℕ) + (n % d : ℕ) := by
    exact_mod_cast (Nat.div_add_mod n d).symm
  have hlt : ((n % d : ℕ) : ℚ) < d := by exact_mod_cast Nat.mod_lt n hd
  generalize hrest : n % d = rest at *
  generalize n / d = quotient at *
  have hvalue : (n : ℚ) / d = quotient + rest / d := by
    rw [hdiv, add_div, mul_div_cancel_left₀ _ hdpos.ne']
  rw [hvalue]
  have hbelow : (rest : ℚ) / d < 1 := (div_lt_iff₀ hdpos).2 (by linarith)
  unfold accuracyOfFraction
  by_cases hzero : rest = 0
  · rw [if_pos hzero, hzero]
    show _ = (quotient : ℚ)
    simp
  · have hpos : (0 : ℚ) < rest / d :=
      div_pos (by exact_mod_cast Nat.pos_of_ne_zero hzero) hdpos
    rw [if_neg hzero]
    rcases lt_trichotomy (2 * rest) d with hless | hequal | hmore
    · have hhalf : (rest : ℚ) / d < 1 / 2 := by
        rw [div_lt_iff₀ hdpos]
        have : (2 : ℚ) * rest < d := by exact_mod_cast hless
        linarith
      rw [Nat.compare_eq_lt.2 hless]
      show (quotient : ℚ) < _ ∧ _ < (quotient : ℚ) + 1 / 2
      exact ⟨by linarith, by linarith⟩
    · have hhalf : (rest : ℚ) / d = 1 / 2 := by
        rw [div_eq_iff hdpos.ne']
        have : (2 : ℚ) * rest = d := by exact_mod_cast hequal
        linarith
      rw [Nat.compare_eq_eq.2 hequal, hhalf]
      exact rfl
    · have hhalf : 1 / 2 < (rest : ℚ) / d := by
        rw [lt_div_iff₀ hdpos]
        have : (d : ℚ) < 2 * rest := by exact_mod_cast hmore
        linarith
      rw [Nat.compare_eq_gt.2 hmore]
      show (quotient : ℚ) + 1 / 2 < _ ∧ _ < (quotient : ℚ) + 1
      exact ⟨by linarith, by linarith⟩

section Operation

variable {m₁ m₂ : ℕ} (e₁ e₂ : ℤ) (h₁ : 0 < m₁) (h₂ : 0 < m₂)

theorem rounds_mul (henough : 2 ^ 52 ≤ m₁ * m₂) :
    Rounds (mul Format.binary64 (.finite .positive m₁ e₁ h₁) (.finite .positive m₂ e₂ h₂))
      (m₁ * 2 ^ e₁ * (m₂ * 2 ^ e₂)) := by
  refine ⟨m₁ * m₂, e₁ + e₂, .exact, rfl, ?_, Or.inr henough⟩
  show (_ : ℚ) = ((m₁ * m₂ : ℕ) : ℚ)
  have hpos : (0 : ℚ) < 2 ^ (e₁ + e₂) := zpow_pos (by decide) _
  rw [div_eq_iff hpos.ne', zpow_add₀ two_ne_zero]
  push_cast
  ring

/-- The dividend is shifted far enough for the quotient to have 53 bits. -/
theorem two_pow_le_quotient {m₁ m₂ k : ℕ} (h₁ : 0 < m₁) (h₂ : 0 < m₂)
    (h : 53 + m₂.log2 ≤ m₁.log2 + k) :
    2 ^ 52 ≤ m₁ * 2 ^ k / m₂ := by
  rw [Nat.le_div_iff_mul_le h₂]
  calc 2 ^ 52 * m₂
      ≤ 2 ^ 52 * 2 ^ (m₂.log2 + 1) := Nat.mul_le_mul_left _ Nat.lt_log2_self.le
    _ = 2 ^ (53 + m₂.log2) := by rw [← pow_add]; congr 1; omega
    _ ≤ 2 ^ (m₁.log2 + k) := Nat.pow_le_pow_right (by decide) h
    _ = 2 ^ m₁.log2 * 2 ^ k := pow_add _ _ _
    _ ≤ m₁ * 2 ^ k := Nat.mul_le_mul_right _ (Nat.log2_self_le h₁.ne')

theorem rounds_div :
    Rounds (div Format.binary64 (.finite .positive m₁ e₁ h₁) (.finite .positive m₂ e₂ h₂))
      (m₁ * 2 ^ e₁ / (m₂ * 2 ^ e₂)) := by
  set t : ℤ := min (e₁ - e₂)
    (max ((m₁.log2 + 1 + e₁) - (m₂.log2 + 1 + e₂) - 53) (-1074)) with ht
  set k := (e₁ - e₂ - t).toNat with hk
  have hdiv : div Format.binary64 (.finite .positive m₁ e₁ h₁) (.finite .positive m₂ e₂ h₂) =
      roundWithAccuracy Format.binary64 .positive ((m₁ <<< k) / m₂) t
        (accuracyOfFraction ((m₁ <<< k) % m₂) m₂) := rfl
  refine ⟨_, _, _, hdiv, ?_, ?_⟩
  · have hm₂ : (m₂ : ℚ) ≠ 0 := by exact_mod_cast h₂.ne'
    have htk : e₁ = e₂ + t + k := by omega
    have hvalue : (m₁ : ℚ) * 2 ^ e₁ / (m₂ * 2 ^ e₂) / 2 ^ t = (m₁ <<< k : ℕ) / m₂ := by
      rw [Nat.shiftLeft_eq, htk, zpow_add₀ two_ne_zero, zpow_add₀ two_ne_zero, zpow_natCast]
      push_cast
      have h2 : ∀ j : ℤ, (2 : ℚ) ^ j ≠ 0 := fun j => zpow_ne_zero j two_ne_zero
      rw [div_div, div_eq_div_iff (mul_ne_zero (mul_ne_zero hm₂ (h2 _)) (h2 _)) hm₂]
      ring
    rw [hvalue]
    exact describes_accuracyOfFraction h₂ _
  · by_cases hsmall : t ≤ -1074
    · exact Or.inl hsmall
    · right
      rw [Nat.shiftLeft_eq]
      exact two_pow_le_quotient h₁ h₂ (by omega)

end Operation

/-! ### Whole numbers and powers of ten -/

/-- Is the unpacked number positive, with all 53 bits and this value? -/
def Normal (u : UnpackedFloat) (v : ℚ) : Prop :=
  ∃ m e h, u = .finite .positive m e h ∧ 2 ^ 52 ≤ m ∧ (m : ℚ) * 2 ^ e = v

theorem Normal.rounds_mul {u₁ u₂ : UnpackedFloat} {v₁ v₂ : ℚ} (h₁ : Normal u₁ v₁)
    (h₂ : Normal u₂ v₂) : Rounds (mul Format.binary64 u₁ u₂) (v₁ * v₂) := by
  obtain ⟨m₁, e₁, hpos₁, rfl, hfull₁, rfl⟩ := h₁
  obtain ⟨m₂, e₂, hpos₂, rfl, -, rfl⟩ := h₂
  exact Number.rounds_mul e₁ e₂ hpos₁ hpos₂ (Nat.le_mul_of_pos_right _ hpos₂ |>.trans' hfull₁)

theorem Normal.rounds_div {u₁ u₂ : UnpackedFloat} {v₁ v₂ : ℚ} (h₁ : Normal u₁ v₁)
    (h₂ : Normal u₂ v₂) : Rounds (div Format.binary64 u₁ u₂) (v₁ / v₂) := by
  obtain ⟨m₁, e₁, hpos₁, rfl, -, rfl⟩ := h₁
  obtain ⟨m₂, e₂, hpos₂, rfl, -, rfl⟩ := h₂
  exact Number.rounds_div e₁ e₂ hpos₁ hpos₂

theorem roundWithAccuracy_exact {m : ℕ} {e : ℤ} (hm : 0 < m) (hlt : m < 2 ^ 53)
    (he : -1074 ≤ e) (s : Sign) :
    roundWithAccuracy Format.binary64 s m e .exact = .finite s m e hm := by
  have hround : ExtendedMantissa.roundedMantissa ⟨m, false, false⟩ = m := rfl
  unfold roundWithAccuracy
  rw [shiftToTargetExponent_of_lt hlt he]
  dsimp only
  rw [hround, shiftToTargetExponent_of_lt hlt he]
  exact dif_neg hm.ne'

/-- A whole number below `2 ^ 53` gets all 53 bits. -/
theorem exists_canonical {n : ℕ} (hn : 0 < n) (hlt : n < 2 ^ 53) :
    ∃ k, n.log2 + k = 52 ∧ 2 ^ 52 ≤ n * 2 ^ k ∧ Canonical (n * 2 ^ k) (-k) := by
  have hlog : n.log2 ≤ 52 := by
    have := (Nat.log2_lt hn.ne').2 hlt
    omega
  obtain ⟨k, hk⟩ : ∃ k, n.log2 + k = 52 := ⟨52 - n.log2, by omega⟩
  have hlow : 2 ^ 52 ≤ n * 2 ^ k := by
    rw [← hk, pow_add]
    exact Nat.mul_le_mul_right _ (Nat.log2_self_le hn.ne')
  have hhigh : n * 2 ^ k < 2 ^ 53 := by
    have h53 : 53 = n.log2 + 1 + k := by omega
    rw [h53, pow_add]
    exact Nat.mul_lt_mul_of_pos_right Nat.lt_log2_self (Nat.two_pow_pos k)
  exact ⟨k, hk, hlow, by omega, hhigh, by omega, by omega, Or.inr hlow⟩

theorem round_of_log2 {n k : ℕ} (hk : n.log2 + k = 52)
    (hcanonical : Canonical (n * 2 ^ k) (-k)) :
    round Format.binary64 .positive n 0 = .finite .positive (n * 2 ^ k) (-k) hcanonical.pos := by
  have hshift : (0 - max ((n.log2 : ℤ) + 1 + 0 - 53) (-1074)).toNat = k := by omega
  show roundWithAccuracy Format.binary64 .positive
    (n <<< (0 - max ((n.log2 : ℤ) + 1 + 0 - 53) (-1074)).toNat)
    (0 - ((0 - max ((n.log2 : ℤ) + 1 + 0 - 53) (-1074)).toNat : ℤ)) .exact = _
  rw [hshift, Nat.shiftLeft_eq, zero_sub]
  exact roundWithAccuracy_exact hcanonical.pos hcanonical.lt hcanonical.least_le .positive

theorem toModel_toFloat {n : ℕ} (hn : 0 < n) (hlt : n < 2 ^ 64) :
    n.toUInt64.toFloat.toModel = pack (round Format.binary64 .positive n 0) := by
  have hnat : n.toUInt64.toNat = n := Nat.mod_eq_of_lt hlt
  have hpositive : compare (n : ℤ) 0 = .gt := by
    rw [Int.compare_eq_gt]
    omega
  show pack (UnpackedFloat.normalize Format.binary64 (n.toUInt64.toNat : ℤ) 0 .positive) = _
  rw [hnat]
  unfold UnpackedFloat.normalize
  rw [hpositive]
  rfl

/-- A whole number below `2 ^ 53` is represented exactly. -/
theorem normal_toFloat {n : ℕ} (hn : 0 < n) (hlt : n < 2 ^ 53) :
    Normal n.toUInt64.toFloat.toModel.unpack n := by
  obtain ⟨k, hk, hlow, hcanonical⟩ := exists_canonical hn hlt
  refine ⟨n * 2 ^ k, -k, hcanonical.pos, ?_, hlow, ?_⟩
  · rw [toModel_toFloat hn (by omega), round_of_log2 hk hcanonical]
    exact unpack_pack hcanonical hlow
  · have hpow : (2 : ℚ) ^ k ≠ 0 := pow_ne_zero k two_ne_zero
    rw [zpow_neg, zpow_natCast]
    push_cast
    rw [mul_assoc, mul_inv_cancel₀ hpow, mul_one]

/-- Is the unpacked number positive, with all 53 bits, and `10 ^ n`? -/
def isPowerOfTen (n : ℕ) : UnpackedFloat → Bool
  | .finite .positive m e _ =>
    decide (2 ^ 52 ≤ m) && m * 2 ^ e.toNat == 10 ^ n * 2 ^ (-e).toNat
  | _ => false

theorem normal_of_isPowerOfTen {n : ℕ} {u : UnpackedFloat} (h : isPowerOfTen n u = true) :
    Normal u (10 ^ n) := by
  unfold isPowerOfTen at h
  split at h
  · next m e hm =>
    rw [Bool.and_eq_true, decide_eq_true_eq, beq_iff_eq] at h
    refine ⟨m, e, hm, rfl, h.1, ?_⟩
    have hvalue : (m : ℚ) * 2 ^ e.toNat = 10 ^ n * 2 ^ (-e).toNat := by exact_mod_cast h.2
    have he : e = (e.toNat : ℤ) - ((-e).toNat : ℤ) := by omega
    have hpow : (2 : ℚ) ^ (-e).toNat ≠ 0 := pow_ne_zero _ two_ne_zero
    rw [he, zpow_sub₀ two_ne_zero, zpow_natCast, zpow_natCast, ← mul_div_assoc, div_eq_iff hpow]
    exact hvalue
  · cases h

/-- The powers of ten up to the 22nd are represented exactly. -/
theorem normal_powersOfTen (n : Fin 23) :
    Normal (Float.exactlyRepresentablePowersOfTen[n]).toModel.unpack (10 ^ (n : ℕ)) := by
  have h : ∀ n : Fin 23,
      isPowerOfTen n (Float.exactlyRepresentablePowersOfTen[n]).toModel.unpack = true := by
    decide +kernel
  exact normal_of_isPowerOfTen (h n)

/-! ### Decimals -/

/-- The value of the decimal with this coefficient, divided by a power of ten if `small`. -/
def decimal (c : ℕ) (small : Bool) (n : ℕ) : ℚ :=
  if small then c / 10 ^ n else c * 10 ^ n

/-- Neither too large nor too small for its power of ten to be worked out. -/
def InReach (c : ℕ) (small : Bool) (n : ℕ) : Prop :=
  if small then n ≤ 2048 + c.log2 else n ≤ 2048

theorem rounds_of_small_coefficient {c n : ℕ} (hc : 0 < c) (small : Bool)
    (h : c < 2 ^ 53 ∧ n ≤ 22) : ∃ u, Float.ofScientific c small n = .ofModel (pack u) ∧
      Rounds u (decimal c small n) := by
  have hcoefficient := normal_toFloat hc h.1
  have hpower := normal_powersOfTen ⟨n, Nat.lt_succ_of_le h.2⟩
  unfold Float.ofScientific
  rw [dif_pos h]
  cases small with
  | false => exact ⟨_, rfl, hcoefficient.rounds_mul hpower⟩
  | true => exact ⟨_, rfl, hcoefficient.rounds_div hpower⟩

theorem ofScientific_eq {c n : ℕ} (h : ¬ (c < 2 ^ 53 ∧ n ≤ 22)) (small : Bool) :
    Float.ofScientific c small n = .ofModel (pack (UnpackedFloat.ofScientific Format.binary64 c
      (if small then Int.negOfNat n else Int.ofNat n))) := by
  unfold Float.ofScientific
  rw [dif_neg h]
  rfl

theorem shiftLeft_pos {c : ℕ} (hc : 0 < c) : 0 < c <<< 53 := by
  rw [Nat.shiftLeft_eq]
  exact Nat.mul_pos hc (Nat.two_pow_pos 53)

/-- Within reach a decimal is a product with a power of ten, or a quotient by one. -/
theorem unpacked_ofScientific {c : ℕ} (hc : 0 < c) (e : ℤ) :
    UnpackedFloat.ofScientific Format.binary64 c e =
      if e > 2048 then .infinity .positive
      else if e < -(2048 + c.log2) then .zero .positive
      else if 0 ≤ e then
        mul Format.binary64 (.finite .positive (c <<< 53) (-53) (shiftLeft_pos hc))
          (.finite .positive (10 ^ e.toNat) 0 (Nat.pow_pos (by decide)))
      else
        div Format.binary64 (.finite .positive c 0 hc)
          (.finite .positive (10 ^ (-e).toNat) 0 (Nat.pow_pos (by decide))) := by
  unfold UnpackedFloat.ofScientific
  rw [dif_neg hc.ne']
  rfl

theorem rounds_product {c : ℕ} (hc : 0 < c) {n : ℕ} (hn : n ≤ 2048) :
    Rounds (UnpackedFloat.ofScientific Format.binary64 c n) (c * 10 ^ n) := by
  have henough : 2 ^ 52 ≤ (c <<< 53) * 10 ^ n := by
    calc 2 ^ 52 ≤ 1 * 2 ^ 53 := by decide
      _ ≤ c * 2 ^ 53 := Nat.mul_le_mul_right _ hc
      _ = c <<< 53 := (Nat.shiftLeft_eq c 53).symm
      _ ≤ (c <<< 53) * 10 ^ n := Nat.le_mul_of_pos_right _ (Nat.pow_pos (by decide))
  have hten : 0 < 10 ^ n := Nat.pow_pos (by decide)
  have hrounds := rounds_mul (-53) 0 (shiftLeft_pos hc) hten henough
  have hvalue : ((c <<< 53 : ℕ) : ℚ) * 2 ^ (-53 : ℤ) * ((10 ^ n : ℕ) * 2 ^ (0 : ℤ)) =
      c * 10 ^ n := by
    rw [Nat.shiftLeft_eq, zpow_neg, zpow_zero, mul_one]
    push_cast
    rw [mul_assoc (c : ℚ)]
    norm_num
  rw [hvalue] at hrounds
  rw [unpacked_ofScientific hc, if_neg (by omega), if_neg (by omega), if_pos (by omega)]
  exact hrounds

theorem rounds_quotient {c : ℕ} (hc : 0 < c) {n : ℕ} (hpos : 0 < n) (hn : n ≤ 2048 + c.log2) :
    Rounds (UnpackedFloat.ofScientific Format.binary64 c (-n)) (c / 10 ^ n) := by
  have hrounds := rounds_div 0 0 hc (Nat.pow_pos (n := n) (by decide : 0 < 10))
  have hvalue : (c : ℚ) * 2 ^ (0 : ℤ) / ((10 ^ n : ℕ) * 2 ^ (0 : ℤ)) = c / 10 ^ n := by
    rw [zpow_zero, mul_one, mul_one]
    push_cast
    rfl
  rw [hvalue] at hrounds
  have hexponent : (-(-(n : ℤ))).toNat = n := by omega
  rw [unpacked_ofScientific hc, if_neg (by omega), if_neg (by omega), if_neg (by omega)]
  simp only [hexponent]
  exact hrounds

/-- **A decimal becomes a rounded value.** -/
theorem ofScientific_spec {c : ℕ} (hc : 0 < c) {small : Bool} {n : ℕ}
    (hreach : InReach c small n) : ∃ u, Float.ofScientific c small n = .ofModel (pack u) ∧
      Rounds u (decimal c small n) := by
  by_cases h : c < 2 ^ 53 ∧ n ≤ 22
  · exact rounds_of_small_coefficient hc small h
  · refine ⟨_, ofScientific_eq h small, ?_⟩
    cases small with
    | false => exact rounds_product hc hreach
    | true =>
      rcases Nat.eq_zero_or_pos n with rfl | hpos
      · have hone : (c : ℚ) / 10 ^ 0 = c * 10 ^ 0 := by simp
        show Rounds _ ((c : ℚ) / 10 ^ 0)
        rw [hone]
        exact rounds_product hc (Nat.zero_le 2048)
      · show Rounds (UnpackedFloat.ofScientific Format.binary64 c (Int.negOfNat n)) _
        rw [Int.negOfNat_eq]
        exact rounds_quotient hc hpos hreach

/-- What rounds to a number is in reach. -/
theorem inReach_of_contains {m : ℕ} {q : ℤ} (hm : Canonical m q) {c : ℕ} (hc : 0 < c)
    {small : Bool} {n : ℕ} (h : (Rounding.ofFinite m q).Contains (decimal c small n)) :
    InReach c small n := by
  have hten : (2 : ℚ) ^ n ≤ 10 ^ n := pow_le_pow_left₀ (by decide) (by norm_num) n
  cases small with
  | false =>
    by_contra hlarge
    have hn : 1024 ≤ n := by
      have : ¬ n ≤ 2048 := hlarge
      omega
    have hone : (1 : ℚ) ≤ c := by exact_mod_cast hc
    have hbig : (2 : ℚ) ^ 1024 ≤ c * 10 ^ n := by
      calc (2 : ℚ) ^ 1024 ≤ 2 ^ n := pow_le_pow_right₀ (by decide) hn
        _ ≤ 10 ^ n := hten
        _ ≤ c * 10 ^ n := le_mul_of_one_le_left (pow_nonneg (by decide) n) hone
    exact absurd (h.lt_two_pow hm) (not_lt_of_ge hbig)
  | true =>
    by_contra hlarge
    have hn : 2048 + c.log2 < n := Nat.lt_of_not_le hlarge
    have hge : (2 : ℚ) ^ (-1075 : ℤ) ≤ c / 10 ^ n := h.two_zpow_le hm
    have hlog := cast_lt_log2 c
    have hpos : (0 : ℚ) < 10 ^ n := pow_pos (by norm_num) n
    rw [le_div_iff₀ hpos] at hge
    have hbig : (2 : ℚ) ^ ((c.log2 : ℤ) + 1) ≤ 2 ^ (-1075 : ℤ) * 10 ^ n := by
      calc (2 : ℚ) ^ ((c.log2 : ℤ) + 1) ≤ 2 ^ (-1075 + (n : ℤ)) :=
            zpow_le_zpow_right₀ (by decide) (by omega)
        _ = 2 ^ (-1075 : ℤ) * 2 ^ n := by rw [zpow_add₀ two_ne_zero, zpow_natCast]
        _ ≤ 2 ^ (-1075 : ℤ) * 10 ^ n :=
          mul_le_mul_of_nonneg_left hten (zpow_nonneg (by decide) _)
    linarith

/-- **A decimal becomes the number in whose interval it lies.** -/
theorem ofScientific_of_contains {x : Float} {m : ℕ} {q : ℤ}
    (hx : Binary.ofFloat x = .finite false m q) (hm : 0 < m) {c : ℕ} (hc : 0 < c) {small : Bool}
    {n : ℕ} (h : (Rounding.ofFinite m q).Contains (decimal c small n)) :
    Float.ofScientific c small n = x := by
  have hcanonical := (toNat_bits hx).2 hm
  obtain ⟨u, heq, hrounds⟩ := ofScientific_spec hc (inReach_of_contains hcanonical hc h)
  have hu := hrounds.eq_of_contains hcanonical h
  rw [heq, hu, eq_pack hx hm]

end Worksheet.Number
