import Worksheet.Json.Reader
import Worksheet.Proofs.Number.Rounded
import Worksheet.Proofs.Number.Signed

/-!
# Numerals in JSON

A JSON numeral is a run of digits that does not begin with a zero unless it is one, with a fraction
or none and an exponent or none.  Both forms in which a number is set are such numerals, and the
reader takes a numeral whole, whatever stands behind it.
-/

namespace Worksheet.Json

open Number Text

variable {s t rest : List Char}

/-! ### What the reader takes -/

/-- Nothing, or an `e` with a sign or none and digits behind it. -/
inductive IsExponent : List Char → Prop where
  | absent : IsExponent []
  | present {sign digits : List Char} (hsign : sign = [] ∨ sign = ['-'] ∨ sign = ['+'])
      (hne : digits ≠ []) (hdigits : ∀ c ∈ digits, c.isDigit = true) :
      IsExponent ('e' :: (sign ++ digits))

/-- Nothing, or a point with digits behind it. -/
inductive IsFraction : List Char → Prop where
  | absent : IsFraction []
  | present {digits : List Char} (hne : digits ≠ []) (hdigits : ∀ c ∈ digits, c.isDigit = true) :
      IsFraction ('.' :: digits)

/-- Digits, the first of which is no zero unless it is the only one. -/
structure IsWhole (digits : List Char) : Prop where
  ne_nil : digits ≠ []
  isDigit : ∀ c ∈ digits, c.isDigit = true
  noLeadingZero : digits.head? = some '0' → digits.length = 1

/-- A numeral without a sign. -/
def IsUnsigned (s : List Char) : Prop :=
  ∃ whole fraction exponent, s = whole ++ (fraction ++ exponent) ∧
    IsWhole whole ∧ IsFraction fraction ∧ IsExponent exponent

/-- A numeral. -/
def IsNumeral (s : List Char) : Prop :=
  IsUnsigned s ∨ ∃ t, s = '-' :: t ∧ IsUnsigned t

theorem stops_isDigit (h : Stops goesOn rest) : Stops Char.isDigit rest :=
  fun c hc => not_isDigit_of_not_goesOn (h c hc)

theorem exponentLength?_of_stops (h : Stops goesOn rest) : exponentLength? rest = some 0 := by
  cases rest with
  | nil => rfl
  | cons c rest =>
    have hc := h c rfl
    unfold goesOn at hc
    rw [Bool.or_assoc, Bool.or_eq_false_iff] at hc
    unfold exponentLength?
    dsimp only
    rw [hc.2, if_neg Bool.false_ne_true]

/-- A run of digits begins with no sign. -/
theorem exponentLength?_unsigned {c : Char} (hc : c.isDigit = true) (cs : List Char) :
    exponentLength? ('e' :: c :: cs) =
      some (1 + ((c :: cs).takeWhile Char.isDigit).length) := by
  have hplus : c ≠ '+' := by rintro rfl; exact absurd hc (by decide)
  have hminus : c ≠ '-' := by rintro rfl; exact absurd hc (by decide)
  simp [exponentLength?, hplus, hminus, hc]

theorem exponentLength?_append (h : IsExponent s) (hrest : Stops goesOn rest) :
    exponentLength? (s ++ rest) = some s.length := by
  cases h with
  | absent => exact exponentLength?_of_stops hrest
  | @present sign digits hsign hne hdigits =>
    have htake : (digits ++ rest).takeWhile Char.isDigit = digits :=
      takeWhile_run hdigits (stops_isDigit hrest)
    have hempty : digits.isEmpty = false := by simpa using hne
    rw [List.cons_append, List.append_assoc]
    rcases hsign with rfl | rfl | rfl
    · obtain ⟨d, ds, rfl⟩ := List.exists_cons_of_ne_nil hne
      rw [List.nil_append, List.cons_append,
        exponentLength?_unsigned (hdigits d List.mem_cons_self), ← List.cons_append, htake,
        Nat.add_comm]
      rfl
    · show (if ((digits ++ rest).takeWhile Char.isDigit).isEmpty then none
        else some (1 + 1 + ((digits ++ rest).takeWhile Char.isDigit).length)) = _
      rw [htake, hempty, if_neg Bool.false_ne_true, Nat.add_comm]
      rfl
    · show (if ((digits ++ rest).takeWhile Char.isDigit).isEmpty then none
        else some (1 + 1 + ((digits ++ rest).takeWhile Char.isDigit).length)) = _
      rw [htake, hempty, if_neg Bool.false_ne_true, Nat.add_comm]
      rfl

theorem IsExponent.stops (h : IsExponent s) (hrest : Stops goesOn rest) :
    Stops Char.isDigit (s ++ rest) ∧ ∀ after, s ++ rest ≠ '.' :: after := by
  cases h with
  | absent =>
    refine ⟨stops_isDigit hrest, ?_⟩
    rintro after rfl
    exact absurd (hrest '.' rfl) (by decide)
  | present hsign hne hdigits => exact ⟨stops_cons (by decide), nofun⟩

theorem tailLength?_append {fraction exponent : List Char} (hf : IsFraction fraction)
    (he : IsExponent exponent) (hrest : Stops goesOn rest) :
    tailLength? (fraction ++ (exponent ++ rest)) = some (fraction ++ exponent).length := by
  obtain ⟨hstops, hpoint⟩ := he.stops hrest
  cases hf with
  | absent =>
    rw [List.nil_append, tailLength?]
    · exact exponentLength?_append he hrest
    · exact hpoint
  | @present digits hne hdigits =>
    have hempty : digits.isEmpty = false := by simpa using hne
    rw [List.cons_append, tailLength?, takeWhile_run hdigits hstops, dropWhile_run hdigits hstops,
      hempty, exponentLength?_append he hrest]
    simp
    omega

theorem IsFraction.stops {fraction exponent : List Char} (hf : IsFraction fraction)
    (he : IsExponent exponent) (hrest : Stops goesOn rest) :
    Stops Char.isDigit (fraction ++ (exponent ++ rest)) := by
  cases hf with
  | absent => exact (he.stops hrest).1
  | present hne hdigits => exact stops_cons (by decide)

theorem unsignedLength?_append (h : IsUnsigned s) (hrest : Stops goesOn rest) :
    unsignedLength? (s ++ rest) = some s.length := by
  obtain ⟨whole, fraction, exponent, rfl, hw, hf, he⟩ := h
  have hstops := hf.stops he hrest
  have hempty : whole.isEmpty = false := by simpa using hw.ne_nil
  have hzero : (whole.head? == some '0' && decide (1 < whole.length)) = false := by
    rw [Bool.and_eq_false_iff, beq_eq_false_iff_ne, decide_eq_false_iff_not]
    refine or_iff_not_imp_left.2 fun h => ?_
    have := hw.noLeadingZero (not_not.1 h)
    omega
  rw [List.append_assoc, List.append_assoc, unsignedLength?, takeWhile_run hw.isDigit hstops,
    dropWhile_run hw.isDigit hstops, tailLength?_append hf he hrest, hempty, hzero]
  simp

theorem IsUnsigned.exists_cons (h : IsUnsigned s) : ∃ c cs, s = c :: cs ∧ c.isDigit = true := by
  obtain ⟨whole, fraction, exponent, rfl, hw, -, -⟩ := h
  obtain ⟨c, cs, rfl⟩ := List.exists_cons_of_ne_nil hw.ne_nil
  exact ⟨c, _, rfl, hw.isDigit c List.mem_cons_self⟩

/-- **The reader takes a numeral whole**, whatever stands behind it. -/
theorem numeralLength?_append (h : IsNumeral s) (hrest : Stops goesOn rest) :
    numeralLength? (s ++ rest) = some s.length := by
  rcases h with h | ⟨t, rfl, h⟩
  · obtain ⟨c, cs, rfl, hc⟩ := h.exists_cons
    have hminus : c ≠ '-' := by rintro rfl; exact absurd hc (by decide)
    have hlength := unsignedLength?_append h hrest
    rw [List.cons_append] at hlength ⊢
    rw [numeralLength?, hlength]
    simpa using hminus
  · rw [List.cons_append, numeralLength?, unsignedLength?_append h hrest, Option.map_some,
      Nat.add_comm]
    rfl

/-! ### What is written -/

/-- The digits of a positive number begin with no zero. -/
theorem head?_decimalDigits {n : Nat} (hn : 0 < n) : (decimalDigits n).head? ≠ some '0' := by
  intro hhead
  obtain ⟨cs, hcs⟩ := List.head?_eq_some_iff.1 hhead
  have hvalue := decimalValue_decimalDigits n
  have hle := pow_length_decimalDigits_le hn
  have hlt := decimalValue_lt fun c hc =>
    isDigit_of_mem_decimalDigits (n := n) (hcs ▸ List.mem_cons_of_mem '0' hc)
  rw [hcs, decimalValue_cons, Nat.sub_self, Nat.mul_zero, Nat.zero_add] at hvalue
  rw [hcs, List.length_cons, Nat.add_sub_cancel, ← hvalue] at hle
  omega

theorem isWhole_decimalDigits (n : Nat) : IsWhole (decimalDigits n) where
  ne_nil := List.ne_nil_of_length_pos Nat.length_toDigits_pos
  isDigit _ := isDigit_of_mem_decimalDigits
  noLeadingZero h := by
    rcases Nat.eq_zero_or_pos n with rfl | hn
    · rfl
    · exact absurd h (head?_decimalDigits hn)

theorem isUnsigned_decimalDigits (n : Nat) : IsUnsigned (decimalDigits n) :=
  ⟨decimalDigits n, [], [], (List.append_nil _).symm, isWhole_decimalDigits n, .absent, .absent⟩

/-- The digits of the shortest decimal begin with a zero only when it is zero. -/
theorem isWhole_shortest {m : ℕ} {q : ℤ} (hm : 0 < m → Canonical m q) (tie : Tie) :
    IsWhole (shortest tie m q).digits ∧
      ((shortest tie m q).digits.head? = some '0' → (shortest tie m q).lead = 0) := by
  rcases Nat.eq_zero_or_pos m with rfl | hpos
  · exact ⟨isWhole_decimalDigits 0, fun _ => rfl⟩
  · have hdigits := (contains_shortest (hm hpos) tie).2
    obtain ⟨c, k, hcontains, hshortest⟩ := exists_shortest (hm hpos) tie
    have hc : 0 < c := hcontains.coefficient_pos (hm hpos)
    obtain ⟨n, hn⟩ := exists_stripped_append (decimalDigits c)
    have hne : stripped (decimalDigits c) ≠ [] := by
      intro hnil
      have hvalue := decimalValue_decimalDigits c
      rw [hn, hnil, List.nil_append, decimalValue_replicate] at hvalue
      omega
    have hhead : (stripped (decimalDigits c)).head? ≠ some '0' := by
      intro hzero
      refine head?_decimalDigits hc ?_
      rw [hn, List.head?_append, hzero, Option.some_or]
    rw [hshortest] at hdigits ⊢
    exact ⟨⟨hne, hdigits, fun h => absurd h hhead⟩, fun h => absurd h hhead⟩

/-- A decimal in positional notation is a numeral. -/
theorem isUnsigned_spread {d : Decimal} (h : IsWhole d.digits)
    (hzero : d.digits.head? = some '0' → d.lead = 0) : IsUnsigned (layout.spread d) := by
  have hzeros : ∀ n, ∀ c ∈ List.replicate n '0', c.isDigit = true := fun n c hc =>
    List.eq_of_mem_replicate hc ▸ (by decide)
  unfold Layout.spread
  split
  · refine ⟨['0'], '.' :: (List.replicate (-d.lead - 1).toNat '0' ++ d.digits), [], ?_,
      isWhole_decimalDigits 0, .present (List.append_ne_nil_of_right_ne_nil _ h.ne_nil)
        (List.forall_mem_append.2 ⟨hzeros _, h.isDigit⟩), .absent⟩
    rw [List.append_nil]
    rfl
  · next hlead =>
    dsimp only
    split
    · refine ⟨d.digits ++ List.replicate (d.lead.toNat + 1 - d.digits.length) '0', ['.', '0'], [],
        rfl, ⟨List.append_ne_nil_of_left_ne_nil h.ne_nil _,
          List.forall_mem_append.2 ⟨h.isDigit, hzeros _⟩, fun hhead => ?_⟩,
        .present (List.cons_ne_nil _ _) (hzeros 1), .absent⟩
      rw [List.head?_append_of_ne_nil _ h.ne_nil] at hhead
      rw [hzero hhead, List.length_append, h.noLeadingZero hhead]
      rfl
    · next hlonger =>
      refine ⟨d.digits.take (d.lead.toNat + 1), '.' :: d.digits.drop (d.lead.toNat + 1), [],
        by rw [List.append_nil], ⟨by simpa using h.ne_nil,
          fun c hc => h.isDigit c (List.mem_of_mem_take hc), fun hhead => ?_⟩,
        .present (by simpa using hlonger) (fun c hc => h.isDigit c (List.mem_of_mem_drop hc)),
        .absent⟩
      rw [List.head?_take, if_neg (Nat.succ_ne_zero _)] at hhead
      rw [List.length_take, h.noLeadingZero hhead]
      omega

/-- A decimal with a power of ten is a numeral. -/
theorem isUnsigned_scientific {d : Decimal} (h : IsWhole d.digits) :
    IsUnsigned (layout.scientific d) := by
  obtain ⟨c, cs, hcons⟩ := List.exists_cons_of_ne_nil h.ne_nil
  have hdigits := h.isDigit
  rw [hcons, List.forall_mem_cons] at hdigits
  have hexponent := isWhole_decimalDigits d.lead.natAbs
  refine ⟨[c], if cs.isEmpty then [] else '.' :: cs, 'e' :: ((if d.lead < 0 then ['-'] else ['+']) ++
      decimalDigits d.lead.natAbs), ?_, ⟨List.cons_ne_nil _ _,
      List.forall_mem_singleton.2 hdigits.1, fun _ => rfl⟩, ?_,
    .present ?_ hexponent.ne_nil hexponent.isDigit⟩
  · unfold Layout.scientific
    rw [hcons]
    simp [layout, decimalDigits]
  · cases cs with
    | nil => exact .absent
    | cons c cs => exact .present (List.cons_ne_nil _ _) hdigits.2
  · split
    · exact Or.inr (Or.inl rfl)
    · exact Or.inr (Or.inr rfl)

/-- **A finite number is written as a numeral.** -/
theorem isNumeral_write {x : Float} (hx : x.isFinite = true) : IsNumeral (layout.write x) := by
  obtain ⟨negative, m, q, h⟩ := exists_ofFloat hx
  have hbody : IsUnsigned (layout.body (shortest layout.tie m q)) := by
    obtain ⟨hwhole, hzero⟩ := isWhole_shortest (canonical_of_ofFloat h) layout.tie
    unfold Layout.body
    split
    · exact isUnsigned_spread hwhole hzero
    · exact isUnsigned_scientific hwhole
  unfold Layout.write
  rw [h]
  cases negative with
  | false => exact Or.inl hbody
  | true =>
    refine Or.inr ⟨_, ?_, hbody⟩
    simp [layout]

/-! ### Whole numbers are floats -/

theorem addDigits_eq {significand : ℕ} {digits : List Char}
    (h : 10 ^ digits.length * significand + decimalValue digits < 2 ^ 64) :
    addDigits significand digits = (10 ^ digits.length * significand + decimalValue digits, 0) := by
  induction digits generalizing significand with
  | nil =>
    rw [addDigits, List.length_nil, pow_zero, Nat.one_mul]
    rfl
  | cons d digits ih =>
    have hvalue : 10 ^ (d :: digits).length * significand + decimalValue (d :: digits) =
        10 ^ digits.length * (10 * significand + (d.toNat - '0'.toNat)) + decimalValue digits := by
      rw [decimalValue_cons, List.length_cons, pow_succ]
      ring
    rw [hvalue] at h ⊢
    have hnext : 10 * significand + (d.toNat - '0'.toNat) < UInt64.size := by
      refine lt_of_le_of_lt ?_ h
      exact (Nat.le_mul_of_pos_left _ (Nat.pow_pos (by decide))).trans (Nat.le_add_right _ _)
    rw [addDigits, if_pos hnext]
    exact ih h

theorem magnitude?_decimalDigits {n : ℕ} (hn : n < 2 ^ 53) :
    magnitude? (decimalDigits n) = scale? n.toFloat 0 := by
  have hdigits : ∀ c ∈ decimalDigits n, c.isDigit = true := fun c => isDigit_of_mem_decimalDigits
  have htake := takeWhile_run hdigits stops_nil
  have hdrop := dropWhile_run hdigits stops_nil
  rw [List.append_nil] at htake hdrop
  have hadd : addDigits 0 (decimalDigits n) = (n, 0) := by
    rw [addDigits_eq]
    · rw [decimalValue_decimalDigits, Nat.mul_zero, Nat.zero_add]
    · rw [decimalValue_decimalDigits, Nat.mul_zero, Nat.zero_add]
      omega
  unfold magnitude? splitDigits
  rw [htake, hdrop]
  simp [hadd, addDigits, exponentOf]

/-- **A whole number of at most 53 bits is read as a float.** -/
theorem isSome_float?_decimalDigits {n : ℕ} (hn : n < 2 ^ 53) :
    (float? (decimalDigits n)).isSome = true := by
  have hsign : float? (decimalDigits n) = magnitude? (decimalDigits n) := by
    obtain ⟨c, cs, hcons, hc⟩ := (isUnsigned_decimalDigits n).exists_cons
    rw [hcons, float?]
    intro numeral heq
    obtain ⟨rfl, -⟩ := List.cons.inj heq
    exact absurd hc (by decide)
  rw [hsign, magnitude?_decimalDigits hn]
  show (scale? n.toFloat (.ofNat 0)).isSome = true
  rcases Nat.eq_zero_or_pos n with rfl | hpos
  · decide +kernel
  · unfold scale?
    dsimp only
    rw [if_pos (Nat.zero_le 308), if_pos (isFinite_toFloat_mul_one hpos hn)]
    split <;> rfl

end Worksheet.Json
