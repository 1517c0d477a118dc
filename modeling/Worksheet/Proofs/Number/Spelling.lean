import Worksheet.Proofs.Number.Rounded

/-!
# How numbers are spelled

`Numeral.WrittenAs` says which characters are a numeral without a sign: digits with a point among
them, in front of them, behind them or nowhere, and a power of ten or none.  What is read as a
number is spelled like this (`exists_writtenAs_of_readFinite?`).
-/

namespace Worksheet.Number

/-- Nothing, or a point with the digits behind it. -/
inductive IsFraction : List Char → List Char → Prop where
  | absent : IsFraction [] []
  | present {digits : List Char} (hdigits : ∀ c ∈ digits, c.isDigit = true) :
      IsFraction digits ('.' :: digits)

theorem IsFraction.isDigit {digits s : List Char} (h : IsFraction digits s) :
    ∀ c ∈ digits, c.isDigit = true := by
  cases h with
  | absent => exact List.forall_mem_nil _
  | present hdigits => exact hdigits

/-- Nothing, or an `e` with the exponent behind it. -/
inductive IsScale : Int → List Char → Prop where
  | absent : IsScale 0 []
  | unsigned {e : Char} {digits : List Char} (he : e = 'e' ∨ e = 'E') (hne : digits ≠ [])
      (hdigits : ∀ c ∈ digits, c.isDigit = true) :
      IsScale (Text.decimalValue digits) (e :: digits)
  | plus {e : Char} {digits : List Char} (he : e = 'e' ∨ e = 'E') (hne : digits ≠ [])
      (hdigits : ∀ c ∈ digits, c.isDigit = true) :
      IsScale (Text.decimalValue digits) (e :: '+' :: digits)
  | minus {e : Char} {digits : List Char} (he : e = 'e' ∨ e = 'E') (hne : digits ≠ [])
      (hdigits : ∀ c ∈ digits, c.isDigit = true) :
      IsScale (-(Text.decimalValue digits : Int)) (e :: '-' :: digits)

namespace Numeral

/-- The characters are this numeral, which has no sign and a digit on one side of its point at
least. -/
structure WrittenAs (n : Numeral) (s : List Char) : Prop where
  negative : n.negative = false
  whole : ∀ c ∈ n.whole, c.isDigit = true
  digits : n.whole ++ n.fraction ≠ []
  parts : ∃ fraction scale, s = n.whole ++ fraction ++ scale ∧
    IsFraction n.fraction fraction ∧ IsScale n.exponent scale

theorem WrittenAs.isDigit {n : Numeral} {s : List Char} (h : n.WrittenAs s) :
    ∀ c ∈ n.whole ++ n.fraction, c.isDigit = true := by
  obtain ⟨fraction, scale, -, hfraction, -⟩ := h.parts
  exact List.forall_mem_append.2 ⟨h.whole, hfraction.isDigit⟩

/-- A text of digits behind an optional sign is an exponent. -/
theorem isScale_of_exponent? {e : Char} {s : List Char} {k : Int} (he : e = 'e' ∨ e = 'E')
    (h : exponent? s = some k) : IsScale k (e :: s) := by
  unfold exponent? splitSign at h
  split at h
  next negative digits hsplit =>
  split at h
  · cases h
  next hdigits =>
  simp only [Bool.or_eq_true, not_or, List.isEmpty_iff, Bool.not_eq_true', Bool.not_eq_false,
    List.all_eq_true] at hdigits
  split at hsplit
  · cases hsplit
    cases h
    exact .minus he hdigits.1 hdigits.2
  · cases hsplit
    cases h
    exact .plus he hdigits.1 hdigits.2
  · cases hsplit
    cases h
    exact .unsigned he hdigits.1 hdigits.2

theorem isScale_of_scale? {s : List Char} {k : Int} (h : scale? s = some k) : IsScale k s := by
  unfold scale? at h
  split at h
  · cases h
    exact .absent
  · split at h
    · next he => exact isScale_of_exponent? (by simpa using he) h
    · cases h

end Numeral

theorem isDigit_of_mem_takeWhile {s : List Char} : ∀ c ∈ s.takeWhile Char.isDigit,
    c.isDigit = true :=
  List.all_eq_true.1 List.all_takeWhile

theorem splitSign_eq_self {s : List Char} (hminus : s.head? ≠ some '-')
    (hplus : s.head? ≠ some '+') : splitSign s = (false, s) := by
  unfold splitSign
  split
  · exact absurd rfl hminus
  · exact absurd rfl hplus
  · rfl

theorem Numeral.writtenAs_of_scale? {w f fraction rest : List Char} {n : Numeral}
    (hw : ∀ c ∈ w, c.isDigit = true) (hf : IsFraction f fraction)
    (h : (if w.isEmpty && f.isEmpty then none
      else (scale? rest).map fun exponent => ⟨false, w, f, exponent⟩) = some n) :
    n.WrittenAs (w ++ fraction ++ rest) := by
  split at h
  · cases h
  next hne =>
  obtain ⟨k, hk, rfl⟩ := Option.map_eq_some_iff.1 h
  refine ⟨rfl, hw, fun hnil => hne ?_, fraction, rest, rfl, hf, isScale_of_scale? hk⟩
  simpa using hnil

/-- **What is read as a numeral is spelled as one.** -/
theorem Numeral.writtenAs_of_ofChars? {s : List Char} {n : Numeral} (hminus : s.head? ≠ some '-')
    (hplus : s.head? ≠ some '+') (h : ofChars? s = some n) : n.WrittenAs s := by
  unfold ofChars? at h
  rw [splitSign_eq_self hminus hplus] at h
  dsimp only at h
  have hs : s.takeWhile Char.isDigit ++ s.dropWhile Char.isDigit = s :=
    List.takeWhile_append_dropWhile
  split at h
  · next after hafter =>
    have hwritten := writtenAs_of_scale? isDigit_of_mem_takeWhile
      (.present isDigit_of_mem_takeWhile) h
    rwa [List.append_assoc, List.cons_append, List.takeWhile_append_dropWhile, ← hafter,
      hs] at hwritten
  · have hwritten := writtenAs_of_scale? isDigit_of_mem_takeWhile .absent h
    rwa [List.append_nil, hs] at hwritten

/-- **What is read as a number is a numeral whose value rounds to it.** -/
theorem exists_writtenAs_of_readFinite? {s : List Char} {x : Float} (hminus : s.head? ≠ some '-')
    (hplus : s.head? ≠ some '+') (h : readFinite? s = some x) :
    ∃ n : Numeral, n.WrittenAs s ∧ IsRounded x n.value := by
  obtain ⟨n, hn, hx⟩ := Option.bind_eq_some_iff.1 h
  obtain ⟨hfinite, hx⟩ := Option.ite_none_right_eq_some.1 hx
  obtain rfl := Option.some.inj hx
  have hwritten := Numeral.writtenAs_of_ofChars? hminus hplus hn
  exact ⟨n, hwritten, Numeral.isRounded_toFloat hwritten.negative hwritten.isDigit hfinite⟩

/-- A plain numeral is a numeral without a power of ten. -/
theorem Plain.writtenAs {w f s : List Char} (h : Plain w f s) :
    Numeral.WrittenAs ⟨false, w, f, 0⟩ s := by
  refine ⟨rfl, fun c hc => h.isDigit c (List.mem_append_left f hc), ?_, ?_⟩
  · obtain ⟨-, hne⟩ | ⟨-, hne, -⟩ := h
    · exact List.append_ne_nil_of_left_ne_nil hne _
    · exact List.append_ne_nil_of_left_ne_nil hne _
  · obtain ⟨-, -⟩ | ⟨-, -, hf⟩ := h
    · exact ⟨[], [], by simp, .absent, .absent⟩
    · exact ⟨'.' :: f, [], by simp, .present hf, .absent⟩

/-! ### What is spelled is read -/

open Text

theorem IsScale.scale? {k : Int} {s : List Char} (h : IsScale k s) : Numeral.scale? s = some k := by
  cases h with
  | absent => rfl
  | @unsigned e digits he hne hdigits =>
    obtain ⟨d, ds, rfl⟩ := List.exists_cons_of_ne_nil hne
    have hd := hdigits d List.mem_cons_self
    rw [Numeral.scale?, if_pos (by simpa using he), Numeral.exponent?, splitSign_of_isDigit hd]
    simp [List.all_eq_true.2 hdigits]
  | @plus e digits he hne hdigits =>
    rw [Numeral.scale?, if_pos (by simpa using he), Numeral.exponent?]
    simp [splitSign, hne, List.all_eq_true.2 hdigits]
  | @minus e digits he hne hdigits =>
    rw [Numeral.scale?, if_pos (by simpa using he), Numeral.exponent?]
    simp [splitSign, hne, List.all_eq_true.2 hdigits]

theorem IsScale.stops {k : Int} {s rest : List Char} (h : IsScale k s) (hrest : Stops goesOn rest) :
    Stops Char.isDigit (s ++ rest) ∧ (s ++ rest).head? ≠ some '.' := by
  have hmark : ∀ {e : Char}, e = 'e' ∨ e = 'E' → e.isDigit = false ∧ e ≠ '.' := by
    rintro e (rfl | rfl) <;> decide
  cases h with
  | absent =>
    refine ⟨fun c hc => not_isDigit_of_not_goesOn (hrest c hc), fun hc => ?_⟩
    exact absurd (hrest '.' hc) (by decide)
  | unsigned he => exact ⟨stops_cons (hmark he).1, fun hc => (hmark he).2 (Option.some.inj hc)⟩
  | plus he => exact ⟨stops_cons (hmark he).1, fun hc => (hmark he).2 (Option.some.inj hc)⟩
  | minus he => exact ⟨stops_cons (hmark he).1, fun hc => (hmark he).2 (Option.some.inj hc)⟩

theorem IsFraction.stops {f fraction rest : List Char} (h : IsFraction f fraction)
    (hrest : Stops Char.isDigit rest) : Stops Char.isDigit (fraction ++ rest) := by
  cases h with
  | absent => exact hrest
  | present => exact stops_cons (by decide)

/-- A numeral begins with a digit, or with a point and a digit. -/
theorem Numeral.WrittenAs.exists_cons {n : Numeral} {s : List Char} (h : n.WrittenAs s) :
    ∃ c cs, s = c :: cs ∧
      (c.isDigit = true ∨ c = '.' ∧ ∃ d ds, cs = d :: ds ∧ d.isDigit = true) := by
  obtain ⟨-, hw, hne, fraction, scale, rfl, hf, -⟩ := h
  generalize n.fraction = f at hne hf
  cases hwhole : n.whole with
  | cons c cs => exact ⟨c, _, rfl, Or.inl (hw c (hwhole ▸ List.mem_cons_self))⟩
  | nil =>
    rw [hwhole, List.nil_append] at hne
    cases hf with
    | absent => exact absurd rfl hne
    | present hdigits =>
      obtain ⟨d, ds, hcons⟩ := List.exists_cons_of_ne_nil hne
      refine ⟨'.', _, rfl, Or.inr ⟨rfl, d, ds ++ scale, by rw [hcons]; rfl, ?_⟩⟩
      exact hdigits d (hcons ▸ List.mem_cons_self)

theorem Numeral.WrittenAs.splitSign_eq {n : Numeral} {s : List Char} (h : n.WrittenAs s) :
    splitSign s = (false, s) := by
  obtain ⟨c, cs, rfl, hc⟩ := h.exists_cons
  have hsign : ∀ d : Char, d.isDigit = false → d ≠ '.' → (c :: cs).head? ≠ some d := by
    intro d hdigit hpoint heq
    obtain rfl := Option.some.inj heq
    rcases hc with hc | ⟨hc, -⟩
    · exact absurd (hc.symm.trans hdigit) (by decide)
    · exact hpoint hc
  exact splitSign_eq_self (hsign '-' (by decide) (by decide)) (hsign '+' (by decide) (by decide))

/-- **What is spelled as a numeral is read as one.** -/
theorem Numeral.WrittenAs.ofChars? {n : Numeral} {s : List Char} (h : n.WrittenAs s) :
    ofChars? s = some n := by
  have hsign := h.splitSign_eq
  obtain ⟨hnegative, hw, hne, fraction, scale, hs, hf, hk⟩ := h
  obtain ⟨hscale, hpoint⟩ := hk.stops stops_nil
  rw [List.append_nil] at hscale hpoint
  have hempty : (n.whole.isEmpty && n.fraction.isEmpty) = false := by
    simpa [or_iff_not_imp_left] using hne
  have hnumeral : (⟨false, n.whole, n.fraction, n.exponent⟩ : Numeral) = n := by
    rw [← hnegative]
  unfold Numeral.ofChars?
  rw [hsign]
  dsimp only
  rw [hs, List.append_assoc, takeWhile_run hw (hf.stops hscale), dropWhile_run hw (hf.stops hscale)]
  generalize hfraction : n.fraction = f at *
  cases hf with
  | absent =>
    rw [List.nil_append]
    split
    · exact absurd rfl hpoint
    · rw [hempty, if_neg Bool.false_ne_true, hk.scale?, Option.map_some, hnumeral]
  | present hdigits =>
    rw [List.cons_append]
    show (if n.whole.isEmpty && ((f ++ scale).takeWhile Char.isDigit).isEmpty then none
      else (scale? ((f ++ scale).dropWhile Char.isDigit)).map fun exponent =>
        ⟨false, n.whole, (f ++ scale).takeWhile Char.isDigit, exponent⟩) = some n
    rw [takeWhile_run hdigits hscale, dropWhile_run hdigits hscale, hempty,
      if_neg Bool.false_ne_true, hk.scale?, Option.map_some, hnumeral]

end Worksheet.Number
