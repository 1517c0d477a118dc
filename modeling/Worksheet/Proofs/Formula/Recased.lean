import Worksheet.Proofs.Formula.Matches
import Worksheet.Proofs.Text.Recased

/-!
# Tokens in another case

What the scanner finds out about the characters of a token does not change with the case of letters
and without marks (`Matches.recased`).  Numerals keep their value, addresses their place, and words
the name that they are read as.
-/

namespace Worksheet

open Text

variable {s w v rest rest' : List Char}

/-! ### Numerals -/

namespace Number

theorem isAlpha_of_isDigit {c : Char} (h : c.isDigit = true) : c.isAlpha = false ∧ c ≠ '$' := by
  refine ⟨Address.not_isAlpha_of_isDigit h, ?_⟩
  rintro rfl
  exact absurd h (by decide)

/-- Digits are the same in both cases. -/
theorem eq_of_recased_digits {digits : List Char} (hdigits : ∀ c ∈ digits, c.isDigit = true)
    (h : Recased digits v) : v = digits :=
  h.eq_of_forall fun c hc => isAlpha_of_isDigit (hdigits c hc)

theorem IsFraction.recased {f : List Char} (h : IsFraction f s) (hv : Recased s v) : v = s := by
  refine hv.eq_of_forall ?_
  cases h with
  | absent => exact List.forall_mem_nil _
  | present hdigits =>
    exact List.forall_mem_cons.2 ⟨by decide, fun c hc => isAlpha_of_isDigit (hdigits c hc)⟩

theorem IsScale.recased {k : Int} (h : IsScale k s) (hv : Recased s v) : IsScale k v := by
  have hmark : ∀ {e : Char}, e = 'e' ∨ e = 'E' → e ≠ '$' := by
    rintro e (rfl | rfl) <;> decide
  have hcase : ∀ {e d : Char}, e = 'e' ∨ e = 'E' → e.toUpper = d.toUpper → d = 'e' ∨ d = 'E' := by
    have hexponent : IgnoresCase fun c => c = 'e' || c = 'E' := ignoresCase_of_ascii (by decide)
    rintro e d (rfl | rfl) hd
    · simpa using hexponent.eq hd
    · simpa using hexponent.eq hd
  cases h with
  | absent =>
    cases hv
    exact .absent
  | unsigned he hne hdigits =>
    obtain ⟨d, v, rfl, hd, hv⟩ := hv.exists_cons (hmark he)
    rw [eq_of_recased_digits hdigits hv]
    exact .unsigned (hcase he hd) hne hdigits
  | plus he hne hdigits =>
    obtain ⟨d, v, rfl, hd, hv⟩ := hv.exists_cons (hmark he)
    obtain ⟨digits', rfl, hv'⟩ := hv.exists_cons_self (by decide) (by decide)
    rw [eq_of_recased_digits hdigits hv']
    exact .plus (hcase he hd) hne hdigits
  | minus he hne hdigits =>
    obtain ⟨d, v, rfl, hd, hv⟩ := hv.exists_cons (hmark he)
    obtain ⟨digits', rfl, hv'⟩ := hv.exists_cons_self (by decide) (by decide)
    rw [eq_of_recased_digits hdigits hv']
    exact .minus (hcase he hd) hne hdigits

/-- Only the letter in front of its exponent can change in a numeral. -/
theorem Numeral.WrittenAs.recased {n : Numeral} (h : n.WrittenAs s) (hv : Recased s v) :
    n.WrittenAs v := by
  obtain ⟨hnegative, hw, hne, fraction, scale, rfl, hf, hk⟩ := h
  obtain ⟨front, scale', rfl, hfront, hscale⟩ := hv.of_append
  obtain ⟨whole', fraction', rfl, hwhole, hfraction⟩ := hfront.of_append
  rw [eq_of_recased_digits hw hwhole, hf.recased hfraction]
  exact ⟨hnegative, hw, hne, fraction, scale', rfl, hf, hk.recased hscale⟩

theorem readFinite?_recased {n : Numeral} (h : n.WrittenAs s) (hv : Recased s v) :
    readFinite? v = readFinite? s := by
  unfold readFinite?
  rw [h.ofChars?, (h.recased hv).ofChars?]

end Number

/-! ### Addresses -/

namespace Column

theorem rank_toUpper (c : Char) : rank c.toUpper = rank c := by
  unfold rank
  rw [toUpper_toUpper]

theorem value_map_toUpper (letters : List Char) :
    value (letters.map Char.toUpper) = value letters := by
  unfold value
  rw [List.foldl_map]
  simp only [rank_toUpper]

end Column

namespace Address

theorem IsMark.recased {mark : List Char} (h : IsMark mark) (hv : Recased mark v) : IsMark v := by
  obtain rfl | rfl := h
  · cases hv
    exact Or.inl rfl
  · cases hv with
    | cons hc hv =>
      cases hv
      rw [eq_of_toUpper_eq (by decide) hc]
      exact Or.inr rfl
    | mark hv =>
      cases hv
      exact Or.inl rfl

theorem Form.recased {letters digits : List Char} (h : Form letters digits s) (hv : Recased s v) :
    ∃ letters', Form letters' digits v ∧ Column.value letters' = Column.value letters := by
  obtain ⟨hmark, hmark', hne, hletters, hne', hdigits⟩ := h
  obtain ⟨front, back, rfl, hfront, hback⟩ := hv.of_append
  obtain ⟨mark, letters', rfl, hm, hl⟩ := hfront.of_append
  obtain ⟨mark', digits', rfl, hm', hd⟩ := hback.of_append
  have hnomark : '$' ∉ letters := fun hmem => absurd (hletters '$' hmem) (by decide)
  have hupper := hl.map_toUpper hnomark
  rw [Number.eq_of_recased_digits hdigits hd]
  refine ⟨letters', .intro (hmark.recased hm) (hmark'.recased hm') ?_
    (hl.forall_mem ignoresCase_isAlpha hletters) hne' hdigits, ?_⟩
  · rintro rfl
    exact hne (List.map_eq_nil_iff.1 hupper.symm)
  · rw [← Column.value_map_toUpper, hupper, Column.value_map_toUpper]

theorem hasForm_recased (h : hasForm s = true) (hv : Recased s v) : hasForm v = true := by
  obtain ⟨letters, digits, hform⟩ := hasForm_iff.1 h
  obtain ⟨letters', hform', -⟩ := hform.recased hv
  exact hasForm_iff.2 ⟨letters', digits, hform'⟩

theorem not_hasForm_recased (h : hasForm s = false) (hmark : '$' ∉ s) (hv : Recased s v) :
    hasForm v = false := by
  rw [Bool.eq_false_iff] at h ⊢
  exact fun hform => h (hasForm_recased hform (hv.symm hmark))

theorem readTrimmed_recased {a : Address} (h : readTrimmed s = .ok a) (hv : Recased s v) :
    readTrimmed v = .ok a := by
  have ha := writtenAs_of_readTrimmed h
  obtain ⟨honrow, honcol⟩ := ha.onSheet
  obtain ⟨letters, digits, hform, hcol, hrow⟩ := ha.form
  obtain ⟨letters', hform', hvalue⟩ := hform.recased hv
  rw [hform'.readTrimmed (by omega) (by omega) (by omega), hvalue, hcol, hrow, Nat.add_sub_cancel,
    Nat.add_sub_cancel, Nat.toUInt32_eq, UInt32.ofNat_toNat, Nat.toUInt16_eq, UInt16.ofNat_toNat]

end Address

/-! ### Words -/

namespace Token

theorem ignoresCase_startsWord : IgnoresCase startsWord :=
  ignoresCase_of_ascii (by decide)

theorem ignoresCase_isWordChar : IgnoresCase isWordChar :=
  ignoresCase_of_ascii (by decide)

theorem IsWord.recased (h : IsWord w) (hmark : '$' ∉ w) (hv : Recased w v) : IsWord v := by
  obtain ⟨c, cs, rfl, hc, hcs⟩ := h
  rw [List.mem_cons, not_or] at hmark
  obtain ⟨d, ds, rfl, hd, hv⟩ := hv.exists_cons (Ne.symm hmark.1)
  exact ⟨d, ds, rfl, (ignoresCase_startsWord.eq hd).trans hc,
    hv.forall_mem ignoresCase_isWordChar hcs⟩

/-! ### Tokens -/

/-- Nothing that the scanner finds out depends on the case of letters or on marks, except in texts;
a name may have to keep its bracket. -/
theorem Matches.recased {t : Token} (h : Matches rest t w) (hv : Recased w v)
    (htext : ∀ s, t = .text s → v = w)
    (hname : ∀ f, t = .name f → rest.head? = some '(' → rest'.head? = some '(') :
    Matches rest' t v := by
  cases h with
  | number hn hx => exact .number (hn.recased hv) ((Number.readFinite?_recased hn hv).trans hx)
  | text s =>
    rw [htext s rfl]
    exact .text s
  | called hw hmark hrest =>
    rw [← hv.asciiUpper_eq hmark]
    exact .called (hw.recased hmark hv) (hv.not_mem_mark hmark) (hname _ rfl hrest)
  | name hw hmark hform htruth =>
    rw [← hv.asciiUpper_eq hmark] at htruth ⊢
    exact .name (hw.recased hmark hv) (hv.not_mem_mark hmark)
      (Address.not_hasForm_recased hform hmark hv) htruth
  | boolean hw hmark hform htruth =>
    rw [← hv.asciiUpper_eq hmark] at htruth
    exact .boolean (hw.recased hmark hv) (hv.not_mem_mark hmark)
      (Address.not_hasForm_recased hform hmark hv) htruth
  | cell hform ha =>
    exact .cell (Address.hasForm_recased hform hv) (Address.readTrimmed_recased ha hv)
  | range hform ha hform' hb =>
    obtain ⟨first, second, rfl, hfirst, hsecond⟩ := hv.of_append
    obtain ⟨second, rfl, hsecond'⟩ := hsecond.exists_cons_self (by decide) (by decide)
    exact .range (Address.hasForm_recased hform hfirst) (Address.readTrimmed_recased ha hfirst)
      (Address.hasForm_recased hform' hsecond') (Address.readTrimmed_recased hb hsecond')
  | operator op =>
    have hchars : ∀ c ∈ op.chars, c.isAlpha = false ∧ c ≠ '$' := by
      have hall : op.chars.all (fun c => !c.isAlpha && c != '$') = true := by
        cases op with
        | arithmetic op => cases op <;> decide
        | relation op => cases op <;> decide
      simpa using hall
    rw [hv.eq_of_forall hchars]
    exact .operator op
  | leftParen =>
    rw [hv.eq_of_forall (List.forall_mem_singleton.2 (by decide))]
    exact .leftParen
  | rightParen =>
    rw [hv.eq_of_forall (List.forall_mem_singleton.2 (by decide))]
    exact .rightParen
  | comma =>
    rw [hv.eq_of_forall (List.forall_mem_singleton.2 (by decide))]
    exact .comma

end Token

end Worksheet
