import Worksheet.Proofs.Formula.Matches
import Worksheet.Formula.Parser

/-!
# Blanks around a text

The tokens of a text do not depend on where it begins (`scans_of_scan`), and no token ends with a
blank, so a text has the same tokens without the blanks at its two ends (`Scans.trimChars`).  The
body of a formula has these tokens, but for the sign of equality in front (`Scans.formulaBody`).
-/

namespace Worksheet

open Text

variable {b s w : List Char}

/-- A text stands between blanks. -/
theorem Text.exists_trimChars (s : List Char) :
    ∃ b b', s = b ++ (trimChars s ++ b') ∧ (∀ c ∈ b, isBlank c = true) ∧
      ∀ c ∈ b', isBlank c = true := by
  refine ⟨s.takeWhile isBlank, ((s.dropWhile isBlank).reverse.takeWhile isBlank).reverse, ?_,
    List.all_eq_true.1 List.all_takeWhile, fun c hc => ?_⟩
  · rw [trimChars, trimEnd, ← List.reverse_append, List.takeWhile_append_dropWhile,
      List.reverse_reverse, List.takeWhile_append_dropWhile]
  · exact List.all_eq_true.1 List.all_takeWhile c (List.mem_reverse.1 hc)

/-! ### Tokens do not end with a blank -/

namespace Number

theorem not_isBlank_of_isDigit {c : Char} (h : c.isDigit = true) : isBlank c = false :=
  (Token.not_mem_of_isDigit h).1

theorem IsFraction.not_isBlank {f : List Char} (h : IsFraction f s) :
    ∀ c ∈ s, isBlank c = false := by
  cases h with
  | absent => exact List.forall_mem_nil _
  | present hdigits =>
    exact List.forall_mem_cons.2 ⟨by decide, fun c hc => not_isBlank_of_isDigit (hdigits c hc)⟩

theorem IsScale.not_isBlank {k : Int} (h : IsScale k s) : ∀ c ∈ s, isBlank c = false := by
  have hmark : ∀ {e : Char}, e = 'e' ∨ e = 'E' → isBlank e = false := by
    rintro e (rfl | rfl) <;> decide
  cases h with
  | absent => exact List.forall_mem_nil _
  | unsigned he _ hdigits =>
    exact List.forall_mem_cons.2 ⟨hmark he, fun c hc => not_isBlank_of_isDigit (hdigits c hc)⟩
  | plus he _ hdigits =>
    exact List.forall_mem_cons.2 ⟨hmark he, List.forall_mem_cons.2
      ⟨by decide, fun c hc => not_isBlank_of_isDigit (hdigits c hc)⟩⟩
  | minus he _ hdigits =>
    exact List.forall_mem_cons.2 ⟨hmark he, List.forall_mem_cons.2
      ⟨by decide, fun c hc => not_isBlank_of_isDigit (hdigits c hc)⟩⟩

theorem Numeral.WrittenAs.not_isBlank {n : Numeral} (h : n.WrittenAs s) :
    ∀ c ∈ s, isBlank c = false := by
  obtain ⟨-, hw, -, fraction, scale, rfl, hf, hk⟩ := h
  exact List.forall_mem_append.2 ⟨List.forall_mem_append.2
    ⟨fun c hc => not_isBlank_of_isDigit (hw c hc), hf.not_isBlank⟩, hk.not_isBlank⟩

end Number

namespace Token

theorem IsWord.not_isBlank (h : IsWord w) : ∀ c ∈ w, isBlank c = false :=
  fun c hc => not_isBlank_of_isWordChar (h.forall_isWordChar c hc)

theorem not_isBlank_of_writtenAs {a : Address} (h : a.WrittenAs w) : ∀ c ∈ w, isBlank c = false := by
  obtain ⟨letters, digits, hform, -⟩ := h.form
  exact (isWord_of_hasForm (Address.hasForm_iff.2 ⟨letters, digits, hform⟩)).not_isBlank

/-- A text may have blanks in it, but it ends with its quote. -/
theorem WrittenAs.stops_reverse {t : Token} (h : t.WrittenAs w) : Stops isBlank w.reverse := by
  have hall : ∀ {w : List Char}, (∀ c ∈ w, isBlank c = false) → Stops isBlank w.reverse :=
    fun h => stops_of_all fun c hc => h c (List.mem_reverse.1 hc)
  cases h with
  | number hn => exact hall hn.not_isBlank
  | text s =>
    rw [List.reverse_append]
    exact stops_cons (by decide)
  | boolean hw => exact hall hw.not_isBlank
  | name hw => exact hall hw.not_isBlank
  | cell ha => exact hall (not_isBlank_of_writtenAs ha)
  | range ha hb =>
    exact hall (List.forall_mem_append.2 ⟨not_isBlank_of_writtenAs ha,
      List.forall_mem_cons.2 ⟨by decide, not_isBlank_of_writtenAs hb⟩⟩)
  | operator op =>
    have hchars : op.chars.all (fun c => !isBlank c) = true := by
      cases op with
      | arithmetic op => cases op <;> decide
      | relation op => cases op <;> decide
    exact hall (by simpa using hchars)
  | leftParen => exact stops_cons (by decide)
  | rightParen => exact stops_cons (by decide)
  | comma => exact stops_cons (by decide)

/-! ### Tokens and blanks -/

section Scan

variable {c : Char} {rest : List Char} {ts us : List Token}

/-- **The tokens of a text do not depend on where it begins.** -/
theorem scans_of_scan {position : Nat} (h : scan position s = .ok ts) : Scans s ts := by
  fun_induction scan position s generalizing ts with
  | case1 position =>
    cases h
    exact scans_nil
  | case2 position c rest hblank ih =>
    intro position'
    rw [scan, if_pos hblank]
    exact ih h _
  | case3 position c rest hblank ih =>
    obtain ⟨⟨t, n⟩, hlexeme, h⟩ := bind_eq_ok.1 h
    obtain ⟨others, hothers, h⟩ := bind_eq_ok.1 h
    cases h
    intro position'
    rw [scan, if_neg hblank]
    exact bind_eq_ok.2 ⟨(t, n), lexeme_eq_ok_iff.2 (lexeme_eq_ok_iff.1 hlexeme),
      bind_eq_ok.2 ⟨others, ih n hothers _, rfl⟩⟩

theorem Scans.unique (h : Scans s ts) (h' : Scans s us) : ts = us :=
  Except.ok.inj ((h 0).symm.trans (h' 0))

theorem scans_cons_blank (hblank : isBlank c = true) : Scans (c :: s) ts ↔ Scans s ts := by
  constructor
  · intro h
    have hscan := h 0
    rw [scan, if_pos hblank] at hscan
    exact scans_of_scan hscan
  · intro h position
    rw [scan, if_pos hblank]
    exact h _

/-- A text that does not begin with a blank begins with a token. -/
theorem scans_cons (hblank : isBlank c = false) :
    Scans (c :: rest) ts ↔
      ∃ t n us, ts = t :: us ∧ IsLexeme c rest t n ∧ Scans (rest.drop (n - 1)) us := by
  have hnot : ¬ isBlank c = true := Bool.eq_false_iff.1 hblank
  constructor
  · intro h
    have hscan := h 0
    rw [scan, if_neg hnot] at hscan
    obtain ⟨⟨t, n⟩, hlexeme, hscan⟩ := bind_eq_ok.1 hscan
    obtain ⟨us, hus, hscan⟩ := bind_eq_ok.1 hscan
    cases hscan
    exact ⟨t, n, us, rfl, lexeme_eq_ok_iff.1 hlexeme, scans_of_scan hus⟩
  · rintro ⟨t, n, us, rfl, hlexeme, hus⟩ position
    rw [scan, if_neg hnot]
    exact bind_eq_ok.2 ⟨(t, n), lexeme_eq_ok_iff.2 hlexeme, bind_eq_ok.2 ⟨us, hus _, rfl⟩⟩

theorem scans_blanks_append (hb : ∀ c ∈ b, isBlank c = true) :
    Scans (b ++ s) ts ↔ Scans s ts := by
  induction b with
  | nil => exact Iff.rfl
  | cons c b ih =>
    obtain ⟨hc, hb⟩ := List.forall_mem_cons.1 hb
    rw [List.cons_append, scans_cons_blank hc, ih hb]

theorem scans_blanks (hb : ∀ c ∈ b, isBlank c = true) : Scans b [] := by
  rw [← List.append_nil b, scans_blanks_append hb]
  exact scans_nil

/-- A lexeme ends in front of the blanks at the end of a text. -/
theorem IsLexeme.le_length_of_blanks {t : Token} {n : Nat} (h : IsLexeme c (s ++ b) t n)
    (hb : ∀ c ∈ b, isBlank c = true) : n ≤ 1 + s.length := by
  have hlexeme : lexeme 0 c (s ++ b) = .ok (t, n) := lexeme_eq_ok_iff.2 h
  have hstops := (writtenAs_of_lexeme hlexeme).2.stops_reverse
  have hle := h.le_length
  by_contra hlt
  rw [← List.cons_append, List.take_append, List.take_of_length_le
    (by rw [List.length_cons]; omega)] at hstops
  obtain hnil | ⟨front, d, hmore⟩ := List.eq_nil_or_concat (b.take (n - (c :: s).length))
  · have hlength := congrArg List.length hnil
    rw [List.length_take, List.length_cons, List.length_nil] at hlength
    rw [List.length_append] at hle
    omega
  · rw [List.concat_eq_append] at hmore
    have hd : d ∈ b.take (n - (c :: s).length) := by
      rw [hmore]
      exact List.mem_append_right front List.mem_cons_self
    rw [hmore, ← List.append_assoc, List.reverse_append] at hstops
    exact absurd ((hstops d rfl).symm.trans (hb d (List.mem_of_mem_take hd))) Bool.false_ne_true

/-- **Blanks at the end of a text are no part of its tokens.** -/
theorem Scans.of_append_blanks (h : Scans (s ++ b) ts) (hb : ∀ c ∈ b, isBlank c = true) :
    Scans s ts := by
  have hhead : b.head? ≠ some '(' := fun hhead =>
    absurd (hb '(' (List.mem_of_head? hhead)) (by decide)
  induction hlength : s.length using Nat.strong_induction_on generalizing s ts with
  | _ m ih =>
    cases s with
    | nil =>
      rw [h.unique (scans_blanks hb)]
      exact scans_nil
    | cons c s =>
      rw [List.length_cons] at hlength
      rw [List.cons_append] at h
      cases hblank : isBlank c with
      | true =>
        rw [scans_cons_blank hblank] at h ⊢
        exact ih s.length (by omega) h rfl
      | false =>
        obtain ⟨t, n, us, rfl, hlexeme, hus⟩ := (scans_cons hblank).1 h
        have hle := hlexeme.le_length_of_blanks hb
        have hfound : lexeme 0 c (s ++ b) = .ok (t, n) := lexeme_eq_ok_iff.2 hlexeme
        have hcut := lexeme_of_append hhead hfound hle
        rw [List.drop_append_of_le_length (by omega)] at hus
        refine (scans_cons hblank).2 ⟨t, n, us, rfl, lexeme_eq_ok_iff.1 hcut, ?_⟩
        exact ih _ (by rw [List.length_drop]; omega) hus rfl

/-! ### The body of a formula -/

theorem Scans.trimChars (h : Scans s ts) : Scans (trimChars s) ts := by
  obtain ⟨b, b', hs, hb, hb'⟩ := exists_trimChars s
  rw [hs, scans_blanks_append hb] at h
  exact h.of_append_blanks hb'

/-- The tokens without the sign of equality that a formula may begin with. -/
def withoutEquals : List Token → List Token
  | .operator (.relation .equal) :: ts => ts
  | ts => ts

/-- Only a sign of equality begins with one. -/
theorem IsLexeme.eq_operator {u : Token} {n : Nat} (h : IsLexeme '=' rest u n) :
    u = .operator (.relation .equal) ∧ n = 1 := by
  cases h with
  | operator hop =>
    cases hop
    exact ⟨rfl, rfl⟩
  | number hc => exact absurd (by decide) (not_mem_of_startsNumeral hc).2.1
  | word hc => exact absurd hc (by decide)

theorem IsLexeme.eq_of_operator {n : Nat} (h : IsLexeme c rest (.operator (.relation .equal)) n) :
    c = '=' := by
  cases h with
  | operator hop =>
    unfold operatorLexeme? at hop
    split at hop <;> cases hop
    rfl
  | word hc h => cases h

/-- **The body of a formula has the tokens of the formula behind its sign of equality.** -/
theorem Scans.formulaBody (h : Scans s ts) : Scans (Expr.formulaBody s) (withoutEquals ts) := by
  have htrim := h.trimChars
  have hfront := stops_trimChars s
  unfold Expr.formulaBody
  split
  · next rest hrest =>
    rw [hrest, scans_cons (by decide)] at htrim
    obtain ⟨t, n, us, rfl, hlexeme, hus⟩ := htrim
    obtain ⟨rfl, rfl⟩ := hlexeme.eq_operator
    exact hus
  · next hequal =>
    unfold withoutEquals
    split
    · next us =>
      -- the body would begin with the sign of equality
      cases hbody : Text.trimChars s with
      | nil =>
        rw [hbody] at htrim
        exact nomatch htrim.unique scans_nil
      | cons c rest =>
        rw [hbody] at hfront htrim
        obtain ⟨t, n, us, heq, hlexeme, -⟩ := (scans_cons (hfront c rfl)).1 htrim
        obtain ⟨rfl, rfl⟩ := List.cons.inj heq
        rw [hlexeme.eq_of_operator] at hbody
        exact absurd hbody (hequal rest)
    · exact htrim

end Scan

end Token

end Worksheet
