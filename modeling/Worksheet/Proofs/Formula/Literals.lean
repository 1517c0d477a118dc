import Worksheet.Proofs.Errors
import Worksheet.Proofs.Formula.Size

/-!
# Texts in formulas

A text in an expression is one of the tokens of its formula, so it has no characters that the
formula does not have (`Expr.mem_of_mem_literal`).
-/

namespace Worksheet

/-! ### From the formula to its tokens -/

theorem TextLiteral.mem_body {c : Char} {s : List Char} (h : c ∈ s) : c ∈ body s := by
  induction s with
  | nil => cases h
  | cons d rest ih =>
    unfold body
    rcases List.mem_cons.1 h with rfl | h
    · split
      · next hquote => simp [hquote]
      · exact List.mem_cons_self
    · split
      · exact List.mem_cons_of_mem _ (List.mem_cons_of_mem _ (ih h))
      · exact List.mem_cons_of_mem d (ih h)

theorem Token.MadeOf.mem_of_text {s : List Char} {tokens : List Token} (h : MadeOf s tokens)
    {t : String} (ht : .text t ∈ tokens) {c : Char} (hc : c ∈ t.toList) : c ∈ s := by
  induction h with
  | blanks => cases ht
  | token hs hw hrest ih =>
    rcases List.mem_cons.1 ht with rfl | ht
    · cases hw with
      | text =>
        have hbody := TextLiteral.mem_body hc
        simp [hbody]
    · simp [ih ht]

/-! ### From the tokens to the expression -/

/-- The expressions in a phrase. -/
def Phrase.parts : Phrase → List Expr
  | expression _ e => e.parts
  | arguments args => Expr.partsAll args

theorem Derives.mem_of_literal {phrase : Phrase} {n : ℕ} {ts : List Token}
    (h : Derives phrase n ts) {t : String} (ht : .literal (.text t) ∈ phrase.parts) :
    .text t ∈ ts := by
  induction h with
  | number x | boolean b | cell a | range r => simp [Phrase.parts, Expr.parts] at ht
  | text s =>
    obtain rfl : t = s := by simpa [Phrase.parts, Expr.parts] using ht
    exact List.mem_singleton_self _
  | emptyCall f => simp [Phrase.parts, Expr.parts, Expr.partsAll] at ht
  | tighter _ ih => exact ih ht
  | brackets _ ih => simp [ih ht]
  | sign _ _ ih =>
    rcases Expr.mem_parts_binary.1 ht with ht | ht | ht
    · cases ht
    · simp [Expr.zero, Expr.parts] at ht
    · simp [ih ht]
  | call f _ ih =>
    rcases Expr.mem_parts_call.1 ht with ht | hargs
    · cases ht
    · simp [ih (Expr.mem_partsAll.2 hargs)]
  | binary _ _ ihleft ihright =>
    rcases Expr.mem_parts_binary.1 ht with ht | ht | ht
    · cases ht
    · simp [ihleft ht]
    · simp [ihright ht]
  | lastArgument _ ih => exact ih (by simpa [Phrase.parts, Expr.partsAll] using ht)
  | argument _ _ ih ihothers =>
    rcases List.mem_append.1 ht with ht | ht
    · simp [ih ht]
    · simp [ihothers ht]

namespace Expr

/-- **What is in a text of an expression is in its formula.** -/
theorem mem_of_mem_literal {source : String} {e : Expr} (h : ofText source = .ok e) {t : String}
    (ht : .literal (.text t) ∈ e.parts) {c : Char} (hc : c ∈ t.toList) : c ∈ source.toList := by
  obtain ⟨tokens, hscan, h⟩ := bind_eq_ok.1 h
  obtain ⟨n, hderives⟩ := derives_of_ofTokens h
  have hbody := (Token.madeOf_of_scan hscan).mem_of_text (hderives.mem_of_literal ht) hc
  exact (formulaBody_sublist source.toList).subset hbody

end Expr

end Worksheet
