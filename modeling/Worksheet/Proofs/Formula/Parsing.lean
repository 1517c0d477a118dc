import Worksheet.Proofs.Formula.Complete
import Worksheet.Proofs.Formula.Sound

/-!
# Formulas are read by the grammar

Reading is exact: a formula is read if and only if its tokens derive a tree within the limits, and
the tree read is that one.
-/

namespace Worksheet.Expr

theorem limited_eq_ok {α : Type} {c : Prop} [Decidable c] {x y : α} :
    limited c x = .ok y ↔ c ∧ x = y := by
  unfold limited
  by_cases hc : c
  · simp [hc]
  · simp [hc]

theorem limited_eq_tooDeep {α : Type} {c : Prop} [Decidable c] {x : α} :
    limited c x = .error .tooDeep ↔ ¬ c := by
  unfold limited
  by_cases hc : c
  · simp [hc]
  · simp [hc]

theorem ofTokens_eq_ok_iff {tokens : List Token} {e : Expr} :
    ofTokens tokens = .ok e ↔
      ∃ n, Derives (.expression Tier.all e) n tokens ∧ n ≤ depthLimit ∧ e.height ≤ depthLimit := by
  constructor
  · intro h
    obtain ⟨n, hderives⟩ := derives_of_ofTokens h
    rw [ofTokens_of_derives hderives] at h
    exact ⟨n, hderives, (limited_eq_ok.1 h).1⟩
  · rintro ⟨n, hderives, hlimits⟩
    rw [ofTokens_of_derives hderives]
    exact limited_eq_ok.2 ⟨hlimits, rfl⟩

/-- **Reading accepts exactly the grammar**: text is read as a tree if and only if its tokens derive
the tree within the limits.  There is then no other such tree, and only beyond the limits is a
derivation refused as too deep. -/
theorem reading_accepts_grammar :
    (∀ s e, ofText s = .ok e ↔ ∃ tokens, Token.scan 0 (formulaBody s.toList) = .ok tokens ∧
      ∃ n, Derives (.expression Tier.all e) n tokens ∧ n ≤ depthLimit ∧ e.height ≤ depthLimit) ∧
    ∀ tokens,
      (∀ e, ofTokens tokens = .ok e ↔
        ∃ n, Derives (.expression Tier.all e) n tokens ∧ n ≤ depthLimit ∧ e.height ≤ depthLimit) ∧
      (∀ e e' n n', Derives (.expression Tier.all e) n tokens → n ≤ depthLimit →
        e.height ≤ depthLimit → Derives (.expression Tier.all e') n' tokens → n' ≤ depthLimit →
        e'.height ≤ depthLimit → e = e') ∧
      ∀ e n, Derives (.expression Tier.all e) n tokens →
        (ofTokens tokens = .error .tooDeep ↔ depthLimit < n ∨ depthLimit < e.height) := by
  refine ⟨fun s e => ?_, fun tokens => ⟨fun e => ofTokens_eq_ok_iff, ?_, ?_⟩⟩
  · rw [ofText, bind_eq_ok]
    simp only [ofTokens_eq_ok_iff]
  · intro e e' n n' h hn he h' hn' he'
    have hread : ofTokens tokens = .ok e := ofTokens_eq_ok_iff.2 ⟨n, h, hn, he⟩
    have hread' : ofTokens tokens = .ok e' := ofTokens_eq_ok_iff.2 ⟨n', h', hn', he'⟩
    exact Except.ok.inj (hread.symm.trans hread')
  · intro e n h
    rw [ofTokens_of_derives h, limited_eq_tooDeep]
    omega

/-- A sign in front of an address is read as an operation on zero. -/
theorem reading_accepts_grammar_of_sign :
    ofTokens [.operator (.arithmetic .subtract), .cell ⟨0, 0⟩] =
      .ok (.binary (.arithmetic .subtract) .zero (.cell ⟨0, 0⟩)) := by
  have h : Derives (.expression Tier.all (.binary (.arithmetic .subtract) .zero (.cell ⟨0, 0⟩))) 1
      [.operator (.arithmetic .subtract), .cell ⟨0, 0⟩] :=
    .tighter (.tighter (.tighter (.sign rfl (.cell ⟨0, 0⟩))))
  exact ((reading_accepts_grammar.2 _).1 _).2 ⟨1, h, by decide, by decide⟩

end Worksheet.Expr
