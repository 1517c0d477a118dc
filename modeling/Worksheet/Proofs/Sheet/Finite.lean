import Worksheet.Proofs.Function.Kinds
import Worksheet.Proofs.Number.Finite
import Worksheet.Proofs.Sheet.Origin
import Worksheet.Proofs.Sheet.Stored
import Worksheet.Proofs.Sheet.Written

/-!
# No infinity and no NaN is made

No formula that is read makes a number that is not finite out of finite ones, and no text that is
typed is taken for one.  So unless such a number is written as a value, no cell ever shows one and
no formula keeps one (`finite_run`).
-/

namespace Worksheet

namespace Value

theorem finite_iff {v : Value} : v.Finite ↔ Of (fun n => n.isFinite = true) (fun _ => True) v := by
  constructor
  · intro h
    cases v with
    | empty => exact .empty
    | number n => exact .number (h n rfl)
    | text s => exact .text trivial
    | boolean b => exact .boolean b
    | error e => exact .error e
  · rintro h n rfl
    cases h with
    | number hn => exact hn

/-- No absolute value and no square root is too large, and no count that a machine comes to. -/
theorem kinds_finite {most : ℕ} (hmost : most < 2 ^ 128) :
    Kinds (fun n => n.isFinite = true) (fun _ => True) most where
  finite h := h
  abs := Number.isFinite_abs
  sqrt := Number.isFinite_sqrt
  count hle := Number.isFinite_ofNat (hle.trans_lt hmost)
  display _ := trivial
  join _ := trivial
  upper _ := trivial
  lower _ := trivial

theorem closed_finite {most : ℕ} (hmost : most < 2 ^ 128) : Closed Finite most := by
  have hkind : Finite = Of (fun n => n.isFinite = true) (fun _ => True) :=
    funext fun v => propext finite_iff
  rw [hkind]
  exact (kinds_finite hmost).closed

end Value

namespace Expr

/-- Numbers in formulas are finite. -/
theorem Writable.finite {v : Value} (h : (literal v).Writable) : v.Finite := by
  cases v with
  | number n => exact Value.finite_iff.2 (.number (Number.Unsigned.isFinite h))
  | empty | text s | boolean b | error e => exact nofun

/-- **A formula that is no longer than a machine can hold gives a finite value**, if the cells that
it reads are finite. -/
theorem finite_value {source : String} {e : Expr} (h : ofText source = .ok e)
    (hlength : source.utf8ByteSize < 2 ^ 64) (ifEmpty : EmptyAverage) {view : Address → Value}
    (hread : ∀ a ∈ e.reads, (view a).Finite) : (e.value (m := Id) ifEmpty view).Finite := by
  have hwidth : e.width < 2 ^ 128 := by
    have hle := width_le_of_ofText h
    simp only [rowLimit, colLimit] at hle
    omega
  refine (Value.closed_finite hwidth).value ifEmpty (Nat.le_refl _) (fun v hv => ?_) hread
  exact ((writable_of_ofText h).1.of_mem_parts hv).finite

end Expr

theorem Content.eq_value_of_toInput {content : Content} {v : Value}
    (h : content.toInput = .value v) : content = .value v := by
  cases content with
  | empty => cases h
  | value w =>
    cases w with
    | empty => cases h
    | number n | text s | boolean b | error e =>
      cases h
      rfl
  | formula source dependencies => cases h

namespace Sheet

/-- No action writes a number that is not finite as a value. -/
def SupplyFinite (actions : List Action) : Prop :=
  (∀ a v, .set a (.value v) ∈ actions → v.Finite) ∧
    ∀ snap, .restore snap ∈ actions → snap.content.Finite

/-- The values that are stored are finite. -/
theorem SupplyFinite.finite_of_cells {o : Options} {actions : List Action}
    (h : SupplyFinite actions) {a : Address} {v : Value}
    (ha : (run o actions).cells[a]? = some (.value v)) : v.Finite := by
  have hwritten : WrittenFrom (fun input => ∀ v, input = .value v → v.Finite) (run o actions) := by
    refine writtenFrom_run o ?_
    rintro action hmem _ hinput v rfl
    cases action with
    | set a input =>
      cases hinput
      exact h.1 a v hmem
    | clear a => cases hinput
    | restore snap => exact h.2 snap hmem v (Content.eq_value_of_toInput (Option.some.inj hinput))
    | recalculate => cases hinput
    | get a => cases hinput
  exact hwritten a _ ha v rfl

/-- A typed text is never taken for a number that is not finite. -/
theorem supplyFinite_ofText (a : Address) (text : String) :
    SupplyFinite [.set a (.ofText text)] := by
  refine ⟨fun b v h => ?_, fun snap h => ?_⟩
  · obtain ⟨-, h⟩ := Action.set.inj (List.mem_singleton.1 h)
    obtain ⟨x, rfl, hx⟩ | ⟨c, rfl⟩ | rfl := Input.value_of_ofText h.symm
    · exact Value.finite_iff.2 (.number hx)
    · exact nofun
    · exact nofun
  · cases List.mem_singleton.1 h

/-- **No infinity and no NaN is ever made.**  After every run that writes none as a value, no cell
shows one and no formula keeps one.  Whatever formula is accepted gives none where the cells that it
reads have none, and no typed text counts as one.  The limit on the length of formulas is a machine
word, so a count of values is finite. -/
theorem finite_run (o : Options) (ho : o.maxFormulaLength < 2 ^ 64) {actions : List Action}
    (h : SupplyFinite actions) :
    (∀ a : Address, ((run o actions).get a).1.Finite) ∧
    (∀ (a : Address) (f : Formula) (v : Value), (run o actions).cells[a]? = some (.formula f) →
      f.cached = some v → v.Finite) ∧
    (∀ (source : String) (e : Expr), o.accept source = .ok e →
      ∀ (ifEmpty : EmptyAverage) (view : Address → Value), (∀ b ∈ e.dependencies, (view b).Finite) →
        (e.value (m := Id) ifEmpty view).Finite) ∧
    ∀ (a : Address) (text : String), SupplyFinite [.set a (.ofText text)] := by
  have hl := linked_run o actions
  have hs := settled_run o actions
  have hformula : ∀ (source : String) (e : Expr), o.accept source = .ok e →
      ∀ (ifEmpty : EmptyAverage) (view : Address → Value), (∀ b ∈ e.dependencies, (view b).Finite) →
        (e.value (m := Id) ifEmpty view).Finite := by
    intro source e haccept ifEmpty view hview
    obtain ⟨hlength, hparse, -⟩ := Options.accept_eq_ok.1 haccept
    exact Expr.finite_value hparse (hlength.trans_lt ho) ifEmpty fun a ha =>
      hview a (Expr.mem_dependencies.2 ha)
  have hget : ∀ a : Address, ((run o actions).get a).1.Finite := by
    refine hl.forall_get hs nofun (fun _ => nofun) (fun a v => h.finite_of_cells) ?_
    intro a f ha view hview
    obtain ⟨haccept, hdependencies⟩ := hl.accepted ha
    rw [options_run] at haccept
    exact hformula f.source f.expr haccept _ view fun b hb => hview b (hdependencies ▸ hb)
  refine ⟨hget, fun a f v ha hv => ?_, hformula, supplyFinite_ofText⟩
  rw [← hs.get_of_cached hl ha hv]
  exact hget a

/-- The square of a number that is too large to be squared. -/
def squared : List Action :=
  [.set ⟨0, 0⟩ (.value (.number 1e200)), .set ⟨0, 1⟩ (.formula "=A1*A1"), .get ⟨0, 1⟩]

/-- The square is read as an error, not as an infinity. -/
theorem finite_run_of_squared :
    ((run {} squared).get ⟨0, 1⟩).1.Finite ∧ ((run {} squared).get ⟨0, 1⟩).1.isError = true := by
  refine ⟨(finite_run {} (by decide) ⟨fun a v h => ?_, fun snap h => ?_⟩).1 ⟨0, 1⟩, ?_⟩
  · simp only [squared, List.mem_cons, Action.set.injEq, Input.value.injEq, List.not_mem_nil,
      or_false, reduceCtorEq, and_false] at h
    obtain ⟨-, rfl⟩ := h
    exact Value.finite_iff.2 (.number (by decide +kernel))
  · simp [squared] at h
  · decide +kernel

end Sheet

end Worksheet
