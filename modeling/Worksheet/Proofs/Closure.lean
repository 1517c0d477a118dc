import Worksheet.Proofs.Errors
import Worksheet.Proofs.Formula.Size

/-!
# Kinds of values that evaluation stays in

A kind of values is closed if operators and functions give values of the kind where they are given
such values.  An expression whose literals are of a closed kind gives values of this kind wherever
the cells that it reads do (`Value.Closed.value`).
-/

namespace Worksheet

/-- Operators, and functions of at most `most` values, lead from values of the kind to values of the
kind, and errors are of the kind. -/
structure Value.Closed (kind : Value → Prop) (most : ℕ) : Prop where
  error : ∀ e, kind (.error e)
  operator : ∀ (op : Operator) {a b : Value}, kind a → kind b → kind (op.apply a b)
  function : ∀ (ifEmpty : EmptyAverage) (f : Function) {args : List Value}, args.length ≤ most →
    (∀ v ∈ args, kind v) → kind (f.apply ifEmpty args)

namespace Expr

variable (ifEmpty : EmptyAverage) (view : Address → Value)

/-! ### How many values there are -/

theorem length_values_le_width (e : Expr) :
    (e.evaluate (m := Id) ifEmpty view).values.length ≤ e.width := by
  cases e with
  | range r =>
    rw [evaluate_range, Result.values, width, ← Range.length_cells, ← List.length_map view]
    exact List.length_filter_le _ _
  | literal v | cell a =>
    rw [length_values ifEmpty view rfl]
    exact Nat.le_refl 1
  | binary op left right =>
    rw [length_values ifEmpty view rfl, width, Nat.add_assoc]
    exact Nat.le_add_right 1 _
  | call name args =>
    rw [length_values ifEmpty view rfl, width]
    exact Nat.le_add_right 1 _

theorem length_argumentValues_le_widths (args : List Expr) :
    (argumentValues ifEmpty view args).length ≤ widths args := by
  rw [argumentValues_eq_flatMap]
  induction args with
  | nil => exact Nat.le_refl 0
  | cons arg rest ih =>
    rw [List.flatMap_cons, List.length_append, widths]
    exact Nat.add_le_add (length_values_le_width ifEmpty view arg) ih

end Expr

namespace Result

theorem forall_mem_scalar {kind : Value → Prop} {v : Value} (h : kind v) :
    ∀ w ∈ (scalar v).values, kind w := by
  rintro w hw
  rwa [List.mem_singleton.1 hw]

end Result

namespace Value.Closed

variable {kind : Value → Prop} {most : ℕ} (hkind : Closed kind most)
include hkind

theorem toScalar {x : Result} (hx : ∀ v ∈ x.values, kind v) : kind x.toScalar := by
  cases x with
  | scalar v => exact hx v (List.mem_singleton_self v)
  | list values => exact hkind.error .badValue

/-- **What an expression gives is of the kind**, if its literals and the cells that it reads are. -/
theorem evaluate (ifEmpty : EmptyAverage) {view : Address → Value} {e : Expr}
    (hwidth : e.width ≤ most) (hliteral : ∀ v, .literal v ∈ e.parts → kind v)
    (hread : ∀ a ∈ e.reads, kind (view a)) :
    ∀ v ∈ (e.evaluate (m := Id) ifEmpty view).values, kind v := by
  induction e using Expr.induction with
  | literal v =>
    rw [Expr.evaluate_literal]
    exact Result.forall_mem_scalar (hliteral v (Expr.mem_parts_self _))
  | cell a =>
    rw [Expr.evaluate_cell]
    exact Result.forall_mem_scalar (hread a (List.mem_singleton_self a))
  | range r =>
    rw [Expr.evaluate_range]
    intro v hv
    obtain ⟨a, ha, rfl⟩ := List.mem_map.1 (List.mem_of_mem_filter hv)
    exact hread a ha
  | binary op left right ihleft ihright =>
    rw [Expr.width] at hwidth
    rw [Expr.reads, List.forall_mem_append] at hread
    have hl := ihleft (by omega)
      (fun v hv => hliteral v (Expr.mem_parts_binary.2 (Or.inr (Or.inl hv)))) hread.1
    have hr := ihright (by omega)
      (fun v hv => hliteral v (Expr.mem_parts_binary.2 (Or.inr (Or.inr hv)))) hread.2
    rw [Expr.evaluate_binary]
    exact Result.forall_mem_scalar (hkind.operator op (hkind.toScalar hl) (hkind.toScalar hr))
  | call name args ih =>
    rw [Expr.width] at hwidth
    rw [Expr.reads, Expr.readsAll_eq_flatMap] at hread
    have hargs : ∀ v ∈ Expr.argumentValues ifEmpty view args, kind v := by
      intro v hv
      rw [Expr.argumentValues_eq_flatMap] at hv
      obtain ⟨arg, harg, hv⟩ := List.mem_flatMap.1 hv
      have := Expr.width_le_widths harg
      exact ih arg harg (by omega)
        (fun w hw => hliteral w (Expr.mem_parts_call.2 (Or.inr ⟨arg, harg, hw⟩)))
        (fun a ha => hread a (List.mem_flatMap.2 ⟨arg, harg, ha⟩)) v hv
    cases hname : Function.ofName? name with
    | none =>
      rw [Expr.evaluate_call_of_none ifEmpty view hname]
      exact Result.forall_mem_scalar (hkind.error .unknownName)
    | some f =>
      rw [Expr.evaluate_call_of_some ifEmpty view hname]
      refine Result.forall_mem_scalar ?_
      split
      · have := Expr.length_argumentValues_le_widths ifEmpty view args
        exact hkind.function ifEmpty f (by omega) hargs
      · exact hkind.error .badValue

theorem value (ifEmpty : EmptyAverage) {view : Address → Value} {e : Expr}
    (hwidth : e.width ≤ most) (hliteral : ∀ v, .literal v ∈ e.parts → kind v)
    (hread : ∀ a ∈ e.reads, kind (view a)) : kind (e.value (m := Id) ifEmpty view) :=
  hkind.toScalar (hkind.evaluate ifEmpty hwidth hliteral hread)

end Value.Closed

end Worksheet
