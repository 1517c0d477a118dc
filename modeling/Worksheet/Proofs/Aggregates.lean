import Mathlib.Data.List.Basic
import Worksheet.Proofs.Errors
import Worksheet.Proofs.Grid.Walk

/-!
# What aggregates see

The values of a range come without the empty cells, a single cell gives its value also if it is
empty, so the values that a function is given need not be as many as the cells that are named.  But
what is picked out of values, and never out of an empty one, is picked out of the cells in their
order (`filterMap_argumentValues`).  An aggregate picks the errors and the numbers, so it is the
aggregate of all the cells (`exists_evaluate_eq_aggregate`): it does not see where there are texts
and truth values, and its first error is the first one in the cells.
-/

namespace Worksheet

namespace Function

/-- The functions that see nothing but numbers and errors. -/
def aggregates : List Function :=
  [sum, average, count, min, max]

theorem exists_apply_eq_aggregate (ifEmpty : EmptyAverage) {f : Function} (hf : f ∈ aggregates) :
    ∃ g, ∀ args, f.apply ifEmpty args = aggregate g args := by
  simp only [aggregates, List.mem_cons, List.not_mem_nil, or_false] at hf
  rcases hf with rfl | rfl | rfl | rfl | rfl
  · exact ⟨total, fun args => rfl⟩
  · exact ⟨mean ifEmpty, fun args => rfl⟩
  · exact ⟨fun numbers => .number numbers.length.toFloat, fun args => by rw [apply]⟩
  · exact ⟨combine lesser, fun args => rfl⟩
  · exact ⟨combine greater, fun args => rfl⟩

/-- Values with the same errors and the same numbers, each in the same order, are the same to an
aggregate. -/
theorem aggregate_congr (g : List Float → Value) {args args' : List Value}
    (herrors : args.filterMap Value.error? = args'.filterMap Value.error?)
    (hnumbers : args.filterMap Value.number? = args'.filterMap Value.number?) :
    aggregate g args = aggregate g args' := by
  have hfirst : Value.firstError? args = Value.firstError? args' := by
    rw [Value.firstError?, Value.firstError?, ← List.head?_filterMap, ← List.head?_filterMap,
      herrors]
  rw [aggregate, aggregate, hfirst, hnumbers]

theorem aggregate_of_firstError? (g : List Float → Value) {args : List Value} {e : CellError}
    (h : Value.firstError? args = some e) : aggregate g args = .error e := by
  rw [aggregate, h]

end Function

namespace Expr

/-- Is the expression a cell or a range? -/
def isReference : Expr → Bool
  | cell _ | range _ => true
  | _ => false

/-! ### The values of references -/

section References

variable (ifEmpty : EmptyAverage) (view : Address → Value)

/-- What is picked out of the values of a reference is picked out of its cells. -/
theorem filterMap_values {β : Type} {p : Value → Option β} (hp : p .empty = none) {e : Expr}
    (he : e.isReference = true) :
    (e.evaluate (m := Id) ifEmpty view).values.filterMap p = (e.reads.map view).filterMap p := by
  cases e with
  | cell a =>
    rw [evaluate_cell, reads]
    rfl
  | range r =>
    have hskip : ∀ v : Value, (if (!v.isEmpty) = true then p v else none) = p v := by
      intro v
      cases v with
      | empty => exact hp.symm
      | number n => rfl
      | text s => rfl
      | boolean b => rfl
      | error e => rfl
    rw [evaluate_range, reads, Result.values, List.filterMap_filter]
    exact List.filterMap_congr fun v _ => hskip v
  | literal v => cases he
  | binary op left right => cases he
  | call name args => cases he

variable {args : List Expr} (hargs : ∀ arg ∈ args, arg.isReference = true)
include hargs

/-- **What is picked out of the values of references is picked out of their cells**, one after the
other. -/
theorem filterMap_argumentValues {β : Type} {p : Value → Option β} (hp : p .empty = none) :
    (argumentValues ifEmpty view args).filterMap p = ((readsAll args).map view).filterMap p := by
  rw [argumentValues_eq_flatMap, readsAll_eq_flatMap, List.map_flatMap, List.filterMap_flatMap,
    List.filterMap_flatMap]
  exact List.flatMap_congr fun arg harg => filterMap_values ifEmpty view hp (hargs arg harg)

omit view in
/-- **An aggregate of references is the aggregate of all the cells that they name.** -/
theorem exists_evaluate_eq_aggregate {name : String} {f : Function}
    (hname : Function.ofName? name = some f) (hf : f ∈ Function.aggregates) (hne : args ≠ []) :
    ∃ g, ∀ view : Address → Value, (call name args).evaluate (m := Id) ifEmpty view =
      .scalar (Function.aggregate g ((readsAll args).map view)) := by
  obtain ⟨g, hg⟩ := Function.exists_apply_eq_aggregate ifEmpty hf
  have haccepts : f.arity.accepts args.length = true := by
    have hmost : ∀ f ∈ Function.aggregates, f.arity.most = none := by decide
    exact Function.accepts_of_most_eq_none (hmost f hf) (List.length_pos_iff.2 hne)
  refine ⟨g, fun view => ?_⟩
  rw [evaluate_call_of_some ifEmpty view hname, if_pos haccepts, hg]
  exact congrArg Result.scalar (Function.aggregate_congr g
    (filterMap_argumentValues ifEmpty view hargs rfl)
    (filterMap_argumentValues ifEmpty view hargs rfl))

end References

/-! ### The first error -/

/-- No cell that an argument before names holds an error, and in the argument it is in none comes
before it, row by row and from left to right. -/
def IsFirstError (view : Address → Value) (args : List Expr) (e : CellError) : Prop :=
  ∃ before arg after, args = before ++ arg :: after ∧
    (∀ b ∈ readsAll before, (view b).isError = false) ∧
    ∃ a ∈ arg.reads, view a = .error e ∧
      ∀ b ∈ arg.reads, b.row < a.row ∨ b.row = a.row ∧ b.col < a.col → (view b).isError = false

section FirstError

variable {view : Address → Value} {e : CellError}

theorem pairwise_reads {arg : Expr} (harg : arg.isReference = true) :
    arg.reads.Pairwise fun a b => a.row < b.row ∨ a.row = b.row ∧ a.col < b.col := by
  cases arg with
  | cell a => exact List.pairwise_singleton _ a
  | range r => exact r.pairwise_cells
  | literal v => cases harg
  | binary op left right => cases harg
  | call name args => cases harg

/-- In cells that come row by row, the first error is the one with none before it. -/
theorem exists_of_firstError? {cells : List Address}
    (hcells : cells.Pairwise fun a b => a.row < b.row ∨ a.row = b.row ∧ a.col < b.col)
    (h : Value.firstError? (cells.map view) = some e) :
    ∃ a ∈ cells, view a = .error e ∧
      ∀ b ∈ cells, b.row < a.row ∨ b.row = a.row ∧ b.col < a.col → (view b).isError = false := by
  rw [Value.firstError?, List.findSome?_map, List.findSome?_eq_some_iff] at h
  obtain ⟨before, a, after, rfl, ha, hbefore⟩ := h
  refine ⟨a, by simp, Value.error?_eq_some_iff.1 ha, fun b hb hlt => ?_⟩
  rw [Address.before_iff_index_lt] at hlt
  rw [List.pairwise_append, List.pairwise_cons] at hcells
  rcases List.mem_append.1 hb with hb | hb
  · exact Value.error?_eq_none_iff.1 (hbefore b hb)
  · rcases List.mem_cons.1 hb with rfl | hb
    · exact absurd hlt (Nat.lt_irrefl _)
    · have hgt := Address.before_iff_index_lt.1 (hcells.2.1.1 b hb)
      exact absurd hlt (Nat.lt_asymm hgt)

/-- **The first error among the cells** is the first one argument by argument. -/
theorem isFirstError_of_firstError? {args : List Expr}
    (hargs : ∀ arg ∈ args, arg.isReference = true)
    (h : Value.firstError? ((readsAll args).map view) = some e) : IsFirstError view args e := by
  induction args with
  | nil => cases h
  | cons arg rest ih =>
    rw [List.forall_mem_cons] at hargs
    rw [readsAll, List.map_append, Value.firstError?, List.findSome?_append] at h
    cases hfirst : (arg.reads.map view).findSome? Value.error? with
    | some e' =>
      rw [hfirst, Option.some_or] at h
      cases h
      refine ⟨[], arg, rest, rfl, by simp [readsAll], ?_⟩
      exact exists_of_firstError? (pairwise_reads hargs.1) hfirst
    | none =>
      rw [hfirst, Option.none_or] at h
      obtain ⟨before, arg', after, rfl, hbefore, hin⟩ := ih hargs.2 h
      refine ⟨arg :: before, arg', after, rfl, fun b hb => ?_, hin⟩
      rcases List.mem_append.1 hb with hb | hb
      · have hnone := List.findSome?_eq_none_iff.1 hfirst (view b) (List.mem_map_of_mem hb)
        exact Value.error?_eq_none_iff.1 hnone
      · exact hbefore b hb

end FirstError

/-- **Aggregates see only numbers and the first error.**  Over two sheets whose cells, as far as the
arguments name them, hold the same numbers and the same errors in the same places, an aggregate of
cells and ranges is the same.  If there is an error among them, the aggregate is the first one. -/
theorem aggregates_see (ifEmpty : EmptyAverage) {name : String} {f : Function}
    (hname : Function.ofName? name = some f) (hf : f ∈ Function.aggregates) {args : List Expr}
    (hne : args ≠ []) (hargs : ∀ arg ∈ args, arg.isReference = true) :
    (∀ view view' : Address → Value,
      (∀ a ∈ readsAll args,
        (view a).number? = (view' a).number? ∧ (view a).error? = (view' a).error?) →
      (call name args).evaluate (m := Id) ifEmpty view =
        (call name args).evaluate (m := Id) ifEmpty view') ∧
    ∀ view : Address → Value, (∃ a ∈ readsAll args, (view a).isError = true) →
      ∃ e, IsFirstError view args e ∧
        (call name args).evaluate (m := Id) ifEmpty view = .scalar (.error e) := by
  obtain ⟨g, hg⟩ := exists_evaluate_eq_aggregate ifEmpty hargs hname hf hne
  refine ⟨fun view view' h => ?_, fun view ⟨a, ha, herror⟩ => ?_⟩
  · rw [hg, hg]
    refine congrArg Result.scalar (Function.aggregate_congr g ?_ ?_)
    · rw [List.filterMap_map, List.filterMap_map]
      exact List.filterMap_congr fun a ha => (h a ha).2
    · rw [List.filterMap_map, List.filterMap_map]
      exact List.filterMap_congr fun a ha => (h a ha).1
  · obtain ⟨e, he⟩ := Value.exists_firstError? ⟨view a, List.mem_map_of_mem ha, herror⟩
    refine ⟨e, isFirstError_of_firstError? hargs he, ?_⟩
    rw [hg, Function.aggregate_of_firstError? g he]

/-- A cell and two ranges, of which the first one contains the second. -/
def overlapping : List Expr :=
  [.cell ⟨2, 2⟩, .range (.spanning ⟨0, 0⟩ ⟨1, 1⟩), .range (.spanning ⟨1, 1⟩ ⟨1, 0⟩)]

/-- A text in the first range and a truth value in the cell do not count, of two errors in both
ranges the left one does. -/
theorem aggregates_see_of_overlapping :
    ((call "Sum" overlapping).evaluate (m := Id) .zero (fun a =>
        if a = ⟨0, 1⟩ then .text "7" else if a = ⟨2, 2⟩ then .boolean true else .number 1.0) =
      (call "Sum" overlapping).evaluate (m := Id) .zero fun a =>
        if a = ⟨0, 1⟩ then .empty else if a = ⟨2, 2⟩ then .empty else .number 1.0) ∧
    ∃ e, IsFirstError (fun a => if a.row = 1 then .error .badReference else .empty) overlapping e ∧
      (call "Sum" overlapping).evaluate (m := Id) .zero
        (fun a => if a.row = 1 then .error .badReference else .empty) = .scalar (.error e) := by
  have hname : Function.ofName? "Sum" = some .sum := by decide
  have hargs : ∀ arg ∈ overlapping, arg.isReference = true := by decide
  have h := aggregates_see .zero hname (by decide) (by decide) hargs
  refine ⟨h.1 _ _ fun a _ => ?_, h.2 _ ⟨⟨1, 0⟩, ?_, rfl⟩⟩
  · by_cases htext : a = ⟨0, 1⟩
    · rw [if_pos htext, if_pos htext]
      exact ⟨rfl, rfl⟩
    · rw [if_neg htext, if_neg htext]
      split
      · exact ⟨rfl, rfl⟩
      · exact ⟨rfl, rfl⟩
  · have hreads : readsAll overlapping =
        [⟨2, 2⟩, ⟨0, 0⟩, ⟨0, 1⟩, ⟨1, 0⟩, ⟨1, 1⟩, ⟨1, 0⟩, ⟨1, 1⟩] := by decide
    rw [hreads]
    decide

end Expr

end Worksheet
