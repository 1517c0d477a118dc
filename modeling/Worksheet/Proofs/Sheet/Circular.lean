import Worksheet.Proofs.Formula.Parsing
import Worksheet.Proofs.Sheet.Run

/-!
# Circular references

A formula that keeps the limits of a sheet is rejected exactly when its cell would come to read
itself (`cells_set_circular_iff`), and then the write leaves no edge behind
(`graph_set_of_circular`).  So no cell ever reads itself.
-/

open Relation

namespace Worksheet

theorem Options.accept_eq_ok {o : Options} {source : String} {e : Expr} :
    o.accept source = .ok e ↔ source.utf8ByteSize ≤ o.maxFormulaLength ∧
      Expr.ofText source = .ok e ∧ e.referencedCount ≤ o.maxReferencedCells := by
  unfold accept
  by_cases hlength : o.maxFormulaLength < source.utf8ByteSize
  · rw [if_pos hlength]
    refine ⟨fun h => ?_, fun h => absurd h.1 (Nat.not_le_of_lt hlength)⟩
    cases h
  · rw [if_neg hlength]
    cases hparse : Expr.ofText source with
    | error error => simp
    | ok e' =>
      by_cases hcount : o.maxReferencedCells < e'.referencedCount
      · simp only [hcount, if_true, Except.ok.injEq]
        refine ⟨fun h => ?_, ?_⟩
        · cases h
        · rintro ⟨-, rfl, h⟩
          exact absurd h (UInt64.not_le.2 hcount)
      · simp only [hcount, if_false, Except.ok.injEq]
        constructor
        · rintro rfl
          exact ⟨Nat.le_of_not_lt hlength, rfl, UInt64.not_lt.1 hcount⟩
        · exact fun h => h.2.1

namespace Sheet

/-- **A formula is rejected as circular if and only if its cell would come to read itself.** -/
theorem cells_set_circular_iff {s : Sheet} (hs : Linked s) {a : Address} {source : String}
    {e : Expr} (haccept : s.options.accept source = .ok e) :
    (s.set a (.formula source)).cells[a]? = some (.rejected source .circular) ↔
      TransGen (fun x y => y ∈ if x = a then e.dependencies else s.graph.readsOf x) a a := by
  have hedge : (fun x y => y ∈ if x = a then e.dependencies else s.graph.readsOf x) =
      (s.graph.setReads a e.dependencies).Reads := by
    funext x y
    rw [Graph.Reads, Graph.readsOf_setReads]
    simp only [eq_comm]
  have hcycle := Graph.isOnCycle_iff (a := a) (hs.mirrored.setReads a e.dependencies)
  rw [cells_set_self, hedge, ← Graph.ReadsThrough, ← hcycle]
  simp only [entry, haccept]
  by_cases h : (s.graph.setReads a e.dependencies).isOnCycle a
  · simp [h]
  · simp [h]

/-- A rejected formula leaves no edges at its cell, and nothing changes at any other. -/
theorem graph_set_of_circular {s : Sheet} {a : Address} {source : String}
    (h : (s.set a (.formula source)).cells[a]? = some (.rejected source .circular)) :
    (s.set a (.formula source)).graph.readsOf a = ∅ ∧
      ∀ b, b ≠ a → (s.set a (.formula source)).content b = s.content b ∧
        (s.set a (.formula source)).graph.readsOf b = s.graph.readsOf b := by
  have hstores := stores_store s a (.formula source)
  rw [cells_set_self] at h
  refine ⟨?_, fun b hb => ⟨?_, hstores.readsOf_of_ne (Ne.symm hb)⟩⟩
  · rw [(sameContent_set s a (.formula source)).graph, hstores.readsOf, if_pos rfl, h]
    rfl
  · rw [(sameContent_set s a (.formula source)).content, content,
      hstores.cells_of_ne (Ne.symm hb), ← content]

/-- **Cycles are rejected exactly.**  After every run no cell reads itself, and a formula that keeps
the limits is rejected as circular if and only if it would make its cell read itself. -/
theorem circular_run (o : Options) (actions : List Action) :
    (∀ x, ¬ (run o actions).graph.ReadsThrough x x ∧
      (run o actions).graph.cycleThrough? x = none) ∧
    ∀ (a : Address) (source : String) (e : Expr),
      source.utf8ByteSize ≤ o.maxFormulaLength → Expr.ofText source = .ok e →
      e.referencedCount ≤ o.maxReferencedCells →
      (((run o actions).set a (.formula source)).cells[a]? = some (.rejected source .circular) ↔
        TransGen (fun x y => y ∈ if x = a then e.dependencies
          else (run o actions).graph.readsOf x) a a) ∧
      (((run o actions).set a (.formula source)).cells[a]? = some (.rejected source .circular) →
        ((run o actions).set a (.formula source)).graph.readsOf a = ∅ ∧
        ∀ b, b ≠ a →
          ((run o actions).set a (.formula source)).content b = (run o actions).content b ∧
          ((run o actions).set a (.formula source)).graph.readsOf b =
            (run o actions).graph.readsOf b) := by
  have hs := linked_run o actions
  constructor
  · intro x
    have hx : ¬ (run o actions).graph.ReadsThrough x x := hs.acyclic x
    exact ⟨hx, (Graph.cycleThrough?_eq_none_iff hs.mirrored).2 hx⟩
  · intro a source e hlength hparse hcount
    have haccept : (run o actions).options.accept source = .ok e := by
      rw [options_run]
      exact Options.accept_eq_ok.2 ⟨hlength, hparse, hcount⟩
    exact ⟨cells_set_circular_iff hs haccept, graph_set_of_circular⟩

/-- The cell `A1` of a new sheet cannot hold the formula `=A1`. -/
theorem circular_run_of_self_reference :
    ((new {}).set ⟨0, 0⟩ (.formula "=A1")).cells[(⟨0, 0⟩ : Address)]? =
      some (.rejected "=A1" .circular) := by
  have hscan : Token.scan 0 (Expr.formulaBody "=A1".toList) = .ok [.cell ⟨0, 0⟩] := by
    have hlexeme : Token.lexeme 0 'A' ['1'] = .ok (.cell ⟨0, 0⟩, 2) := rfl
    rw [show Expr.formulaBody "=A1".toList = ['A', '1'] by decide, Token.scan,
      if_neg (by decide), hlexeme]
    refine bind_eq_ok.2 ⟨_, rfl, bind_eq_ok.2 ⟨[], ?_, rfl⟩⟩
    show Token.scan _ [] = .ok []
    rw [Token.scan]
  have hderives : Derives (.expression Tier.all (.cell ⟨0, 0⟩)) 0 [.cell ⟨0, 0⟩] :=
    .tighter (.tighter (.tighter (.cell ⟨0, 0⟩)))
  have hparse : Expr.ofText "=A1" = .ok (.cell ⟨0, 0⟩) :=
    bind_eq_ok.2 ⟨_, hscan, Expr.ofTokens_eq_ok_iff.2 ⟨0, hderives, by decide, by decide⟩⟩
  have h := (circular_run {} []).2 ⟨0, 0⟩ "=A1" (.cell ⟨0, 0⟩) (by decide) hparse (by decide)
  refine h.1.2 (.single ?_)
  rw [if_pos rfl]
  decide

end Sheet

end Worksheet
