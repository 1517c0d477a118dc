import Worksheet.Proofs.Errors
import Worksheet.Proofs.Formula.Printing
import Worksheet.Proofs.Sheet.Circular
import Worksheet.Proofs.Sheet.Cleaning
import Worksheet.Proofs.Sheet.Nesting

/-!
# Errors that are stored somewhere

Three errors are never found by evaluating: that a reference is circular, that it is bad, that a
formula cannot be read.  No formula that is read has an error in its text, so if it gives one of
the three, then some cell that it reads shows it (`Linked.exists_of_formula`).  No cell reads itself,
so going back from cell to cell ends where the error is stored (`Linked.exists_holdsError`).
-/

namespace Worksheet

namespace Sheet

/-- The error stands at the address: as a value, or for the formula that was rejected with it. -/
def HoldsError (s : Sheet) (error : CellError) (a : Address) : Prop :=
  s.cells[a]? = some (.value (.error error)) ∨ ∃ source, s.cells[a]? = some (.rejected source error)

section Origin

variable {s : Sheet} (hs : Linked s) {error : CellError} (herror : ¬ error.IsComputed)
include hs herror

/-- **A formula gives such an error only if a cell that it reads does.** -/
theorem Linked.exists_of_formula {a : Address} {f : Formula} (ha : s.cells[a]? = some (.formula f))
    {ifEmpty : EmptyAverage} {view : Address → Value}
    (h : f.expr.value (m := Id) ifEmpty view = .error error) :
    ∃ b ∈ f.dependencies, view b = .error error := by
  obtain ⟨haccept, hdependencies⟩ := hs.accepted ha
  have hwritable := (Expr.writable_of_ofText (Options.accept_eq_ok.1 haccept).2.1).1
  rcases Expr.hasOrigin_of_value ifEmpty view h with hcomputed | hliteral | ⟨b, hb, hview⟩
  · exact absurd hcomputed herror
  · exact (hwritable.of_mem_parts hliteral).elim
  · rw [hdependencies]
    exact ⟨b, Expr.mem_dependencies.2 hb, hview⟩

/-- **Going back from a cell that shows such an error ends at one that holds it.** -/
theorem Linked.exists_holdsError {view : Address → Value} (hview : IsValuation s view)
    {a : Address} (h : view a = .error error) :
    ∃ b, (b = a ∨ s.graph.ReadsThrough a b) ∧ s.HoldsError error b := by
  induction a using hs.acyclic.wellFounded.induction with
  | _ a ih =>
    rw [hview a] at h
    rcases ha : s.cells[a]? with _ | (v | f | ⟨source, e⟩)
    · rw [ha] at h
      cases h
    · rw [ha, Cell.valueFrom] at h
      exact ⟨a, Or.inl rfl, Or.inl (by rw [ha, h])⟩
    · rw [ha] at h
      obtain ⟨b, hb, hview⟩ := hs.exists_of_formula herror ha h
      have hread : s.graph.Reads a b := by rwa [Graph.Reads, hs.readsOf, ha]
      obtain ⟨c, hbc, hc⟩ := ih b hread hview
      refine ⟨c, Or.inr ?_, hc⟩
      rcases hbc with rfl | hbc
      · exact .single hread
      · exact .head hread hbc
    · rw [ha] at h
      cases h
      exact ⟨a, Or.inl rfl, Or.inr ⟨source, ha⟩⟩

/-- A formula that keeps such an error reads a cell that shows it. -/
theorem Settled.exists_of_cached (hsettled : Settled s) {a : Address} {f : Formula}
    (ha : s.cells[a]? = some (.formula f)) (hcached : f.cached = some (.error error)) :
    ∃ b ∈ f.dependencies, (s.get b).1 = .error error := by
  obtain ⟨hclean, hvalue⟩ := hsettled a f _ ha hcached
  obtain ⟨b, hb, hshown⟩ := hs.exists_of_formula herror ha hvalue.symm
  have hread : s.graph.Reads a b := by rwa [Graph.Reads, hs.readsOf, ha]
  exact ⟨b, hb, (get_of_clean hs hsettled (hclean b hread)).trans hshown⟩

end Origin

/-- **Circular references, bad references and bad formulas have a real origin.**  After every run, a
cell that shows one of these errors holds it or reads, directly or through others, a cell that holds
it.  No accepted formula makes such an error by itself, whatever the cells read as; none keeps one
that no cell that it reads shows; and no read meets a cell under evaluation, which would read as
circular. -/
theorem real_origin_run (o : Options) (actions : List Action) {error : CellError}
    (herror : error = .circular ∨ error = .badReference ∨ error = .badFormula) :
    (∀ a : Address, ((run o actions).get a).1 = .error error →
      ∃ b, (b = a ∨ (run o actions).graph.ReadsThrough a b) ∧
        (run o actions).HoldsError error b) ∧
    (∀ (a : Address) (f : Formula), (run o actions).cells[a]? = some (.formula f) →
      (∀ (ifEmpty : EmptyAverage) (view : Address → Value),
        f.expr.value (m := Id) ifEmpty view = .error error →
        ∃ b ∈ f.dependencies, view b = .error error) ∧
      (f.cached = some (.error error) →
        ∃ b ∈ f.dependencies, ((run o actions).get b).1 = .error error)) ∧
    ∀ a b : Address, .reentered b ∉ ((run o actions).read a).2.events := by
  have hs := linked_run o actions
  have hsettled := settled_run o actions
  have hstored : ¬ error.IsComputed := by
    rcases herror with rfl | rfl | rfl
    · simp [CellError.IsComputed]
    · simp [CellError.IsComputed]
    · simp [CellError.IsComputed]
  refine ⟨fun a h => ?_, fun a f ha => ⟨fun ifEmpty view h => ?_, fun hcached => ?_⟩, fun a b => ?_⟩
  · exact hs.exists_holdsError hstored (isValuation_get hs hsettled) h
  · exact hs.exists_of_formula hstored ha h
  · exact hsettled.exists_of_cached hs hstored ha hcached
  · exact ((found_read hs a hsettled).1.neverNests hs).not_reentered b

/-- After these actions `C1` refers to `B1` and this to `A1`, whose formula is rejected. -/
def brokenReference : List Action :=
  [.set ⟨0, 0⟩ (.formula "=A1"), .set ⟨0, 1⟩ (.formula "=D1+A1"), .set ⟨0, 2⟩ (.formula "=B1")]

/-- So the error that `C1` shows comes from another cell. -/
theorem real_origin_run_of_reference :
    ((run {} brokenReference).get ⟨0, 2⟩).1 = .error .circular ∧
      ∃ b, (b = ⟨0, 2⟩ ∨ (run {} brokenReference).graph.ReadsThrough ⟨0, 2⟩ b) ∧
        (run {} brokenReference).HoldsError .circular b := by
  have hshown : ((run {} brokenReference).get ⟨0, 2⟩).1 = .error .circular := by cbv
  exact ⟨hshown, (real_origin_run {} brokenReference (Or.inl rfl)).1 ⟨0, 2⟩ hshown⟩

end Sheet

end Worksheet
