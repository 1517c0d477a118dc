import Worksheet.Proofs.Formula.Size
import Worksheet.Proofs.Sheet.Circular

/-!
# Cells and edges agree

The test that a sheet makes of itself never fails (`graphAgrees_of_linked`), and every stored
formula keeps the limits of the sheet (`Linked.keeps_limits`).
-/

namespace Worksheet.Sheet

theorem Linked.isEmpty_edges_iff {s : Sheet} (hs : Linked s) {a : Address} :
    a ∈ s.graph.reads ↔ ∃ cell, s.cells[a]? = some cell ∧ (expectedEdges cell).isEmpty = false := by
  rw [hs.mirrored.mem_reads, hs.readsOf]
  cases h : s.cells[a]? with
  | none => simp [Cell.edges]
  | some cell => simp [Cell.edges, Std.ExtTreeSet.isEmpty_eq_false_iff]

/-- **The graph holds the edges of the stored formulas, and no others.** -/
theorem graphAgrees_of_linked {s : Sheet} (hs : Linked s) : s.graphAgrees = true := by
  have hcells : s.cells.all (fun a cell =>
      (s.graph.readsOf a).toList == (expectedEdges cell).toList) = true := by
    refine AddressMap.all_iff.2 fun a cell ha => ?_
    rw [hs.readsOf, ha, Cell.edges, beq_iff_eq]
  have hsize : s.graph.size =
      (s.cells.filter fun _ cell => !(expectedEdges cell).isEmpty).size := by
    refine AddressMap.size_eq_of_mem_iff fun a => ?_
    rw [hs.isEmpty_edges_iff, AddressMap.mem_iff]
    simp only [Std.ExtTreeMap.getElem?_filter', Option.filter_eq_some_iff, Bool.not_eq_true']
  rw [graphAgrees, Graph.directionsAgree_iff.2 hs.mirrored, hcells, hsize]
  simp

/-- An address without an accepted formula has no edges. -/
theorem Linked.readsOf_eq_nil {s : Sheet} (hs : Linked s) {a : Address}
    (ha : ∀ f, s.cells[a]? ≠ some (.formula f)) : s.readsOf a = [] := by
  rw [Sheet.readsOf, hs.readsOf]
  rcases h : s.cells[a]? with _ | (v | f | ⟨source, error⟩)
  · simp [Cell.edges]
  · simp [Cell.edges, expectedEdges]
  · exact absurd h (ha f)
  · simp [Cell.edges, expectedEdges]

theorem Linked.mem_readsOf_iff {s : Sheet} (hs : Linked s) {a b : Address} :
    b ∈ s.readsOf a ↔ a ∈ s.readersOf b := by
  rw [Sheet.readsOf, Sheet.readersOf, Std.ExtTreeSet.mem_toList, Std.ExtTreeSet.mem_toList,
    hs.mirrored.mem_readersOf, Graph.Reads]

/-- A stored formula is one that the options accept. -/
theorem Linked.keeps_limits {s : Sheet} (hs : Linked s)
    (hlength : s.options.maxFormulaLength < 2 ^ 30) {a : Address} {f : Formula}
    (ha : s.cells[a]? = some (.formula f)) :
    f.source.utf8ByteSize ≤ s.options.maxFormulaLength ∧ Expr.ofText f.source = .ok f.expr ∧
      s.readsOf a = f.expr.dependencies.toList ∧
      (s.readsOf a).length ≤ s.options.maxReferencedCells.toNat := by
  obtain ⟨haccept, hdependencies⟩ := hs.accepted ha
  obtain ⟨hsource, hparse, hcount⟩ := Options.accept_eq_ok.1 haccept
  have hreads : s.readsOf a = f.expr.dependencies.toList := by
    rw [Sheet.readsOf, hs.readsOf, ha, Cell.edges, expectedEdges, hdependencies]
  refine ⟨hsource, hparse, hreads, ?_⟩
  calc (s.readsOf a).length
      = f.expr.dependencies.size := by rw [hreads, Std.ExtTreeSet.length_toList]
    _ ≤ f.expr.cellCount := f.expr.size_dependencies_le
    _ = f.expr.referencedCount.toNat :=
      (Expr.toNat_referencedCount_of_ofText hparse (Nat.lt_of_le_of_lt hsource hlength)).symm
    _ ≤ s.options.maxReferencedCells.toNat := UInt64.le_iff_toNat_le.1 hcount

/-- **Cells and edges never drift apart.** -/
theorem consistent_run (o : Options) (hlength : o.maxFormulaLength < 2 ^ 30)
    (actions : List Action) :
    (run o actions).graphAgrees = true ∧
    (∀ a f, (run o actions).cells[a]? = some (.formula f) →
      f.source.utf8ByteSize ≤ o.maxFormulaLength ∧ Expr.ofText f.source = .ok f.expr ∧
      (run o actions).readsOf a = f.expr.dependencies.toList ∧
      ((run o actions).readsOf a).length ≤ o.maxReferencedCells.toNat) ∧
    (∀ a, (∀ f, (run o actions).cells[a]? ≠ some (.formula f)) →
      (run o actions).readsOf a = []) ∧
    ∀ a b, b ∈ (run o actions).readsOf a ↔ a ∈ (run o actions).readersOf b := by
  have hs := linked_run o actions
  refine ⟨graphAgrees_of_linked hs, fun a f ha => ?_, fun a ha => hs.readsOf_eq_nil ha,
    fun a b => hs.mem_readsOf_iff⟩
  have hlimits := hs.keeps_limits (by rwa [options_run]) ha
  rwa [options_run] at hlimits

/-- The formula `=A1` stored in `B1` reads `A1`. -/
theorem consistent_run_of_reference :
    (run {} [.set ⟨0, 1⟩ (.formula "=A1")]).graphAgrees = true :=
  (consistent_run {} (by decide) [.set ⟨0, 1⟩ (.formula "=A1")]).1

end Worksheet.Sheet
