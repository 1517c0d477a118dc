import Worksheet.Proofs.Sheet.Alike
import Worksheet.Proofs.Sheet.Consistency
import Worksheet.Proofs.Sheet.Used

/-!
# Copying a sheet

The snapshots of all cells, restored into a new sheet in any order, give a sheet in which a reader
finds what the old one has (`copy_run`).  At every moment the copy holds what the snapshots restored
so far say and nothing else (`Restored`), so its edges are among those of the old sheet and no
formula is refused for want of another one.

Only a cell that holds the missing value is not copied: it is in use, but the input made from its
snapshot clears the cell (`used_ne_of_writtenEmpty`).
-/

namespace Worksheet

namespace Sheet

/-! ### Cells in use -/

theorem held_ne_none_iff {s : Sheet} {a : Address} :
    Cell.held s.cells[a]? ≠ none ↔ a ∈ s.used ∧ s.cells[a]? ≠ some (.value .empty) := by
  rw [mem_used_iff]
  rcases s.cells[a]? with _ | ((_ | _ | _ | _ | _) | f | ⟨source, error⟩) <;> simp [Cell.held]

theorem Alike.mem_used_iff {s t : Sheet} (h : Alike s t) (ht : NoneEmpty t) {a : Address} :
    a ∈ t.used ↔ a ∈ s.used ∧ s.cells[a]? ≠ some (.value .empty) := by
  rw [← held_ne_none_iff, ← h.held, held_ne_none_iff]
  exact ⟨fun hused => ⟨hused, ht a⟩, fun hused => hused.1⟩

/-- The cells in use are the same exactly if none of them holds the missing value. -/
theorem Alike.used_eq_iff {s t : Sheet} (h : Alike s t) (ht : NoneEmpty t) :
    t.used = s.used ↔ NoneEmpty s := by
  refine ⟨fun hused a ha => ?_, fun hs => AddressMap.keys_eq_of_mem_iff fun a => ?_⟩
  · have hmem : a ∈ t.used := hused ▸ mem_used_of_getElem? ha
    exact ((h.mem_used_iff ht).1 hmem).2 ha
  · have hmem : a ∈ t.used ↔ a ∈ s.used := by
      rw [h.mem_used_iff ht]
      exact ⟨fun hused => hused.1, fun hused => ⟨hused, hs a⟩⟩
    rw [used, used, Std.ExtTreeMap.mem_keys, Std.ExtTreeMap.mem_keys] at hmem
    exact hmem

/-! ### Restoring into a new sheet -/

/-- Every formula rejected as circular names its own cell. -/
def OwnCircles (s : Sheet) : Prop :=
  ∀ (a : Address) (source : String) (e : Expr), s.cells[a]? = some (.rejected source .circular) →
    Expr.ofText source = .ok e → a ∈ e.dependencies

/-- `t` holds what `s` holds at the cells of the snapshots, and nothing elsewhere. -/
structure Restored (s : Sheet) (snaps : List Snapshot) (t : Sheet) : Prop where
  options : t.options = s.options
  linked : Linked t
  settled : Settled t
  noneEmpty : NoneEmpty t
  held : ∀ a : Address, Cell.held t.cells[a]? =
    if a ∈ snaps.map Snapshot.address then Cell.held s.cells[a]? else none

theorem restored_new (s : Sheet) : Restored s [] (new s.options) := by
  refine ⟨rfl, linked_new _, settled_new _, noneEmpty_new _, fun a => ?_⟩
  rw [show (new s.options).cells = ∅ from rfl, Std.ExtTreeMap.getElem?_empty]
  rfl

section Restored

variable {s t : Sheet} {snaps : List Snapshot} (hs : Linked s) (h : Restored s snaps t)
include hs h

/-- The edges of the copy are edges of the sheet. -/
theorem Restored.reads_of_reads {a b : Address} (hab : t.graph.Reads a b) : s.graph.Reads a b := by
  have hheld := h.held a
  rw [Graph.Reads, h.linked.readsOf] at hab
  split at hheld
  · rwa [Cell.edges_of_held hheld, ← hs.readsOf] at hab
  · rw [Cell.edges_of_held (show _ = Cell.held none from hheld)] at hab
    simp [Cell.edges] at hab

/-- A formula that names its own cell is rejected whatever else is there. -/
theorem Restored.entry_circular (hown : OwnCircles s) {a : Address} {source : String}
    (ha : s.cells[a]? = some (.rejected source .circular)) :
    t.entry a (.formula source) = some (.rejected source .circular) := by
  rcases hs.rejected ha with hrefused | ⟨-, e, haccept⟩
  · simp only [entry, h.options, hrefused]
  · have hself : a ∈ e.dependencies := hown a source e ha (Options.accept_eq_ok.1 haccept).2.1
    have hcycle : (t.graph.setReads a e.dependencies).isOnCycle a = true := by
      refine (Graph.isOnCycle_iff (h.linked.mirrored.setReads a _)).2 (.single ?_)
      rwa [Graph.Reads, Graph.readsOf_setReads, if_pos rfl]
    simp only [entry, h.options, haccept, hcycle, if_true]

/-- **Restoring one more snapshot.** -/
theorem Restored.restore (hown : OwnCircles s) (a : Address) :
    Restored s (snaps ++ [s.snapshot a]) (t.restore (s.snapshot a)) where
  options := (options_set t _ _).trans h.options
  linked := h.linked.set _ _
  settled := h.settled.set h.linked _ _
  noneEmpty := h.noneEmpty.set _ (Content.made_toInput _)
  held b := by
    rw [held_restore, List.map_append, List.map_singleton,
      show (s.snapshot a).address = a from rfl]
    simp only [List.mem_append, List.mem_singleton]
    by_cases hab : a = b
    · subst hab
      rw [if_pos rfl, if_pos (Or.inr rfl)]
      exact hs.held_entry h.linked h.options (fun _ _ _ => h.reads_of_reads hs)
        fun source => h.entry_circular hs hown
    · rw [if_neg hab, h.held]
      simp only [Ne.symm hab, or_false]

end Restored

/-- **Restoring some snapshots**, in any order. -/
theorem restored_restoreAll {s : Sheet} (hs : Linked s) (hown : OwnCircles s)
    {snaps : List Snapshot} (hsnaps : ∀ snap ∈ snaps, ∃ a, s.snapshot a = snap) :
    Restored s snaps ((new s.options).restoreAll snaps) := by
  -- from the last snapshot, as the invariant speaks about those restored before it
  induction snaps using List.reverseRecOn with
  | nil => exact restored_new s
  | append_singleton snaps snap ih =>
    obtain ⟨a, rfl⟩ := hsnaps snap (by simp)
    have hbefore := ih fun snap hsnap => hsnaps snap (List.mem_append_left _ hsnap)
    rw [restoreAll, List.foldl_concat, ← restoreAll]
    exact hbefore.restore hs hown a

theorem Restored.mem_formulas_iff {s t : Sheet} {snaps : List Snapshot} (h : Restored s snaps t)
    {snap : Snapshot} (hsnap : snap ∈ snaps) :
    snap.address ∈ t.formulas ↔ snap.address ∈ s.formulas := by
  have hheld := h.held snap.address
  rw [if_pos (List.mem_map_of_mem hsnap)] at hheld
  rw [mem_formulas_iff_any, mem_formulas_iff_any, Cell.isFormula_of_held hheld]

/-- Once all snapshots are restored the copy holds the same. -/
theorem Restored.alike {s t : Sheet} {snaps : List Snapshot} (h : Restored s snaps t)
    (hsnaps : ∀ a ∈ s.used, s.snapshot a ∈ snaps) : Alike s t := by
  refine ⟨h.options, fun a => ?_⟩
  rw [h.held]
  split
  · rfl
  · next hmem =>
    by_contra hheld
    obtain ⟨hused, -⟩ := held_ne_none_iff.1 (Ne.symm hheld)
    exact hmem (List.mem_map_of_mem (hsnaps a hused))

/-- **Copying by snapshots does not depend on the order**: after every run whose circular formulas
name their own cells, restoring the snapshots of all cells in any order into a new sheet refuses no
formula that the old sheet has taken, and a reader finds in the copy what the old sheet has.  The
cells in use are the same but for those that hold the missing value: the same altogether exactly if
no cell holds it (`NoneEmpty`), and none does unless an input has written it as if it were one. -/
theorem copy_run (o : Options) (actions : List Action) (hown : OwnCircles (run o actions))
    {order : List Snapshot} (horder : order.Perm (run o actions).snapshots) :
    (∀ before snap after, order = before ++ snap :: after →
      snap.address ∈ (run o actions).formulas →
      snap.address ∈ ((new o).restoreAll (before ++ [snap])).formulas) ∧
    SameView (run o actions) ((new o).restoreAll order) ∧
    (∀ a, a ∈ ((new o).restoreAll order).used ↔
      a ∈ (run o actions).used ∧ (run o actions).cells[a]? ≠ some (.value .empty)) ∧
    (((new o).restoreAll order).used = (run o actions).used ↔ NoneEmpty (run o actions)) ∧
    ((∀ a input, .set a input ∈ actions → input.Made) →
      ((new o).restoreAll order).used = (run o actions).used) ∧
    ((new o).restoreAll order).graphAgrees = true := by
  have hl := linked_run o actions
  have hsnaps : ∀ snap ∈ order, ∃ a, (run o actions).snapshot a = snap := by
    intro snap hsnap
    obtain ⟨a, -, ha⟩ := List.mem_map.1 (horder.mem_iff.1 hsnap)
    exact ⟨a, ha⟩
  have hpart : ∀ before after, order = before ++ after →
      Restored (run o actions) before ((new o).restoreAll before) := by
    rintro before after rfl
    have h := restored_restoreAll hl hown fun snap hsnap =>
      hsnaps snap (List.mem_append_left after hsnap)
    rwa [options_run] at h
  have hcopy := hpart order [] (List.append_nil order).symm
  have halike := hcopy.alike fun a ha => horder.mem_iff.2 (List.mem_map_of_mem ha)
  refine ⟨fun before snap after hsplit hformula => ?_,
    halike.sameView hl hcopy.linked (settled_run o actions) hcopy.settled,
    fun a => halike.mem_used_iff hcopy.noneEmpty,
    halike.used_eq_iff hcopy.noneEmpty,
    fun hmade => (halike.used_eq_iff hcopy.noneEmpty).2 (noneEmpty_run o hmade),
    graphAgrees_of_linked hcopy.linked⟩
  have hstep := hpart (before ++ [snap]) after (by rw [hsplit, List.append_assoc]; rfl)
  exact (hstep.mem_formulas_iff (by simp)).2 hformula

/-- The missing value is written into `A1` as if it were a value. -/
def writtenEmpty : List Action :=
  [.set ⟨0, 0⟩ (.value .empty)]

/-- `A1` is in use, but restoring its snapshot clears the cell. -/
theorem used_ne_of_writtenEmpty :
    OwnCircles (run {} writtenEmpty) ∧
      ((new {}).restoreAll (run {} writtenEmpty).snapshots).used ≠ (run {} writtenEmpty).used := by
  have hused : (run {} writtenEmpty).used = [⟨0, 0⟩] := by cbv
  have hcopy : ((new {}).restoreAll (run {} writtenEmpty).snapshots).used = [] := by cbv
  have hvalue : (run {} writtenEmpty).cells[(⟨0, 0⟩ : Address)]? = some (.value .empty) := by cbv
  constructor
  · intro a source e ha he
    have hmem : a ∈ (run {} writtenEmpty).used := mem_used_of_getElem? ha
    rw [hused, List.mem_singleton] at hmem
    rw [hmem, hvalue] at ha
    cases ha
  · rw [hcopy, hused]
    exact (List.cons_ne_nil _ _).symm

/-- `B1` reads `A1`, and `C1` was rejected for reading itself. -/
def ownCircle : List Action :=
  [.set ⟨0, 0⟩ (.value (.boolean true)), .set ⟨0, 1⟩ (.formula "=A1"),
    .set ⟨0, 2⟩ (.formula "=C1+B1")]

theorem ownCircles_ownCircle : OwnCircles (run {} ownCircle) := by
  intro a source e ha he
  have hused : (run {} ownCircle).used = [⟨0, 0⟩, ⟨0, 1⟩, ⟨0, 2⟩] := by cbv
  have hvalue : (run {} ownCircle).cells[(⟨0, 0⟩ : Address)]? = some (.value (.boolean true)) := by
    cbv
  have hformula : (run {} ownCircle).cells[(⟨0, 1⟩ : Address)]?.any Cell.isFormula = true := by cbv
  have hcircle : (run {} ownCircle).cells[(⟨0, 2⟩ : Address)]? =
      some (.rejected "=C1+B1" .circular) := by cbv
  have hparse : Expr.ofText "=C1+B1" =
      .ok (.binary (.arithmetic .add) (.cell ⟨0, 2⟩) (.cell ⟨0, 1⟩)) := by cbv
  have hmem : a ∈ (run {} ownCircle).used := mem_used_of_getElem? ha
  rw [hused] at hmem
  simp only [List.mem_cons, List.not_mem_nil, or_false] at hmem
  rcases hmem with rfl | rfl | rfl
  · rw [ha] at hvalue
    cases hvalue
  · rw [ha] at hformula
    cases hformula
  · rw [ha] at hcircle
    cases hcircle
    rw [hparse] at he
    cases he
    simp [Expr.dependencies, Expr.reads]

/-- The last cell is restored first, so `B1` before the cell that it reads. -/
theorem copy_run_of_reverse :
    SameView (run {} ownCircle)
        ((new {}).restoreAll (run {} ownCircle).snapshots.reverse) ∧
      ((new {}).restoreAll (run {} ownCircle).snapshots.reverse).used = (run {} ownCircle).used := by
  have h := copy_run {} ownCircle ownCircles_ownCircle
    (List.reverse_perm (run {} ownCircle).snapshots)
  refine ⟨h.2.1, h.2.2.2.2.1 fun a input hmem => ?_⟩
  simp only [ownCircle, List.mem_cons, Action.set.injEq, List.not_mem_nil, or_false] at hmem
  rcases hmem with ⟨-, rfl⟩ | ⟨-, rfl⟩ | ⟨-, rfl⟩
  · nofun
  · nofun
  · nofun

end Sheet

end Worksheet
