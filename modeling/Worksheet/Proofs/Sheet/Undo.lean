import Worksheet.Proofs.Sheet.Alike

/-!
# Undoing writes

Snapshots taken before some writes and restored in the opposite order undo these writes, as far as a
reader can tell (`undo_run`).  There is one exception: a formula that was rejected as circular is
restored as an accepted one when its cycle has been broken in the meantime.
-/

open Relation

namespace Worksheet

/-- A write to one cell. -/
inductive Write where
  | set (a : Address) (input : Input)
  | clear (a : Address)

namespace Write

/-- The cell that is written. -/
def address : Write → Address
  | set a _ => a
  | clear a => a

/-- What is written into the cell. -/
def input : Write → Input
  | set _ input => input
  | clear _ => .empty

end Write

namespace Sheet

/-! ### Writes and their snapshots -/

/-- The sheet after a write. -/
def write (s : Sheet) : Write → Sheet
  | .set a input => s.set a input
  | .clear a => s.clear a

theorem write_eq_set (s : Sheet) (w : Write) : s.write w = s.set w.address w.input := by
  cases w <;> rfl

/-- The sheet after some writes. -/
def writeAll (s : Sheet) (writes : List Write) : Sheet :=
  writes.foldl write s

/-- The snapshot of the cell of each write just before it, the latest first. -/
def journal (s : Sheet) : List Write → List Snapshot
  | [] => []
  | w :: rest => (s.write w).journal rest ++ [s.snapshot w.address]

/-- If the write replaces a formula that was rejected as circular, that formula would be rejected
again. -/
def Undoable (s : Sheet) (w : Write) : Prop :=
  ∀ source, s.cells[w.address]? = some (.rejected source .circular) →
    (s.set w.address (.formula source)).cells[w.address]? = some (.rejected source .circular)

/-! ### Undoing one write -/

/-- **Restoring the snapshot undoes the write**, also on a sheet that is only alike. -/
theorem Linked.alike_restore {s t : Sheet} (hs : Linked s) (ht : Linked t) {w : Write}
    (hw : s.Undoable w) (h : Alike (s.write w) t) : Alike s (t.restore (s.snapshot w.address)) := by
  rw [write_eq_set] at h
  have ho : t.options = s.options := h.options.trans (options_set s w.address w.input)
  have hreads : ∀ b, w.address ≠ b → t.graph.readsOf b = s.graph.readsOf b := by
    intro b hb
    rw [h.readsOf_eq (hs.set w.address w.input) ht]
    exact (stores_store s w.address w.input).readsOf_of_ne hb
  refine ⟨(options_set t _ _).trans ho, fun b => ?_⟩
  rw [held_restore]
  split
  · next hb =>
    rw [entry_congr hs ht ho hreads, ← hb]
    exact hs.held_entry hs rfl (fun _ _ _ => id) fun source ha =>
      cells_set_self s w.address (.formula source) ▸ hw source ha
  · next hb => rw [h.held, held_set, if_neg hb]

/-! ### Undoing many writes -/

section Kept

variable {P : Sheet → Prop} (hset : ∀ s a input, P s → P (s.set a input))
include hset

theorem writeAll_induction {s : Sheet} (hs : P s) (writes : List Write) :
    P (s.writeAll writes) :=
  List.foldlRecOn writes write hs fun s hs w _ =>
    write_eq_set s w ▸ hset s w.address w.input hs

theorem restoreAll_induction {s : Sheet} (hs : P s) (snaps : List Snapshot) :
    P (s.restoreAll snaps) :=
  List.foldlRecOn snaps restore hs fun s hs snap _ =>
    hset s snap.address snap.content.toInput hs

end Kept

/-- What holds of a linked and settled sheet holds after writes and after restoring. -/
theorem linked_settled_undo {s : Sheet} (hl : Linked s) (hs : Settled s) (writes : List Write)
    (snaps : List Snapshot) : Linked ((s.writeAll writes).restoreAll snaps) ∧
      Settled ((s.writeAll writes).restoreAll snaps) := by
  have hset : ∀ s a input, Linked s ∧ Settled s →
      Linked (s.set a input) ∧ Settled (s.set a input) :=
    fun s a input h => ⟨h.1.set a input, h.2.set h.1 a input⟩
  exact restoreAll_induction hset (writeAll_induction hset ⟨hl, hs⟩ writes) snaps

theorem alike_undo {s : Sheet} (hl : Linked s) (hs : Settled s) {writes : List Write}
    (hundo : ∀ before w after, writes = before ++ w :: after → (s.writeAll before).Undoable w) :
    Alike s ((s.writeAll writes).restoreAll (s.journal writes)) := by
  induction writes generalizing s with
  | nil => exact .refl s
  | cons w rest ih =>
    have hwrite : Linked (s.write w) ∧ Settled (s.write w) := by
      rw [write_eq_set]
      exact ⟨hl.set _ _, hs.set hl _ _⟩
    have hrest := ih hwrite.1 hwrite.2 fun before w' after h =>
      hundo (w :: before) w' after (by rw [h, List.cons_append])
    have hlinked := (linked_settled_undo hwrite.1 hwrite.2 rest ((s.write w).journal rest)).1
    have hstep := hl.alike_restore hlinked (hundo [] w rest rfl) hrest
    rwa [journal, restoreAll, List.foldl_append]

/-- A write that cannot be undone is followed by a formula where there was none. -/
theorem not_sameView_of_not_undoable {s : Sheet} (hl : Linked s) {w : Write}
    (hw : ¬ s.Undoable w) :
    ¬ SameView s ((s.writeAll [w]).restoreAll (s.journal [w])) := by
  simp only [Undoable, not_forall] at hw
  obtain ⟨source, ha, hentry⟩ := hw
  have hlinked : Linked (s.write w) := write_eq_set s w ▸ hl.set w.address w.input
  have hreads : ∀ b, w.address ≠ b → (s.write w).graph.readsOf b = s.graph.readsOf b := by
    intro b hb
    rw [write_eq_set]
    exact (stores_store s w.address w.input).readsOf_of_ne hb
  have ho : (s.write w).options = s.options := write_eq_set s w ▸ options_set s _ _
  intro hsame
  have hnone : w.address ∉ s.formulas := by
    rw [mem_formulas_iff, ha]
    rintro ⟨f, hf⟩
    cases hf
  refine hnone ((hsame.formulas w.address).1 (mem_formulas_iff.2 ?_))
  obtain ⟨e, haccept⟩ : ∃ e, s.options.accept source = .ok e := by
    rcases hl.rejected ha with hrefused | ⟨-, e, haccept⟩
    · refine absurd ?_ hentry
      rw [cells_set_self]
      simp only [entry, hrefused]
    · exact ⟨e, haccept⟩
  refine ⟨.new source e, ?_⟩
  show ((s.write w).set w.address
    (Content.ofCell s.cells[w.address]?).toInput).cells[w.address]? = _
  rw [cells_set_self, entry_congr hl hlinked ho hreads, ha, Content.ofCell, Content.toInput]
  rw [cells_set_self] at hentry
  simp only [entry, haccept] at hentry ⊢
  split at hentry
  · exact absurd rfl hentry
  · next hcycle => rw [if_neg hcycle]

/-- **Snapshots undo writes**: after every run, restoring in the opposite order the snapshots taken
before some writes gives back what a reader saw before them, if no write has replaced a formula
rejected as circular that would be taken by then; and a write that does so is not undone. -/
theorem undo_run (o : Options) (actions : List Action) :
    (∀ writes, (∀ before w after, writes = before ++ w :: after →
        ((run o actions).writeAll before).Undoable w) →
      SameView (run o actions)
        (((run o actions).writeAll writes).restoreAll ((run o actions).journal writes))) ∧
    ∀ w, ¬ (run o actions).Undoable w →
      ¬ SameView (run o actions)
        (((run o actions).writeAll [w]).restoreAll ((run o actions).journal [w])) := by
  have hl := linked_run o actions
  have hs := settled_run o actions
  refine ⟨fun writes hundo => ?_, fun w hw => not_sameView_of_not_undoable hl hw⟩
  obtain ⟨hl', hs'⟩ := linked_settled_undo hl hs writes ((run o actions).journal writes)
  exact (alike_undo hl hs hundo).sameView hl hl' hs hs'

/-- After these actions `B1` holds a formula that was rejected as circular, but `A1` no longer reads
`B1`. -/
def brokenCycle : List Action :=
  [.set ⟨0, 0⟩ (.formula "=B1"), .set ⟨0, 1⟩ (.formula "=A1"), .set ⟨0, 0⟩ (.value (.number 1))]

/-- Undone, the write to `B1` leaves a formula there that was none before. -/
theorem not_sameView_of_brokenCycle :
    ¬ SameView (run {} brokenCycle)
      (((run {} brokenCycle).writeAll [.set ⟨0, 1⟩ (.value (.number 2))]).restoreAll
        ((run {} brokenCycle).journal [.set ⟨0, 1⟩ (.value (.number 2))])) := by
  intro hsame
  have hbefore : (run {} brokenCycle).formulas = [] := by cbv
  have hafter : (((run {} brokenCycle).writeAll [.set ⟨0, 1⟩ (.value (.number 2))]).restoreAll
      ((run {} brokenCycle).journal [.set ⟨0, 1⟩ (.value (.number 2))])).formulas = [⟨0, 1⟩] := by
    cbv
  have hmem := (hsame.formulas ⟨0, 1⟩).1 (hafter ▸ List.mem_cons_self)
  rw [hbefore] at hmem
  cases hmem

/-- Clearing a cell that reads itself is undone; clearing `B1` is not when its cycle is broken. -/
theorem undo_run_of_clear :
    SameView (run {} [.set ⟨0, 0⟩ (.formula "=A1")])
      (((run {} [.set ⟨0, 0⟩ (.formula "=A1")]).writeAll [.clear ⟨0, 0⟩]).restoreAll
        ((run {} [.set ⟨0, 0⟩ (.formula "=A1")]).journal [.clear ⟨0, 0⟩])) ∧
    ¬ SameView (run {} brokenCycle)
      (((run {} brokenCycle).writeAll [.clear ⟨0, 1⟩]).restoreAll
        ((run {} brokenCycle).journal [.clear ⟨0, 1⟩])) := by
  constructor
  · refine (undo_run {} [.set ⟨0, 0⟩ (.formula "=A1")]).1 [.clear ⟨0, 0⟩] ?_
    intro before w after h source hstored
    have hself : (run {} [.set ⟨0, 0⟩ (.formula "=A1")]).cells[(⟨0, 0⟩ : Address)]? =
        some (.rejected "=A1" .circular) := by cbv
    rcases List.append_eq_singleton_iff.1 h.symm with ⟨rfl, hw⟩ | ⟨-, hw⟩
    · obtain ⟨rfl, -⟩ := List.cons.inj hw
      obtain ⟨rfl, -⟩ := Cell.rejected.inj (Option.some.inj (hself.symm.trans hstored))
      cbv
    · cases hw
  · refine (undo_run {} brokenCycle).2 (.clear ⟨0, 1⟩) fun hundo => ?_
    have hstored : (run {} brokenCycle).cells[(⟨0, 1⟩ : Address)]? =
        some (.rejected "=A1" .circular) := by cbv
    have hagain : ((run {} brokenCycle).set ⟨0, 1⟩ (.formula "=A1")).formulas = [⟨0, 1⟩] := by cbv
    have hmem : (⟨0, 1⟩ : Address) ∈ ((run {} brokenCycle).set ⟨0, 1⟩ (.formula "=A1")).formulas :=
      hagain ▸ List.mem_cons_self
    obtain ⟨f, hf⟩ := mem_formulas_iff.1 hmem
    cases hf.symm.trans (hundo "=A1" hstored)

end Sheet

end Worksheet
