import Worksheet.Sheet.Snapshot
import Worksheet.Proofs.Sheet.Read

/-!
# Runs

A sheet that starts empty stays `Linked` and `Settled` whatever is done to it (`linked_run`,
`settled_run`).  So every read gives the value that the contents call for, as if nothing had ever
been kept (`isValuation_get`).
-/

namespace Worksheet.Sheet

/-- What a user does to a sheet. -/
inductive Action where
  | set (a : Address) (input : Input)
  | clear (a : Address)
  | restore (snap : Snapshot)
  | recalculate
  | get (a : Address)

/-- The sheet after an action. -/
def perform (s : Sheet) : Action → Sheet
  | .set a input => s.set a input
  | .clear a => s.clear a
  | .restore snap => s.restore snap
  | .recalculate => s.recalculate
  | .get a => (s.get a).2

/-- The sheet after some actions on a sheet without cells. -/
def run (o : Options) (actions : List Action) : Sheet :=
  actions.foldl perform (new o)

/-- What holds at the start and is kept by writes, by recalculation and by reads holds after every
run: clearing and restoring are writes. -/
theorem run_induction {P : Sheet → Prop} (o : Options) (hnew : P (new o))
    (hset : ∀ s a input, P s → P (s.set a input)) (hrecalculate : ∀ s, P s → P s.recalculate)
    (hget : ∀ s a, P s → P (s.get a).2) (actions : List Action) : P (run o actions) := by
  refine List.foldlRecOn actions perform hnew fun s hs action _ => ?_
  cases action with
  | set a input => exact hset s a input hs
  | clear a => exact hset s a .empty hs
  | restore snap => exact hset s snap.address snap.content.toInput hs
  | recalculate => exact hrecalculate s hs
  | get a => exact hget s a hs

/-- What every run keeps. -/
theorem invariant_run (o : Options) (actions : List Action) :
    (run o actions).options = o ∧ Linked (run o actions) ∧ Settled (run o actions) := by
  refine run_induction (P := fun s => s.options = o ∧ Linked s ∧ Settled s) o
    ⟨rfl, linked_new o, settled_new o⟩ ?_ ?_ ?_ actions
  · rintro s a input ⟨ho, hl, hs⟩
    exact ⟨(options_set s a input).trans ho, hl.set a input, hs.set hl a input⟩
  · rintro s ⟨ho, hl, -⟩
    exact ⟨ho, hl.of_sameContent (sameContent_recalculate s), settled_recalculate s⟩
  · rintro s a ⟨ho, hl, hs⟩
    obtain ⟨found, h, -⟩ := refreshed_get hl hs a
    exact ⟨h.sameContent.options.trans ho, hl.of_sameContent h.sameContent, h.settled⟩

theorem options_run (o : Options) (actions : List Action) : (run o actions).options = o :=
  (invariant_run o actions).1

theorem linked_run (o : Options) (actions : List Action) : Linked (run o actions) :=
  (invariant_run o actions).2.1

theorem settled_run (o : Options) (actions : List Action) : Settled (run o actions) :=
  (invariant_run o actions).2.2

/-! ### Reads give the valuation -/

/-- What reads give is a valuation: reads of different cells agree on the cells that both find. -/
theorem isValuation_get {s : Sheet} (hl : Linked s) (hs : Settled s) :
    IsValuation s fun a => (s.get a).1 := by
  intro a
  obtain ⟨found, h, hclean, hvalue⟩ := refreshed_get hl hs a
  have hl' : Linked (s.get a).2 := hl.of_sameContent h.sameContent
  have hreads : ∀ b, s.graph.Reads a b → (s.get a).2.shown b = (s.get b).1 := by
    intro b hab
    obtain ⟨found', h', hclean', hvalue'⟩ := refreshed_get hl hs b
    have hb : (s.get a).2.isDirty b = false :=
      h.settled.isDirty_of_reads hl' hclean (h.sameContent.reads_iff.2 hab)
    rw [hvalue']
    exact h.settled.shown_eq_of_sameContent hl' h'.settled
      (h.sameContent.symm.trans h'.sameContent) hb hclean'
  calc (s.get a).1
      = (s.get a).2.shown a := hvalue
    _ = Cell.valueFrom (s.get a).2.options.average (s.get a).2.shown (s.get a).2.cells[a]? :=
      h.settled.shown_eq hclean
    _ = Cell.valueFrom s.options.average (s.get a).2.shown s.cells[a]? :=
      h.sameContent.valueFrom_eq _ a
    _ = Cell.valueFrom s.options.average (fun b => (s.get b).1) s.cells[a]? :=
      hl.valueFrom_congr hreads

/-- Reads find the same values in two sheets whose contents call for the same. -/
theorem get_eq_of_valueFrom {s s' : Sheet} (hl : Linked s) (hs : Settled s) (hl' : Linked s')
    (hs' : Settled s') (h : ∀ (view : Address → Value) (b : Address),
      Cell.valueFrom s'.options.average view s'.cells[b]? =
        Cell.valueFrom s.options.average view s.cells[b]?) (a : Address) :
    (s'.get a).1 = (s.get a).1 := by
  have hval' : IsValuation s fun b => (s'.get b).1 := by
    intro b
    rw [isValuation_get hl' hs' b, h]
  exact congrFun (hval'.unique hl (isValuation_get hl hs)) a

/-- **Keeping values is evaluation from scratch**: after every run there is exactly one way to give
every cell the value that its content calls for, and it is what reads give. -/
theorem get_run_eq_valuation (o : Options) (actions : List Action) :
    ∃ val : Address → Value,
      (∀ a, val a = Cell.valueFrom o.average val (run o actions).cells[a]?) ∧
      (∀ view : Address → Value,
        (∀ a, view a = Cell.valueFrom o.average view (run o actions).cells[a]?) → view = val) ∧
      ∀ a, ((run o actions).get a).1 = val a := by
  have hl := linked_run o actions
  have hval := isValuation_get hl (settled_run o actions)
  have hvaluation : ∀ view, IsValuation (run o actions) view ↔
      ∀ a, view a = Cell.valueFrom o.average view (run o actions).cells[a]? := by
    intro view
    rw [IsValuation, options_run]
  refine ⟨fun a => ((run o actions).get a).1, (hvaluation _).1 hval, fun view hview => ?_,
    fun a => rfl⟩
  exact ((hvaluation view).2 hview).unique hl hval

end Worksheet.Sheet
