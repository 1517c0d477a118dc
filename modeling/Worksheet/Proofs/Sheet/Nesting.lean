import Worksheet.Proofs.Sheet.Run

/-!
# Evaluations never nest

However long a chain of formulas is, a read evaluates them one after the other: each finds all the
cells that it reads clean, so no evaluation begins inside another and none meets a cell that is
being evaluated (`neverNests_run`).
-/

namespace Worksheet

/-- The cell that an event is about. -/
def Event.cell : Event → Address
  | .evaluated cell _ _ => cell
  | .reentered cell => cell

namespace Sheet

/-- The events of a read of `a`, the latest first, are evaluations one after the other. -/
structure NeverNests (s : Sheet) (a : Address) (events : List Event) : Prop where
  /-- No cell is read while it is being evaluated. -/
  not_reentered : ∀ b, .reentered b ∉ events
  /-- A formula is evaluated with no other cell on the stack, when it is dirty and all that it reads
  is clean. -/
  shallow : ∀ b outer sheet, .evaluated b outer sheet ∈ events →
    (outer.enter? b).map Stack.cells = some [b] ∧ SameContent s sheet ∧
      ∃ f, sheet.cells[b]? = some (.formula f) ∧ f.cached = none ∧
        ∀ d ∈ f.expr.dependencies, sheet.isDirty d = false
  /-- No formula is evaluated twice. -/
  nodup : (events.map Event.cell).Nodup
  /-- What is evaluated is first what has to be refreshed, in evaluation order, and then `a`. -/
  order : (events.map Event.cell).reverse = if s.isDirty a then s.staleBefore a ++ [a] else []
  /-- What has to be refreshed are the dirty formulas that `a` reads through dirty ones. -/
  mem_staleBefore_iff : ∀ b, b ∈ s.staleBefore a ↔ s.isDirty a = true ∧
    Relation.TransGen (fun x y => s.graph.Reads x y ∧ s.isDirty y = true) a b

theorem Flat.cell_eq {s : Sheet} {b : Address} {event : Event} (h : Flat s b event) :
    event.cell = b := by
  cases event with
  | evaluated cell outer sheet => exact h.1
  | reentered cell => exact h.elim

theorem map_cell_of_flat {s : Sheet} {cells : List Address} {events : List Event}
    (h : List.Forall₂ (Flat s) cells events) : events.map Event.cell = cells := by
  induction h with
  | nil => rfl
  | cons hflat _ ih => rw [List.map_cons, hflat.cell_eq, ih]

theorem flat_of_mem {s : Sheet} {cells : List Address} {events : List Event}
    (h : List.Forall₂ (Flat s) cells events) {event : Event} (hevent : event ∈ events) :
    Flat s event.cell event := by
  obtain ⟨i, hi, rfl⟩ := List.mem_iff_getElem.1 hevent
  have hflat := (List.forall₂_iff_get.1 h).2 i (h.length_eq ▸ hi) hi
  rw [List.get_eq_getElem, List.get_eq_getElem] at hflat
  rwa [hflat.cell_eq]

theorem Found.neverNests {s : Sheet} (hl : Linked s) {a : Address} {r : Reading}
    (h : Found s (s.evaluations a).reverse r) : NeverNests s a r.events where
  not_reentered b hb := flat_of_mem h.events hb
  shallow b outer sheet hevent := by
    obtain ⟨-, rfl, hsame, f, hf, hcached, hclean⟩ := flat_of_mem h.events hevent
    exact ⟨rfl, hsame, f, hf, hcached, hclean⟩
  nodup := by
    rw [map_cell_of_flat h.events, List.nodup_reverse]
    exact nodup_evaluations hl a
  order := by
    rw [map_cell_of_flat h.events, List.reverse_reverse, evaluations]
  mem_staleBefore_iff b := by
    rw [Sheet.mem_staleBefore_iff hl, mem_stale_iff]

/-- **Evaluations never nest**: after every run, every read evaluates the formulas that it needs one
after the other, each once. -/
theorem neverNests_run (o : Options) (actions : List Action) (a : Address) :
    NeverNests (run o actions) a ((run o actions).read a).2.events :=
  (found_read (linked_run o actions) a (settled_run o actions)).1.neverNests (linked_run o actions)

end Sheet

end Worksheet
