import Worksheet.Proofs.Sheet.Circular

/-!
# Sheets that hold the same

Two sheets are `Alike` if they hold the same under the same options, where an empty value counts as
nothing.  A reader cannot tell them apart (`Alike.sameView`).  Writing what a cell holds into a
sheet with no other edges than there are gives a cell that holds the same (`Linked.held_entry`);
restoring a snapshot does nothing else.
-/

namespace Worksheet

/-- What is stored at an address, without the value that a formula keeps; an empty value counts as
nothing. -/
def Cell.held : Option Cell → Option Cell
  | some (.value .empty) => none
  | stored => stored.map soil

section Held

variable {stored stored' : Option Cell} (h : Cell.held stored = Cell.held stored')
include h

theorem Cell.edges_of_held : Cell.edges stored = Cell.edges stored' := by
  have hheld : ∀ stored, edges (held stored) = edges stored := by
    rintro (_ | ((_ | _ | _ | _ | _) | f | ⟨source, error⟩)) <;> rfl
  rw [← hheld stored, h, hheld]

theorem Cell.valueFrom_of_held (ifEmpty : EmptyAverage) (view : Address → Value) :
    Cell.valueFrom ifEmpty view stored = Cell.valueFrom ifEmpty view stored' := by
  have hheld : ∀ stored, valueFrom ifEmpty view (held stored) = valueFrom ifEmpty view stored := by
    rintro (_ | ((_ | _ | _ | _ | _) | f | ⟨source, error⟩)) <;> rfl
  rw [← hheld stored, h, hheld]

theorem Cell.editText_of_held :
    (stored.map Cell.editText).getD "" = (stored'.map Cell.editText).getD "" := by
  have hheld : ∀ stored : Option Cell, ((held stored).map editText).getD "" =
      (stored.map editText).getD "" := by
    rintro (_ | ((_ | _ | _ | _ | _) | f | ⟨source, error⟩)) <;> rfl
  rw [← hheld stored, h, hheld]

theorem Cell.isFormula_of_held : stored.any Cell.isFormula = stored'.any Cell.isFormula := by
  have hheld : ∀ stored : Option Cell, (held stored).any isFormula = stored.any isFormula := by
    rintro (_ | ((_ | _ | _ | _ | _) | f | ⟨source, error⟩)) <;> rfl
  rw [← hheld stored, h, hheld]

end Held

theorem Cell.held_map_soil (stored : Option Cell) : held (stored.map soil) = held stored := by
  rcases stored with _ | ((_ | _ | _ | _ | _) | f | ⟨source, error⟩) <;> rfl

namespace Sheet

/-- A reader finds in both sheets the same values, the same texts, the same edges and the same
formulas. -/
structure SameView (s s' : Sheet) : Prop where
  get : ∀ a, (s'.get a).1 = (s.get a).1
  editText : ∀ a, s'.editText a = s.editText a
  readsOf : ∀ a, s'.readsOf a = s.readsOf a
  formulas : ∀ a, a ∈ s'.formulas ↔ a ∈ s.formulas

/-- The two sheets hold the same under the same options. -/
structure Alike (s s' : Sheet) : Prop where
  options : s'.options = s.options
  held : ∀ a : Address, Cell.held s'.cells[a]? = Cell.held s.cells[a]?

theorem Alike.refl (s : Sheet) : Alike s s := ⟨rfl, fun _ => rfl⟩

section Alike

variable {s s' : Sheet} (h : Alike s s') (hs : Linked s) (hs' : Linked s')
include h hs hs'

theorem Alike.readsOf_eq (a : Address) : s'.graph.readsOf a = s.graph.readsOf a := by
  rw [hs'.readsOf, hs.readsOf, Cell.edges_of_held (h.held a)]

theorem Alike.sameView (hsettled : Settled s) (hsettled' : Settled s') : SameView s s' where
  get := get_eq_of_valueFrom hs hsettled hs' hsettled' fun view b => by
    rw [h.options, Cell.valueFrom_of_held (h.held b)]
  editText a := by
    have htext : ∀ t : Sheet, t.editText a = (t.cells[a]?.map Cell.editText).getD "" := by
      intro t
      rw [Sheet.editText]
      cases t.cells[a]? <;> rfl
    rw [htext, htext, Cell.editText_of_held (h.held a)]
  readsOf a := congrArg Std.ExtTreeSet.toList (h.readsOf_eq hs hs' a)
  formulas a := by
    rw [mem_formulas_iff_any, mem_formulas_iff_any, Cell.isFormula_of_held (h.held a)]

end Alike

/-! ### Writing back what a cell holds -/

/-- The sheet after some snapshots have been restored. -/
def restoreAll (s : Sheet) (snaps : List Snapshot) : Sheet :=
  snaps.foldl restore s

theorem held_set (s : Sheet) (a b : Address) (input : Input) :
    Cell.held (s.set a input).cells[b]? =
      if a = b then Cell.held (s.entry a input) else Cell.held s.cells[b]? := by
  have hset := congrArg Cell.held (content_set s a b input)
  rw [content, Cell.held_map_soil] at hset
  rw [hset]
  split
  · exact Cell.held_map_soil _
  · exact Cell.held_map_soil _

theorem held_restore (s t : Sheet) (a b : Address) :
    Cell.held (t.restore (s.snapshot a)).cells[b]? =
      if a = b then Cell.held (t.entry a (Content.ofCell s.cells[a]?).toInput)
      else Cell.held t.cells[b]? :=
  held_set t a b _

section WriteBack

variable {s t : Sheet} (hs : Linked s) (ht : Linked t) (ho : t.options = s.options) {a : Address}
  (hsub : ∀ b, a ≠ b → ∀ d, t.graph.Reads b d → s.graph.Reads b d)
include hs ht ho hsub

/-- A formula that is stored is taken where the other cells read no more than they do here. -/
theorem Linked.entry_of_formula {f : Formula} (ha : s.cells[a]? = some (.formula f)) :
    t.entry a (.formula f.source) = some (.formula (.new f.source f.expr)) := by
  have hedges : ∀ {x y}, (t.graph.setReads a f.expr.dependencies).Reads x y →
      s.graph.Reads x y := by
    intro x y hxy
    rw [Graph.Reads, Graph.readsOf_setReads] at hxy
    split at hxy
    · next hax =>
      rwa [← hax, Graph.Reads, hs.readsOf, ha, Cell.edges, expectedEdges, (hs.accepted ha).2]
    · next hax => exact hsub x hax y hxy
  have hcycle : ¬ (t.graph.setReads a f.expr.dependencies).isOnCycle a = true := by
    rw [Graph.isOnCycle_iff (ht.mirrored.setReads a _)]
    exact hs.acyclic.mono hedges a
  simp only [entry, ho, (hs.accepted ha).1, hcycle, if_false, Bool.false_eq_true]

/-- Writing what a cell holds gives a cell that holds the same, unless it is a formula that was
rejected as circular and would be taken by now. -/
theorem Linked.held_entry (hcircular : ∀ source, s.cells[a]? = some (.rejected source .circular) →
      t.entry a (.formula source) = some (.rejected source .circular)) :
    Cell.held (t.entry a (Content.ofCell s.cells[a]?).toInput) = Cell.held s.cells[a]? := by
  rcases ha : s.cells[a]? with _ | (v | f | ⟨source, error⟩)
  · rfl
  · cases v <;> rfl
  · rw [Content.ofCell, Content.toInput, hs.entry_of_formula ht ho hsub ha]
    simp only [Cell.held, Option.map_some, Cell.soil, Formula.new, (hs.accepted ha).2]
  · rcases hs.rejected ha with hrefused | ⟨rfl, e, haccept⟩
    · simp only [Content.ofCell, Content.toInput, entry, ho, hrefused]
    · rw [Content.ofCell, Content.toInput, hcircular source ha]

end WriteBack

end Sheet

end Worksheet
