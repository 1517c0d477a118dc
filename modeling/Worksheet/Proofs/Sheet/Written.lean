import Worksheet.Proofs.Sheet.Cleaning

/-!
# What is stored was written

A cell stores what some action wrote into it, if it stores anything: a value, or a formula, accepted
or rejected.  So what holds of everything that is written in the course of a run holds of everything
that is stored after it (`writtenFrom_run`).  And what holds of the stored values, and of the value
of a formula if it holds of the cells that the formula reads, holds of everything that reading finds
and that formulas keep (`Linked.forall_get`).
-/

namespace Worksheet

/-- The input that wrote the cell. -/
def Cell.input : Cell → Input
  | value v => .value v
  | formula f => .formula f.source
  | rejected source _ => .formula source

theorem Cell.input_soil (cell : Cell) : cell.soil.input = cell.input := by
  cases cell <;> rfl

namespace Sheet

/-- What the action writes. -/
def Action.input? : Action → Option Input
  | set _ input => some input
  | clear _ => some .empty
  | restore snap => some snap.content.toInput
  | recalculate | get _ => none

/-- All that is stored was written by inputs of this kind. -/
def WrittenFrom (allowed : Input → Prop) (s : Sheet) : Prop :=
  ∀ (a : Address) (cell : Cell), s.cells[a]? = some cell → allowed cell.input

section Written

variable {allowed : Input → Prop}

theorem input_of_entry {s : Sheet} {a : Address} {input : Input} {cell : Cell}
    (h : s.entry a input = some cell) : cell.input = input := by
  cases cell with
  | value v => exact (entry_value h).symm
  | formula f =>
    obtain ⟨source, e, rfl, -, rfl⟩ := entry_formula h
    rfl
  | rejected source error => exact (entry_rejected h).1.symm

theorem writtenFrom_new (o : Options) : WrittenFrom allowed (new o) := by
  intro a cell h
  rw [show (new o).cells = ∅ from rfl, Std.ExtTreeMap.getElem?_empty] at h
  cases h

theorem WrittenFrom.of_sameContent {s s' : Sheet} (hs : WrittenFrom allowed s)
    (h : SameContent s s') : WrittenFrom allowed s' := by
  intro a cell ha
  have hcontent : s.content a = some cell.soil := by rw [← h.content, content, ha, Option.map_some]
  obtain ⟨cell', ha', hsoil⟩ := Option.map_eq_some_iff.1 hcontent
  rw [← cell.input_soil, ← hsoil, cell'.input_soil]
  exact hs a cell' ha'

theorem WrittenFrom.set {s : Sheet} (hs : WrittenFrom allowed s) (a : Address) {input : Input}
    (h : allowed input) : WrittenFrom allowed (s.set a input) := by
  refine WrittenFrom.of_sameContent (fun b cell hb => ?_) (sameContent_set s a input)
  rw [(stores_store s a input).cells] at hb
  split at hb
  · rwa [input_of_entry hb]
  · exact hs b cell hb

theorem WrittenFrom.perform {s : Sheet} (hl : Linked s) (hsettled : Settled s)
    (hs : WrittenFrom allowed s) {action : Action}
    (h : ∀ input, action.input? = some input → allowed input) :
    WrittenFrom allowed (s.perform action) := by
  cases action with
  | set a input => exact hs.set a (h input rfl)
  | clear a => exact hs.set a (h .empty rfl)
  | restore snap => exact hs.set snap.address (h _ rfl)
  | recalculate => exact hs.of_sameContent (sameContent_recalculate s)
  | get a =>
    obtain ⟨found, hget, -⟩ := refreshed_get hl hsettled a
    exact hs.of_sameContent hget.sameContent

/-- **What is stored after a run was written in the course of it.** -/
theorem writtenFrom_run (o : Options) {actions : List Action}
    (h : ∀ action ∈ actions, ∀ input, action.input? = some input → allowed input) :
    WrittenFrom allowed (run o actions) := by
  induction actions using List.reverseRecOn with
  | nil => exact writtenFrom_new o
  | append_singleton actions action ih =>
    have hs := ih fun action hmem => h action (List.mem_append_left _ hmem)
    rw [run, List.foldl_concat, ← run]
    exact hs.perform (linked_run o actions) (settled_run o actions) (h action (by simp))

end Written

/-! ### From what is stored to what is found -/

section Found

variable {s : Sheet} (hl : Linked s) (hs : Settled s) {kind : Value → Prop}
include hl hs

/-- **Stored values and formulas decide what kinds of values there are**: no cell reads itself, so
going back from cell to cell ends at what is stored. -/
theorem Linked.forall_get (hempty : kind .empty) (herror : ∀ e, kind (.error e))
    (hvalue : ∀ (a : Address) (v : Value), s.cells[a]? = some (.value v) → kind v)
    (hformula : ∀ (a : Address) (f : Formula), s.cells[a]? = some (.formula f) →
      ∀ view : Address → Value, (∀ b ∈ f.dependencies, kind (view b)) →
        kind (f.expr.value (m := Id) s.options.average view)) (a : Address) :
    kind (s.get a).1 := by
  induction a using hl.acyclic.wellFounded.induction with
  | _ a ih =>
    have hfound : (s.get a).1 =
        Cell.valueFrom s.options.average (fun b => (s.get b).1) s.cells[a]? :=
      isValuation_get hl hs a
    rw [hfound]
    rcases ha : s.cells[a]? with _ | (v | f | ⟨source, error⟩)
    · exact hempty
    · exact hvalue a v ha
    · refine hformula a f ha _ fun b hb => ih b ?_
      rwa [Graph.Reads, hl.readsOf, ha]
    · exact herror error

/-- What a formula keeps is what reading its cell finds. -/
theorem Settled.get_of_cached {a : Address} {f : Formula} {v : Value}
    (ha : s.cells[a]? = some (.formula f)) (hv : f.cached = some v) : (s.get a).1 = v := by
  have hclean : s.isDirty a = false := by
    rw [isDirty, ha, Option.any_some, Cell.isDirty, hv, Option.isNone_some]
  rw [get_of_clean hl hs hclean, shown_of_cached ha hv]

end Found

end Sheet

end Worksheet
