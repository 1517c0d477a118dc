import Worksheet.Proofs.Sheet.Run

/-!
# What determines a sheet

A settled sheet has no choice in the values that it keeps: they are those that the contents call
for, and the dirty marks say which of them are there.  So two such sheets with the same contents and
the same dirty marks are one sheet (`Settled.eq_of_sameContent`), and reads do not tell two apart
that differ in their marks (`SameContent.get_eq`).
-/

namespace Worksheet

namespace Graph

/-- Of two entries that are not empty neither is missing where the other one is there. -/
theorem entry_eq_of_getD {entry entry' : Option AddressSet}
    (h : ∀ cells, entry = some cells → cells ≠ ∅) (h' : ∀ cells, entry' = some cells → cells ≠ ∅)
    (heq : entry'.getD ∅ = entry.getD ∅) : entry' = entry := by
  cases entry with
  | none =>
    cases entry' with
    | none => rfl
    | some cells' => exact absurd heq (h' cells' rfl)
  | some cells =>
    cases entry' with
    | none => exact absurd heq.symm (h cells rfl)
    | some cells' => exact congrArg some heq

/-- A graph is determined by the edges that leave its cells. -/
theorem Mirrored.eq_of_readsOf {g g' : Graph} (hg : g.Mirrored) (hg' : g'.Mirrored)
    (h : ∀ a, g'.readsOf a = g.readsOf a) : g' = g := by
  have hreaders : ∀ a, g'.readersOf a = g.readersOf a := by
    intro a
    refine Std.ExtTreeSet.ext_mem fun b => ?_
    rw [hg'.mem_readersOf, hg.mem_readersOf, Reads, Reads, h]
  have hreads : g'.reads = g.reads := Std.ExtTreeMap.ext_getElem? fun {a} =>
    entry_eq_of_getD (fun _ => hg.reads_ne_empty) (fun _ => hg'.reads_ne_empty) (h a)
  have hreaders : g'.readers = g.readers := Std.ExtTreeMap.ext_getElem? fun {a} =>
    entry_eq_of_getD (fun _ => hg.readers_ne_empty) (fun _ => hg'.readers_ne_empty) (hreaders a)
  cases g
  cases g'
  rw [Graph.mk.injEq]
  exact ⟨hreads, hreaders⟩

end Graph

namespace Sheet

/-- A cell is its content, with the value at hand unless it is dirty. -/
theorem cells_eq_content (s : Sheet) (a : Address) :
    s.cells[a]? =
      if s.isDirty a then s.content a else (s.content a).map (Cell.remember (s.shown a)) := by
  unfold isDirty content shown
  rcases s.cells[a]? with _ | (v | ⟨source, e, dependencies, _ | v⟩ | ⟨source, error⟩) <;> rfl

/-- The graph is determined by the contents. -/
theorem Linked.sameContent {s s' : Sheet} (hs : Linked s) (hs' : Linked s')
    (ho : s'.options = s.options) (hcontent : ∀ a, s'.content a = s.content a) :
    SameContent s s' := by
  refine ⟨ho, hs.mirrored.eq_of_readsOf hs'.mirrored fun a => ?_, hcontent⟩
  rw [hs'.readsOf, hs.readsOf, ← Cell.edges_map_soil, ← Cell.edges_map_soil s.cells[a]?]
  exact congrArg Cell.edges (hcontent a)

/-- **Contents and dirty marks determine a sheet.** -/
theorem Settled.eq_of_sameContent {s s' : Sheet} (hl : Linked s) (hs : Settled s)
    (hs' : Settled s') (hsame : SameContent s s')
    (hdirty : ∀ a, s'.isDirty a = true ↔ s.isDirty a = true) : s' = s := by
  have hcells : s'.cells = s.cells := by
    refine Std.ExtTreeMap.ext_getElem? fun {a} => ?_
    have hmark : s'.isDirty a = s.isDirty a := Bool.eq_iff_iff.2 (hdirty a)
    rw [cells_eq_content, cells_eq_content, hmark, hsame.content]
    split
    · rfl
    -- a clean cell keeps the value that the contents call for
    · next hclean =>
      have ha : s.isDirty a = false := Bool.eq_false_iff.2 hclean
      rw [hs.shown_eq_of_sameContent hl hs' hsame ha (hmark.trans ha)]
  obtain ⟨options, cells, graph⟩ := s
  obtain ⟨options', cells', graph'⟩ := s'
  rw [Sheet.mk.injEq]
  exact ⟨hsame.options, hcells, hsame.graph⟩

theorem Settled.eq_of_content {s s' : Sheet} (hl : Linked s) (hs : Settled s) (hl' : Linked s')
    (hs' : Settled s') (ho : s'.options = s.options) (hcontent : ∀ a, s'.content a = s.content a)
    (hdirty : ∀ a, s'.isDirty a = true ↔ s.isDirty a = true) : s' = s :=
  hs.eq_of_sameContent hl hs' (hl.sameContent hl' ho hcontent) hdirty

/-- Reads find the same values in two sheets with the same contents, whatever is dirty. -/
theorem SameContent.get_eq {s s' : Sheet} (hsame : SameContent s s') (hl : Linked s)
    (hs : Settled s) (hs' : Settled s') : ∀ a, (s'.get a).1 = (s.get a).1 :=
  get_eq_of_valueFrom hl hs (hl.of_sameContent hsame) hs' hsame.valueFrom_eq

end Sheet

end Worksheet
