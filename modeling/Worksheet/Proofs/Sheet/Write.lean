import Worksheet.Proofs.Sheet.Content

/-!
# What a write does

A write is one change at one address (`stores_store`), followed by forgetting the values of the
formulas that read it.  From this description it follows that writes keep a sheet `Linked` and
`Settled`.
-/

namespace Worksheet.Sheet

/-- What a write leaves at its address. -/
def entry (s : Sheet) (a : Address) : Input → Option Cell
  | .empty => none
  | .value v => some (.value v)
  | .formula source =>
    match s.options.accept source with
    | .error error => some (.rejected source error)
    | .ok e =>
      if (s.graph.setReads a e.dependencies).isOnCycle a then some (.rejected source .circular)
      else some (.formula (.new source e))

theorem entry_formula {s : Sheet} {a : Address} {input : Input} {f : Formula}
    (h : s.entry a input = some (.formula f)) :
    ∃ source e, input = .formula source ∧ s.options.accept source = .ok e ∧ f = .new source e := by
  cases input with
  | empty => cases h
  | value v => cases h
  | formula source =>
    cases haccept : s.options.accept source with
    | error error => simp [entry, haccept] at h
    | ok e =>
      simp only [entry, haccept] at h
      split at h
      · cases h
      · cases h
        exact ⟨source, e, rfl, haccept, rfl⟩

theorem entry_rejected {s : Sheet} {a : Address} {input : Input} {source : String}
    {error : CellError} (h : s.entry a input = some (.rejected source error)) :
    input = .formula source ∧ (s.options.accept source = .error error ∨
      error = .circular ∧ ∃ e, s.options.accept source = .ok e) := by
  cases input with
  | empty => cases h
  | value v => cases h
  | formula source' =>
    cases haccept : s.options.accept source' with
    | error error' =>
      simp only [entry, haccept] at h
      cases h
      exact ⟨rfl, .inl haccept⟩
    | ok e =>
      simp only [entry, haccept] at h
      split at h
      · cases h
        exact ⟨rfl, .inr ⟨rfl, e, haccept⟩⟩
      · cases h

theorem entry_value {s : Sheet} {a : Address} {input : Input} {v : Value}
    (h : s.entry a input = some (.value v)) : input = .value v := by
  cases input with
  | empty => cases h
  | value w =>
    cases h
    rfl
  | formula source =>
    cases haccept : s.options.accept source with
    | error error => simp [entry, haccept] at h
    | ok e =>
      simp only [entry, haccept] at h
      split at h
      · cases h
      · cases h

/-- What a write leaves at its cell depends on the options and on what the other cells read. -/
theorem entry_congr {s t : Sheet} (hs : Linked s) (ht : Linked t) (ho : t.options = s.options)
    {a : Address} (hreads : ∀ b, a ≠ b → t.graph.readsOf b = s.graph.readsOf b) (input : Input) :
    t.entry a input = s.entry a input := by
  cases input with
  | empty => rfl
  | value v => rfl
  | formula source =>
    have hcycle : ∀ cells, (t.graph.setReads a cells).isOnCycle a =
        (s.graph.setReads a cells).isOnCycle a := by
      intro cells
      have hedges : (t.graph.setReads a cells).Reads = (s.graph.setReads a cells).Reads := by
        funext x y
        rw [Graph.Reads, Graph.Reads, Graph.readsOf_setReads, Graph.readsOf_setReads]
        split
        · rfl
        · next hax => rw [hreads x hax]
      rw [Bool.eq_iff_iff, Graph.isOnCycle_iff (ht.mirrored.setReads a cells),
        Graph.isOnCycle_iff (hs.mirrored.setReads a cells), Graph.ReadsThrough, hedges,
        Graph.ReadsThrough]
    simp only [entry, ho, hcycle]

/-! ### The change at one address -/

/-- `s'` is `s` with `stored` at `a` and the edges that belong to it, all else left as it is. -/
structure Stores (s : Sheet) (a : Address) (stored : Option Cell) (s' : Sheet) : Prop where
  options : s'.options = s.options
  cells : ∀ b : Address, s'.cells[b]? = if a = b then stored else s.cells[b]?
  readsOf : ∀ b : Address,
    s'.graph.readsOf b = if a = b then Cell.edges stored else s.graph.readsOf b
  mirrored : s.graph.Mirrored → s'.graph.Mirrored
  acyclic : s.graph.Mirrored → s.graph.Acyclic → s'.graph.Acyclic

theorem stores_reject (s : Sheet) (a : Address) (source : String) (error : CellError) :
    Stores s a (some (.rejected source error)) (s.reject a source error) where
  options := rfl
  cells b := by
    simp only [reject, Std.ExtTreeMap.getElem?_insert, Std.LawfulEqCmp.compare_eq_iff_eq]
  readsOf b := Graph.readsOf_dropReads s.graph a b
  mirrored hg := hg.dropReads a
  acyclic _ hac := hac.dropReads a

theorem stores_reject_circular (s : Sheet) (a : Address) (source : String) (cells : AddressSet) :
    Stores s a (some (.rejected source .circular))
      ({ s with graph := s.graph.setReads a cells }.reject a source .circular) where
  options := rfl
  cells b := by
    simp only [reject, Std.ExtTreeMap.getElem?_insert, Std.LawfulEqCmp.compare_eq_iff_eq]
  readsOf b := Graph.readsOf_dropReads_setReads s.graph a b cells
  mirrored hg := (hg.setReads a cells).dropReads a
  acyclic _ hac := hac.dropReads_setReads a cells

theorem stores_install (s : Sheet) (a : Address) (source : String) :
    Stores s a (s.entry a (.formula source)) (s.install a source) := by
  cases haccept : s.options.accept source with
  | error error =>
    simp only [install, entry, haccept]
    exact stores_reject s a source error
  | ok e =>
    by_cases hcycle : (s.graph.setReads a e.dependencies).isOnCycle a
    · simp only [install, entry, haccept, Formula.new, hcycle, if_true]
      exact stores_reject_circular s a source e.dependencies
    · simp only [install, entry, haccept, Formula.new, hcycle, Bool.false_eq_true, if_false]
      refine ⟨rfl, fun b => ?_, fun b => Graph.readsOf_setReads s.graph a b e.dependencies,
        fun hg => hg.setReads a e.dependencies, fun hg hac => hac.setReads fun hread => ?_⟩
      · simp only [Std.ExtTreeMap.getElem?_insert, Std.LawfulEqCmp.compare_eq_iff_eq]
      · exact hcycle ((Graph.isOnCycle_iff (hg.setReads a e.dependencies)).2 hread)

/-- **A write changes one address.** -/
theorem stores_store (s : Sheet) (a : Address) (input : Input) :
    Stores s a (s.entry a input) (s.store a input) := by
  cases input with
  | empty =>
    refine ⟨rfl, fun b => ?_, Graph.readsOf_dropReads s.graph a, fun hg => hg.dropReads a,
      fun _ hac => hac.dropReads a⟩
    simp only [store, entry, Std.ExtTreeMap.getElem?_erase, Std.LawfulEqCmp.compare_eq_iff_eq]
  | value v =>
    refine ⟨rfl, fun b => ?_, Graph.readsOf_dropReads s.graph a, fun hg => hg.dropReads a,
      fun _ hac => hac.dropReads a⟩
    simp only [store, entry, Std.ExtTreeMap.getElem?_insert, Std.LawfulEqCmp.compare_eq_iff_eq]
  | formula source => exact stores_install s a source

section Stores

variable {s s' : Sheet} {a b : Address} {stored : Option Cell} (h : Stores s a stored s')
include h

theorem Stores.cells_self : s'.cells[a]? = stored := by
  rw [h.cells, if_pos rfl]

theorem Stores.cells_of_ne (hab : a ≠ b) : s'.cells[b]? = s.cells[b]? := by
  rw [h.cells, if_neg hab]

theorem Stores.readsOf_of_ne (hab : a ≠ b) : s'.graph.readsOf b = s.graph.readsOf b := by
  rw [h.readsOf, if_neg hab]

end Stores

theorem Linked.store {s : Sheet} (hs : Linked s) (a : Address) (input : Input) :
    Linked (s.store a input) := by
  have h := stores_store s a input
  refine ⟨h.mirrored hs.mirrored, h.acyclic hs.mirrored hs.acyclic, fun b => ?_,
    fun {b f} hf => ?_, fun {b source error} hb => ?_⟩
  · rw [h.readsOf, h.cells]
    split
    · rfl
    · exact hs.readsOf b
  · rw [h.options]
    rw [h.cells] at hf
    split at hf
    · obtain ⟨source, e, -, haccept, rfl⟩ := entry_formula hf
      exact ⟨haccept, rfl⟩
    · exact hs.accepted hf
  · rw [h.options]
    rw [h.cells] at hb
    split at hb
    · exact (entry_rejected hb).2
    · exact hs.rejected hb

/-! ### Forgetting values -/

theorem cells_soil (s : Sheet) (cells : AddressSet) (b : Address) :
    (s.soil cells).cells[b]? = if b ∈ cells then s.cells[b]?.map Cell.soil else s.cells[b]? := by
  refine AddressMap.getElem?_foldl_of_pointwise (fun m d b => ?_) cells s.cells b
  rw [Std.ExtTreeMap.getElem?_modify]
  simp only [Std.LawfulEqCmp.compare_eq_iff_eq]
  split
  · next h => rw [h]
  · rfl

theorem map_soil_map_soil (stored : Option Cell) :
    (stored.map Cell.soil).map Cell.soil = stored.map Cell.soil := by
  rcases stored with _ | (v | f | ⟨source, error⟩) <;> rfl

theorem sameContent_soil (s : Sheet) (cells : AddressSet) : SameContent s (s.soil cells) := by
  refine ⟨rfl, rfl, fun a => ?_⟩
  rw [content, content, cells_soil]
  split
  · exact map_soil_map_soil _
  · rfl

theorem cached_of_map_soil {stored : Option Cell} {f : Formula}
    (h : stored.map Cell.soil = some (.formula f)) : f.cached = none := by
  rcases stored with _ | (v | g | ⟨source, error⟩)
  · cases h
  · cases h
  · cases h
    rfl
  · cases h

theorem cells_recalculate (s : Sheet) (a : Address) :
    s.recalculate.cells[a]? = s.cells[a]?.map Cell.soil :=
  Std.ExtTreeMap.getElem?_map

theorem sameContent_recalculate (s : Sheet) : SameContent s s.recalculate := by
  refine ⟨rfl, rfl, fun a => ?_⟩
  rw [content, content, cells_recalculate]
  exact map_soil_map_soil _

theorem settled_recalculate (s : Sheet) : Settled s.recalculate := by
  intro a f v ha hv
  rw [cells_recalculate] at ha
  rw [cached_of_map_soil ha] at hv
  cases hv

/-! ### Writes -/

theorem sameContent_set (s : Sheet) (a : Address) (input : Input) :
    SameContent (s.store a input) (s.set a input) :=
  sameContent_soil _ _

theorem options_set (s : Sheet) (a : Address) (input : Input) :
    (s.set a input).options = s.options :=
  (stores_store s a input).options

theorem Linked.set {s : Sheet} (hs : Linked s) (a : Address) (input : Input) :
    Linked (s.set a input) :=
  (hs.store a input).of_sameContent (sameContent_set s a input)

theorem content_set (s : Sheet) (a b : Address) (input : Input) :
    (s.set a input).content b =
      if a = b then (s.entry a input).map Cell.soil else s.content b := by
  rw [(sameContent_set s a input).content, content, (stores_store s a input).cells]
  split
  · rfl
  · rfl

theorem readsOf_set (s : Sheet) (a b : Address) (input : Input) :
    (s.set a input).graph.readsOf b =
      if a = b then Cell.edges (s.entry a input) else s.graph.readsOf b :=
  (stores_store s a input).readsOf b

theorem cells_set_self (s : Sheet) (a : Address) (input : Input) :
    (s.set a input).cells[a]? = s.entry a input := by
  rw [set, cells_soil, if_neg, (stores_store s a input).cells_self]
  simp

/-- What does not read the cell written, directly or through others, is left as it is. -/
theorem cells_set_of_not_reads {s : Sheet} (hs : Linked s) {a b : Address} (input : Input)
    (hab : a ≠ b) (hread : ¬ (s.store a input).graph.ReadsThrough b a) :
    (s.set a input).cells[b]? = s.cells[b]? := by
  have hb : b ∉ ((s.store a input).graph.allReaders a).erase a := by
    rw [Std.ExtTreeSet.mem_erase, Graph.mem_allReaders_iff (hs.store a input).mirrored]
    exact fun h => hread h.2
  rw [set, cells_soil, if_neg hb, (stores_store s a input).cells_of_ne hab]

/-- A formula that keeps its value through a write reads the cell written by no way. -/
theorem not_reads_of_cached {s : Sheet} (hs : Linked s) {a b : Address} {input : Input}
    {f : Formula} {v : Value} (hb : (s.set a input).cells[b]? = some (.formula f))
    (hv : f.cached = some v) : a ≠ b ∧ ¬ (s.store a input).graph.ReadsThrough b a := by
  have hne : a ≠ b := by
    rintro rfl
    rw [cells_set_self] at hb
    obtain ⟨source, e, -, -, rfl⟩ := entry_formula hb
    cases hv
  refine ⟨hne, fun hread => ?_⟩
  have hmem : b ∈ ((s.store a input).graph.allReaders a).erase a := by
    rw [Std.ExtTreeSet.mem_erase, Graph.mem_allReaders_iff (hs.store a input).mirrored]
    exact ⟨by simpa using hne, hread⟩
  rw [set, cells_soil, if_pos hmem] at hb
  rw [cached_of_map_soil hb] at hv
  cases hv

/-- **Writes leave no value that depends on what they change.** -/
theorem Settled.set {s : Sheet} (hl : Linked s) (hs : Settled s) (a : Address) (input : Input) :
    Settled (s.set a input) := by
  intro b f v hb hv
  obtain ⟨hab, hread⟩ := not_reads_of_cached hl hb hv
  have hstores := stores_store s a input
  have hold : s.cells[b]? = some (.formula f) := by
    rwa [cells_set_of_not_reads hl input hab hread] at hb
  have hreads : ∀ d, (s.set a input).graph.Reads b d ↔ s.graph.Reads b d := by
    intro d
    rw [(sameContent_set s a input).reads_iff, Graph.Reads, hstores.readsOf_of_ne hab]
    rfl
  have hcells : ∀ d, s.graph.Reads b d → (s.set a input).cells[d]? = s.cells[d]? := by
    intro d hbd
    have hstep : (s.store a input).graph.Reads b d := by
      rwa [Graph.Reads, hstores.readsOf_of_ne hab]
    refine cells_set_of_not_reads hl input ?_ fun hda => hread (hda.head hstep)
    rintro rfl
    exact hread (.single hstep)
  obtain ⟨hclean, hvalue⟩ := hs b f v hold hv
  refine ⟨fun d hbd => ?_, ?_⟩
  · rw [hreads] at hbd
    rw [isDirty_congr (hcells d hbd)]
    exact hclean d hbd
  · rw [hvalue, options_set]
    refine Expr.value_congr _ fun d hd => ?_
    rw [shown_congr (hcells d ((hl.reads_iff hold).2 hd))]

end Worksheet.Sheet
