import Worksheet.Sheet.Write
import Worksheet.Proofs.Evaluation
import Worksheet.Proofs.Graph.Cycles

/-!
# What a sheet stores and what it must keep

The content of a cell is what was stored there; the value that a formula keeps is set aside.  Two
invariants tie a sheet together.  `Linked` is about contents and the graph: the edges are those of
the stored formulas, every stored formula is one that the options accept, and no cell reads itself.
`Settled` is about kept values: a formula with a value reads no dirty formula, and its value is the
one that the values at hand give.
-/

namespace Worksheet

/-- The edges of what is stored at an address. -/
def Cell.edges : Option Cell → AddressSet
  | none => ∅
  | some cell => Sheet.expectedEdges cell

/-- The value that what is stored at an address calls for, when `view` gives the values of cells. -/
def Cell.valueFrom (ifEmpty : EmptyAverage) (view : Address → Value) : Option Cell → Value
  | none => .empty
  | some (.value v) => v
  | some (.formula f) => f.expr.value (m := Id) ifEmpty view
  | some (.rejected _ error) => .error error

theorem Cell.edges_map_soil (stored : Option Cell) : edges (stored.map soil) = edges stored := by
  rcases stored with _ | (v | f | ⟨source, error⟩) <;> rfl

theorem Cell.valueFrom_map_soil (ifEmpty : EmptyAverage) (view : Address → Value)
    (stored : Option Cell) :
    valueFrom ifEmpty view (stored.map soil) = valueFrom ifEmpty view stored := by
  rcases stored with _ | (v | f | ⟨source, error⟩) <;> rfl

namespace Sheet

/-! ### Contents -/

/-- What is stored at an address, without the value that a formula keeps. -/
def content (s : Sheet) (a : Address) : Option Cell :=
  s.cells[a]?.map Cell.soil

/-- The value at hand at an address: that of a dirty formula is missing. -/
def shown (s : Sheet) (a : Address) : Value :=
  match s.cells[a]? with
  | none => .empty
  | some (.value v) => v
  | some (.rejected _ error) => .error error
  | some (.formula f) => f.cached.getD .empty

/-- Two sheets differ at most in the values that their formulas keep. -/
structure SameContent (s s' : Sheet) : Prop where
  options : s'.options = s.options
  graph : s'.graph = s.graph
  content : ∀ a, s'.content a = s.content a

theorem SameContent.refl (s : Sheet) : SameContent s s := ⟨rfl, rfl, fun _ => rfl⟩

theorem SameContent.trans {s₁ s₂ s₃ : Sheet} (h₁ : SameContent s₁ s₂) (h₂ : SameContent s₂ s₃) :
    SameContent s₁ s₃ :=
  ⟨h₂.options.trans h₁.options, h₂.graph.trans h₁.graph,
    fun a => (h₂.content a).trans (h₁.content a)⟩

theorem SameContent.symm {s s' : Sheet} (h : SameContent s s') : SameContent s' s :=
  ⟨h.options.symm, h.graph.symm, fun a => (h.content a).symm⟩

theorem isDirty_iff {s : Sheet} {a : Address} :
    s.isDirty a = true ↔ ∃ f, s.cells[a]? = some (.formula f) ∧ f.cached = none := by
  unfold isDirty
  cases s.cells[a]? with
  | none => simp
  | some cell =>
    cases cell with
    | value v => simp [Cell.isDirty]
    | rejected source error => simp [Cell.isDirty]
    | formula f => simp [Cell.isDirty]

theorem mem_formulas_iff {s : Sheet} {a : Address} :
    a ∈ s.formulas ↔ ∃ f, s.cells[a]? = some (.formula f) := by
  have hkeys : a ∈ s.formulas ↔ a ∈ s.cells.filter fun _ cell => cell.isFormula :=
    Std.ExtTreeMap.mem_keys
  rw [hkeys, AddressMap.mem_iff]
  simp only [Std.ExtTreeMap.getElem?_filter', Option.filter_eq_some_iff]
  constructor
  · rintro ⟨cell, hcell, hformula⟩
    cases cell with
    | formula f => exact ⟨f, hcell⟩
    | value v => cases hformula
    | rejected source error => cases hformula
  · rintro ⟨f, hf⟩
    exact ⟨.formula f, hf, rfl⟩

theorem mem_formulas_iff_any {s : Sheet} {a : Address} :
    a ∈ s.formulas ↔ s.cells[a]?.any Cell.isFormula = true := by
  rw [mem_formulas_iff]
  rcases s.cells[a]? with _ | (v | f | ⟨source, error⟩) <;> simp [Cell.isFormula]

theorem mem_formulas_congr {s s' : Sheet} {a : Address} (h : s'.content a = s.content a) :
    a ∈ s'.formulas ↔ a ∈ s.formulas := by
  have hsoil : ∀ stored : Option Cell,
      (stored.map Cell.soil).any Cell.isFormula = stored.any Cell.isFormula := by
    rintro (_ | (v | f | ⟨source, error⟩)) <;> rfl
  rw [mem_formulas_iff_any, mem_formulas_iff_any, ← hsoil, ← hsoil s.cells[a]?]
  exact Eq.congr_left (congrArg (Option.any Cell.isFormula) h)

theorem isDirty_congr {s s' : Sheet} {a : Address} (h : s'.cells[a]? = s.cells[a]?) :
    s'.isDirty a = s.isDirty a := by
  unfold isDirty
  rw [h]

theorem shown_congr {s s' : Sheet} {a : Address} (h : s'.cells[a]? = s.cells[a]?) :
    s'.shown a = s.shown a := by
  unfold shown
  rw [h]

theorem SameContent.formula {s s' : Sheet} (h : SameContent s s') {a : Address} {f : Formula}
    (ha : s'.cells[a]? = some (.formula f)) :
    ∃ cached, s.cells[a]? = some (.formula { f with cached }) := by
  have hcontent := h.content a
  rw [Sheet.content, Sheet.content, ha] at hcontent
  cases hs : s.cells[a]? with
  | none => simp [hs] at hcontent
  | some cell =>
    rw [hs, Option.map_some, Option.map_some, Option.some.injEq] at hcontent
    cases cell with
    | value v => simp [Cell.soil] at hcontent
    | rejected source error => simp [Cell.soil] at hcontent
    | formula g =>
      obtain ⟨source, e, dependencies, cached⟩ := g
      simp only [Cell.soil, Cell.formula.injEq, Formula.mk.injEq, and_true] at hcontent
      obtain ⟨rfl, rfl, rfl⟩ := hcontent
      exact ⟨cached, rfl⟩

theorem SameContent.rejected {s s' : Sheet} (h : SameContent s s') {a : Address} {source : String}
    {error : CellError} (ha : s'.cells[a]? = some (.rejected source error)) :
    s.cells[a]? = some (.rejected source error) := by
  have hcontent := h.content a
  rw [Sheet.content, Sheet.content, ha] at hcontent
  rcases hs : s.cells[a]? with _ | (v | f | ⟨source', error'⟩)
  · simp [hs] at hcontent
  · simp [hs, Cell.soil] at hcontent
  · simp [hs, Cell.soil] at hcontent
  · rw [hs] at hcontent
    exact hcontent.symm

theorem SameContent.edges {s s' : Sheet} (h : SameContent s s') (a : Address) :
    Cell.edges s'.cells[a]? = Cell.edges s.cells[a]? := by
  rw [← Cell.edges_map_soil, ← Cell.edges_map_soil s.cells[a]?]
  exact congrArg Cell.edges (h.content a)

theorem SameContent.reads_iff {s s' : Sheet} (h : SameContent s s') {a b : Address} :
    s'.graph.Reads a b ↔ s.graph.Reads a b := by
  rw [h.graph]

/-! ### Contents and the graph -/

/-- The graph holds the edges of the stored formulas, which keep the limits, and has no cycle.  What
is stored as rejected breaks a limit with this error, or would have closed a cycle. -/
structure Linked (s : Sheet) : Prop where
  mirrored : s.graph.Mirrored
  acyclic : s.graph.Acyclic
  readsOf : ∀ a, s.graph.readsOf a = Cell.edges s.cells[a]?
  accepted : ∀ {a : Address} {f : Formula}, s.cells[a]? = some (.formula f) →
    s.options.accept f.source = .ok f.expr ∧ f.dependencies = f.expr.dependencies
  rejected : ∀ {a : Address} {source : String} {error : CellError},
    s.cells[a]? = some (.rejected source error) →
    s.options.accept source = .error error ∨
      error = .circular ∧ ∃ e, s.options.accept source = .ok e

theorem linked_new (o : Options) : Linked (new o) where
  mirrored := Graph.mirrored_empty
  acyclic := Graph.acyclic_empty
  readsOf a := by
    rw [show (new o).graph = ∅ from rfl, show (new o).cells = ∅ from rfl, Graph.readsOf_empty,
      Std.ExtTreeMap.getElem?_empty]
    rfl
  accepted {a f} h := by
    rw [show (new o).cells = ∅ from rfl, Std.ExtTreeMap.getElem?_empty] at h
    cases h
  rejected {a source error} h := by
    rw [show (new o).cells = ∅ from rfl, Std.ExtTreeMap.getElem?_empty] at h
    cases h

theorem Linked.of_sameContent {s s' : Sheet} (hs : Linked s) (h : SameContent s s') :
    Linked s' where
  mirrored := h.graph ▸ hs.mirrored
  acyclic := h.graph ▸ hs.acyclic
  readsOf a := by rw [h.graph, h.edges, hs.readsOf]
  accepted {a f} ha := by
    obtain ⟨cached, hold⟩ := h.formula ha
    have haccepted := hs.accepted hold
    rwa [h.options]
  rejected {a source error} ha := by
    have hrejected := hs.rejected (h.rejected ha)
    rwa [h.options]

/-- A stored formula reads the cells of its expression. -/
theorem Linked.reads_iff {s : Sheet} (hs : Linked s) {a b : Address} {f : Formula}
    (ha : s.cells[a]? = some (.formula f)) : s.graph.Reads a b ↔ b ∈ f.expr.reads := by
  rw [Graph.Reads, hs.readsOf, ha, Cell.edges, expectedEdges, (hs.accepted ha).2,
    Expr.mem_dependencies]

/-- A cell that reads another is a formula. -/
theorem Linked.formula_of_reads {s : Sheet} (hs : Linked s) {a b : Address}
    (h : s.graph.Reads a b) : ∃ f, s.cells[a]? = some (.formula f) := by
  rw [Graph.Reads, hs.readsOf] at h
  rcases ha : s.cells[a]? with _ | (v | f | ⟨source, error⟩)
  · simp [ha, Cell.edges] at h
  · simp [ha, Cell.edges, expectedEdges] at h
  · exact ⟨f, rfl⟩
  · simp [ha, Cell.edges, expectedEdges] at h

/-! ### Valuations -/

/-- `view` gives every cell the value that its content calls for, reading from `view` itself. -/
def IsValuation (s : Sheet) (view : Address → Value) : Prop :=
  ∀ a, view a = Cell.valueFrom s.options.average view s.cells[a]?

theorem Linked.valueFrom_congr {s : Sheet} (hs : Linked s) {a : Address}
    {view view' : Address → Value} (h : ∀ b, s.graph.Reads a b → view b = view' b) :
    Cell.valueFrom s.options.average view s.cells[a]? =
      Cell.valueFrom s.options.average view' s.cells[a]? := by
  cases ha : s.cells[a]? with
  | none => rfl
  | some cell =>
    cases cell with
    | value v => rfl
    | rejected source error => rfl
    | formula f => exact Expr.value_congr _ fun b hb => h b ((hs.reads_iff ha).2 hb)

/-- **There is at most one valuation**, since no cell reads itself. -/
theorem IsValuation.unique {s : Sheet} (hs : Linked s) {view view' : Address → Value}
    (h : IsValuation s view) (h' : IsValuation s view') : view = view' := by
  funext a
  induction a using hs.acyclic.wellFounded.induction with
  | _ a ih => rw [h a, h' a, hs.valueFrom_congr ih]

theorem SameContent.valueFrom_eq {s s' : Sheet} (h : SameContent s s') (view : Address → Value)
    (a : Address) :
    Cell.valueFrom s'.options.average view s'.cells[a]? =
      Cell.valueFrom s.options.average view s.cells[a]? := by
  rw [h.options, ← Cell.valueFrom_map_soil, ← Cell.valueFrom_map_soil _ _ s.cells[a]?]
  exact congrArg (Cell.valueFrom _ _) (h.content a)

/-! ### Kept values -/

/-- A formula that keeps a value reads no dirty formula, and its value is what the values at hand
give. -/
def Settled (s : Sheet) : Prop :=
  ∀ (a : Address) (f : Formula) (v : Value), s.cells[a]? = some (.formula f) →
    f.cached = some v →
    (∀ b, s.graph.Reads a b → s.isDirty b = false) ∧
      v = f.expr.value (m := Id) s.options.average s.shown

theorem settled_new (o : Options) : Settled (new o) := by
  intro a f v ha
  rw [show (new o).cells = ∅ from rfl, Std.ExtTreeMap.getElem?_empty] at ha
  cases ha

theorem shown_of_cached {s : Sheet} {a : Address} {f : Formula} {v : Value}
    (ha : s.cells[a]? = some (.formula f)) (hv : f.cached = some v) : s.shown a = v := by
  simp [shown, ha, hv]

/-- Away from dirty formulas the values at hand are as the contents call for. -/
theorem Settled.shown_eq {s : Sheet} (hs : Settled s) {a : Address} (ha : s.isDirty a = false) :
    s.shown a = Cell.valueFrom s.options.average s.shown s.cells[a]? := by
  cases h : s.cells[a]? with
  | none => simp [shown, h, Cell.valueFrom]
  | some cell =>
    cases cell with
    | value v => simp [shown, h, Cell.valueFrom]
    | rejected source error => simp [shown, h, Cell.valueFrom]
    | formula f =>
      cases hv : f.cached with
      | none =>
        rw [isDirty_iff.2 ⟨f, h, hv⟩] at ha
        cases ha
      | some v =>
        rw [shown_of_cached h hv]
        exact (hs a f v h hv).2

/-- What a clean formula reads is clean. -/
theorem Settled.isDirty_of_reads {s : Sheet} (hl : Linked s) (hs : Settled s) {a b : Address}
    (ha : s.isDirty a = false) (hab : s.graph.Reads a b) : s.isDirty b = false := by
  obtain ⟨f, hf⟩ := hl.formula_of_reads hab
  cases hv : f.cached with
  | none =>
    rw [isDirty_iff.2 ⟨f, hf, hv⟩] at ha
    cases ha
  | some v => exact (hs a f v hf hv).1 b hab

/-- **Two settled sheets with the same contents show the same value** where neither is dirty. -/
theorem Settled.shown_eq_of_sameContent {s s' : Sheet} (hl : Linked s) (hs : Settled s)
    (hs' : Settled s') (hsame : SameContent s s') {a : Address} (ha : s.isDirty a = false)
    (ha' : s'.isDirty a = false) : s.shown a = s'.shown a := by
  have hl' : Linked s' := hl.of_sameContent hsame
  induction a using hl.acyclic.wellFounded.induction with
  | _ a ih =>
    have hreads : ∀ b, s.graph.Reads a b → s.shown b = s'.shown b := by
      intro b hab
      have hab' : s'.graph.Reads a b := by rwa [hsame.graph]
      exact ih b hab (hs.isDirty_of_reads hl ha hab) (hs'.isDirty_of_reads hl' ha' hab')
    calc s.shown a
        = Cell.valueFrom s.options.average s.shown s.cells[a]? := hs.shown_eq ha
      _ = Cell.valueFrom s.options.average s'.shown s.cells[a]? := hl.valueFrom_congr hreads
      _ = Cell.valueFrom s'.options.average s'.shown s'.cells[a]? :=
        (hsame.valueFrom_eq s'.shown a).symm
      _ = s'.shown a := (hs'.shown_eq ha').symm

end Sheet

end Worksheet
