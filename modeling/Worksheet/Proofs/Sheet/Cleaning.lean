import Worksheet.Proofs.Sheet.Determined

/-!
# Reads only clean

A clean formula reads only clean ones (`clean_run`), whether or not its evaluation has looked at
them.  So the dirty formulas that a read evaluates are all dirty ones that the cell reads
(`mem_evaluations_iff`), and the read does nothing else (`OnlyCleans`).  As a sheet is determined by
its contents and its dirty marks, reads can be done in any order (`only_cleans_run`).
-/

open Relation

namespace Worksheet.Sheet

/-! ### Clean formulas -/

/-- What a clean formula reads, directly or through others, is clean. -/
theorem Settled.isDirty_of_readsThrough {s : Sheet} (hl : Linked s) (hs : Settled s)
    {a b : Address} (ha : s.isDirty a = false) (hab : s.graph.ReadsThrough a b) :
    s.isDirty b = false := by
  induction hab with
  | single hread => exact hs.isDirty_of_reads hl ha hread
  | tail _ hread ih => exact hs.isDirty_of_reads hl ih hread

/-- The edges that leave a cell lead to the cells that its formula names, in the arguments of a call
that is settled without them as anywhere else. -/
theorem Linked.reads_iff_exists {s : Sheet} (hs : Linked s) {a b : Address} :
    s.graph.Reads a b ↔ ∃ f, s.cells[a]? = some (.formula f) ∧ b ∈ f.expr.reads := by
  constructor
  · intro hread
    obtain ⟨f, ha⟩ := hs.formula_of_reads hread
    exact ⟨f, ha, (hs.reads_iff ha).1 hread⟩
  · rintro ⟨f, ha, hb⟩
    exact (hs.reads_iff ha).2 hb

/-- **Clean cells read only clean cells**: after every run, a formula that is not dirty reads no
dirty formula, directly or through others, where it reads every cell that its expression names. -/
theorem clean_run (o : Options) (actions : List Action) {a b : Address}
    (ha : (run o actions).isDirty a = false)
    (hab : TransGen (fun x y => ∃ f, (run o actions).cells[x]? = some (.formula f) ∧
      y ∈ f.expr.reads) a b) :
    (run o actions).isDirty b = false := by
  have hl := linked_run o actions
  refine (settled_run o actions).isDirty_of_readsThrough hl ha ?_
  exact TransGen.mono (fun _ _ => hl.reads_iff_exists.2) _ _ hab

/-- After these actions `B1` has been read.  It calls a function that there is none of, so its value
is settled without `A1`. -/
def settledWithoutArgument : List Action :=
  [.set ⟨0, 0⟩ (.formula "=C1"), .set ⟨0, 1⟩ (.formula "=F(A1)"), .get ⟨0, 1⟩]

/-- `A1` is clean all the same. -/
theorem clean_run_of_unknown_name :
    ((run {} settledWithoutArgument).get ⟨0, 1⟩).1 = .error .unknownName ∧
      (run {} settledWithoutArgument).isDirty ⟨0, 1⟩ = false ∧
      (run {} settledWithoutArgument).isDirty ⟨0, 0⟩ = false := by
  have hclean : (run {} settledWithoutArgument).isDirty ⟨0, 1⟩ = false := by cbv
  have hreads : (run {} settledWithoutArgument).readsOf ⟨0, 1⟩ = [⟨0, 0⟩] := by cbv
  have hmem : ⟨0, 0⟩ ∈ (run {} settledWithoutArgument).readsOf ⟨0, 1⟩ :=
    hreads ▸ List.mem_singleton_self _
  refine ⟨by cbv, hclean, clean_run {} settledWithoutArgument hclean (.single ?_)⟩
  exact (linked_run {} settledWithoutArgument).reads_iff_exists.1 (Std.ExtTreeSet.mem_toList.1 hmem)

/-! ### The dirty formulas that a read needs -/

section Evaluations

variable {s : Sheet} (hl : Linked s) (hs : Settled s) {a b : Address}
include hl hs

/-- A dirty formula is read through dirty ones only. -/
theorem mem_stale_of_readsThrough (hab : s.graph.ReadsThrough a b) (hb : s.isDirty b = true) :
    b ∈ s.stale a := by
  rw [mem_stale_iff]
  induction hab with
  | single hread => exact .single ⟨hread, hb⟩
  | @tail c d _ hread ih =>
    refine (ih ?_).tail ⟨hread, hb⟩
    -- `c` reads a dirty formula, so it is dirty itself
    rw [← Bool.not_eq_false]
    intro hc
    rw [hs.isDirty_of_reads hl hc hread] at hb
    cases hb

/-- **A read evaluates the dirty formulas that it needs**: the cell itself and those that it
reads. -/
theorem mem_evaluations_iff (hb : s.isDirty b = true) :
    b ∈ s.evaluations a ↔ b = a ∨ s.graph.ReadsThrough a b := by
  have hdirty : b = a ∨ s.graph.ReadsThrough a b → s.isDirty a = true := by
    rintro (rfl | hab)
    · exact hb
    · rw [← Bool.not_eq_false]
      intro ha
      rw [hs.isDirty_of_readsThrough hl ha hab] at hb
      cases hb
  unfold evaluations
  constructor
  · intro h
    split at h
    · rcases List.mem_append.1 h with h | h
      · have hstale := mem_stale_iff.1 ((mem_staleBefore_iff hl a).1 h).2
        exact Or.inr (TransGen.mono (fun _ _ h => h.1) _ _ hstale)
      · exact Or.inl (List.mem_singleton.1 h)
    · cases h
  · intro h
    rw [if_pos (hdirty h), List.mem_append, List.mem_singleton, mem_staleBefore_iff hl]
    rcases h with rfl | hab
    · exact Or.inr rfl
    · exact Or.inl ⟨hdirty (Or.inr hab), mem_stale_of_readsThrough hl hs hab hb⟩

end Evaluations

/-! ### Reads -/

/-- `s'` is `s` after reads of these cells that have cleaned what they need and changed nothing
else. -/
structure OnlyCleans (s : Sheet) (cells : List Address) (s' : Sheet) : Prop where
  options : s'.options = s.options
  content : ∀ b, s'.content b = s.content b
  graph : s'.graph = s.graph
  /-- A later read finds what it would have found before. -/
  get : ∀ b, (s'.get b).1 = (s.get b).1
  /-- The cells read and all that they read are clean, and no other formula is. -/
  isDirty_iff : ∀ b, s'.isDirty b = true ↔
    s.isDirty b = true ∧ ∀ a ∈ cells, b ≠ a ∧ ¬ s.graph.ReadsThrough a b

theorem onlyCleans_nil (s : Sheet) : OnlyCleans s [] s :=
  ⟨rfl, fun _ => rfl, rfl, fun _ => rfl, fun b => by simp⟩

theorem OnlyCleans.sameContent {s s' : Sheet} {cells : List Address} (h : OnlyCleans s cells s') :
    SameContent s s' :=
  ⟨h.options, h.graph, h.content⟩

theorem OnlyCleans.trans {s₁ s₂ s₃ : Sheet} {cells₁ cells₂ : List Address}
    (h₁ : OnlyCleans s₁ cells₁ s₂) (h₂ : OnlyCleans s₂ cells₂ s₃) :
    OnlyCleans s₁ (cells₁ ++ cells₂) s₃ where
  options := h₂.options.trans h₁.options
  content b := (h₂.content b).trans (h₁.content b)
  graph := h₂.graph.trans h₁.graph
  get b := (h₂.get b).trans (h₁.get b)
  isDirty_iff b := by
    rw [h₂.isDirty_iff, h₁.isDirty_iff, h₁.graph, and_assoc, List.forall_mem_append]

/-- **One read.** -/
theorem onlyCleans_get {s : Sheet} (hl : Linked s) (hs : Settled s) (a : Address) :
    OnlyCleans s [a] (s.get a).2 ∧ Settled (s.get a).2 := by
  have h : Refreshed s (s.evaluations a).reverse (s.get a).2 := (found_read hl a hs).1.refreshed
  refine ⟨⟨h.sameContent.options, h.sameContent.content, h.sameContent.graph,
    h.sameContent.get_eq hl hs h.settled, fun b => ?_⟩, h.settled⟩
  rw [h.isDirty_iff, List.forall_mem_singleton, List.mem_reverse]
  refine and_congr_right fun hb => ?_
  rw [mem_evaluations_iff hl hs hb, not_or]

/-- Reading a clean cell finds the value at hand. -/
theorem get_of_clean {s : Sheet} (hl : Linked s) (hs : Settled s) {a : Address}
    (ha : s.isDirty a = false) : (s.get a).1 = s.shown a := by
  obtain ⟨found, h, hclean, hvalue⟩ := refreshed_get hl hs a
  rw [hvalue, hs.shown_eq_of_sameContent hl h.settled h.sameContent ha hclean]

/-- A read leaves in each cell what was there, a formula with the value that reading it finds unless
it is still dirty. -/
theorem cells_get {s : Sheet} (hl : Linked s) (hs : Settled s) (a b : Address) :
    (s.get a).2.cells[b]? = s.cells[b]?.map fun cell =>
      if (s.get a).2.isDirty b then cell.soil else cell.soil.remember (s.get b).1 := by
  obtain ⟨h, hsettled⟩ := onlyCleans_get hl hs a
  rw [cells_eq_content, h.content, content]
  split
  · rfl
  · next hdirty =>
    have hl' : Linked (s.get a).2 := hl.of_sameContent h.sameContent
    rw [← get_of_clean hl' hsettled (Bool.eq_false_iff.2 hdirty), h.get, Option.map_map]
    rfl

theorem getAll_cons_run (s : Sheet) (a : Address) (cells : List Address) :
    (getAll (a :: cells)).run s =
      ((s.get a).1 :: ((getAll cells).run (s.get a).2).1, ((getAll cells).run (s.get a).2).2) := by
  rw [getAll, List.mapM_cons]
  rfl

/-- **Reads one after the other** find what each would find alone. -/
theorem onlyCleans_getAll {s : Sheet} (hl : Linked s) (hs : Settled s) (cells : List Address) :
    ((getAll cells).run s).1 = cells.map (fun a => (s.get a).1) ∧
      OnlyCleans s cells ((getAll cells).run s).2 ∧ Settled ((getAll cells).run s).2 := by
  induction cells generalizing s with
  | nil => exact ⟨rfl, onlyCleans_nil s, hs⟩
  | cons a rest ih =>
    obtain ⟨hfirst, hsettled⟩ := onlyCleans_get hl hs a
    obtain ⟨hvalues, hrest, hsettled'⟩ := ih (hl.of_sameContent hfirst.sameContent) hsettled
    rw [getAll_cons_run]
    refine ⟨?_, hfirst.trans hrest, hsettled'⟩
    rw [List.map_cons, hvalues]
    exact congrArg _ (List.map_congr_left fun b _ => hfirst.get b)

/-- The sheet after some reads depends on which cells have been read, not on their order. -/
theorem OnlyCleans.eq_of_mem_iff {s s₁ s₂ : Sheet} (hl : Linked s) {cells₁ cells₂ : List Address}
    (h₁ : OnlyCleans s cells₁ s₁) (hs₁ : Settled s₁) (h₂ : OnlyCleans s cells₂ s₂)
    (hs₂ : Settled s₂) (hmem : ∀ a, a ∈ cells₁ ↔ a ∈ cells₂) : s₁ = s₂ := by
  refine hs₂.eq_of_sameContent (hl.of_sameContent h₂.sameContent) hs₁
    (h₂.sameContent.symm.trans h₁.sameContent) fun b => ?_
  rw [h₁.isDirty_iff, h₂.isDirty_iff]
  simp only [hmem]

/-- **Reads only clean**: after every run, a read changes nothing but that its cell and all that it
reads are clean.  Reads one after the other find what each would find alone, and they leave the same
sheet in whatever order and however often they are done. -/
theorem only_cleans_run (o : Options) (actions : List Action) :
    (∀ a, OnlyCleans (run o actions) [a] ((run o actions).get a).2) ∧
    (∀ cells, ((getAll cells).run (run o actions)).1 =
        cells.map (fun a => ((run o actions).get a).1) ∧
      OnlyCleans (run o actions) cells ((getAll cells).run (run o actions)).2) ∧
    ∀ cells cells', (∀ a, a ∈ cells ↔ a ∈ cells') →
      ((getAll cells).run (run o actions)).2 = ((getAll cells').run (run o actions)).2 := by
  have hl := linked_run o actions
  have hs := settled_run o actions
  refine ⟨fun a => (onlyCleans_get hl hs a).1, fun cells => ?_, fun cells cells' hmem => ?_⟩
  · obtain ⟨hvalues, hclean, -⟩ := onlyCleans_getAll hl hs cells
    exact ⟨hvalues, hclean⟩
  · obtain ⟨-, hclean, hsettled⟩ := onlyCleans_getAll hl hs cells
    obtain ⟨-, hclean', hsettled'⟩ := onlyCleans_getAll hl hs cells'
    exact hclean.eq_of_mem_iff hl hsettled hclean' hsettled' hmem

/-- Reading `A1` before `B1` or after it comes to the same when `B1` reads `A1`. -/
theorem only_cleans_run_of_chain :
    ((getAll [⟨0, 0⟩, ⟨0, 1⟩]).run
        (run {} [.set ⟨0, 0⟩ (.formula "=C1"), .set ⟨0, 1⟩ (.formula "=A1")])).2 =
      ((getAll [⟨0, 1⟩, ⟨0, 0⟩]).run
        (run {} [.set ⟨0, 0⟩ (.formula "=C1"), .set ⟨0, 1⟩ (.formula "=A1")])).2 := by
  refine (only_cleans_run {} _).2.2 _ _ fun a => ?_
  simp only [List.mem_cons, List.not_mem_nil, or_false]
  exact or_comm

end Worksheet.Sheet
