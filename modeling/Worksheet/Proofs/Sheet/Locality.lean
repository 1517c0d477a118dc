import Worksheet.Proofs.Sheet.Run

/-!
# Writes are local

A write makes dirty what reads its cell, directly or through others, and leaves everything else as
it is: contents, edges, kept values and what reads find (`localWrite_run`).  Who reads the cell is
the same before and after the write, since only the edges that leave the cell are replaced
(`readsThrough_store_iff`).
-/

namespace Worksheet

namespace Sheet

theorem readsThrough_store_iff {s : Sheet} {a b : Address} (input : Input) (hb : b ≠ a) :
    (s.store a input).graph.ReadsThrough b a ↔ s.graph.ReadsThrough b a := by
  have hreads : ∀ x, x ≠ a → (s.store a input).graph.readsOf x = s.graph.readsOf x :=
    fun x hx => (stores_store s a input).readsOf_of_ne (Ne.symm hx)
  exact ⟨fun h => h.of_agree (fun x hx => (hreads x hx).symm) hb, fun h => h.of_agree hreads hb⟩

/-- A cell other than the one written is soiled if it reads it, and else left as it is. -/
theorem cells_set_of_ne {s : Sheet} (hs : Linked s) {a b : Address} (input : Input) (hb : b ≠ a) :
    (s.graph.ReadsThrough b a → (s.set a input).cells[b]? = s.cells[b]?.map Cell.soil) ∧
      (¬ s.graph.ReadsThrough b a → (s.set a input).cells[b]? = s.cells[b]?) := by
  have hread := readsThrough_store_iff (s := s) input hb
  refine ⟨fun h => ?_, fun h => ?_⟩
  · have hmem : b ∈ ((s.store a input).graph.allReaders a).erase a := by
      rw [Std.ExtTreeSet.mem_erase, Graph.mem_allReaders_iff (hs.store a input).mirrored]
      exact ⟨by simpa using hb.symm, hread.2 h⟩
    rw [set, cells_soil, if_pos hmem, (stores_store s a input).cells_of_ne (Ne.symm hb)]
  · exact cells_set_of_not_reads hs input (Ne.symm hb) fun h' => h (hread.1 h')

/-- What a write does to a cell other than the one written depends on who reads that one only. -/
theorem cells_set_eq_map {s : Sheet} (hs : Linked s) {a b : Address} (input : Input) (hb : b ≠ a) :
    (s.set a input).cells[b]? =
      s.cells[b]?.map (if b ∈ s.graph.allReaders a then Cell.soil else id) := by
  obtain ⟨hsoil, hsame⟩ := cells_set_of_ne hs input hb
  split
  · next hread => exact hsoil ((Graph.mem_allReaders_iff hs.mirrored).1 hread)
  · next hread =>
    rw [hsame fun h => hread ((Graph.mem_allReaders_iff hs.mirrored).2 h), Option.map_id_apply]

/-- `s'` is `s` after a write to `a` that is local. -/
structure LocalWrite (s : Sheet) (a : Address) (s' : Sheet) : Prop where
  /-- The cells other than `a` that read `a` are those that did before. -/
  readsThrough_iff : ∀ b, b ≠ a → (s'.graph.ReadsThrough b a ↔ s.graph.ReadsThrough b a)
  /-- Dirty is `a` if it holds a formula now, and every other formula that was dirty or reads
  `a`. -/
  isDirty_iff : ∀ b, s'.isDirty b = true ↔
    b = a ∧ a ∈ s'.formulas ∨
      b ≠ a ∧ b ∈ s.formulas ∧ (s.isDirty b = true ∨ s.graph.ReadsThrough b a)
  /-- Nothing is evaluated: a formula that has a value is one that had it before. -/
  kept : ∀ (b : Address) (f : Formula) (v : Value), s'.cells[b]? = some (.formula f) →
    f.cached = some v → s.cells[b]? = some (.formula f)
  /-- What does not read `a` keeps its cell, what it reads, and all that read it other than `a`. -/
  cells : ∀ b, b ≠ a → ¬ s.graph.ReadsThrough b a → s'.cells[b]? = s.cells[b]?
  readsOf : ∀ b, b ≠ a → ¬ s.graph.ReadsThrough b a → s'.readsOf b = s.readsOf b
  readersOf : ∀ b, b ≠ a → ¬ s.graph.ReadsThrough b a →
    ∀ c, c ≠ a → (c ∈ s'.readersOf b ↔ c ∈ s.readersOf b)
  /-- What does not read `a` has the value that it had. -/
  get : ∀ b, b ≠ a → ¬ s.graph.ReadsThrough b a → (s'.get b).1 = (s.get b).1

/-- A cell that does not read the cell written has the value that it had. -/
theorem get_set_of_not_reads {s : Sheet} (hl : Linked s) (hs : Settled s) {a b : Address}
    (input : Input) (hb : b ≠ a) (hread : ¬ s.graph.ReadsThrough b a) :
    ((s.set a input).get b).1 = (s.get b).1 := by
  have hold := isValuation_get hl hs
  have hnew := isValuation_get (hl.set a input) (hs.set hl a input)
  induction b using hl.acyclic.wellFounded.induction with
  | _ b ih =>
    have hreads : ∀ c, s.graph.Reads b c → ((s.set a input).get c).1 = (s.get c).1 := by
      intro c hbc
      refine ih c hbc ?_ fun h => hread (h.head hbc)
      rintro rfl
      exact hread (.single hbc)
    calc ((s.set a input).get b).1
        = Cell.valueFrom (s.set a input).options.average (fun c => ((s.set a input).get c).1)
            (s.set a input).cells[b]? := hnew b
      _ = Cell.valueFrom s.options.average (fun c => ((s.set a input).get c).1) s.cells[b]? := by
        rw [options_set, (cells_set_of_ne hl input hb).2 hread]
      _ = Cell.valueFrom s.options.average (fun c => (s.get c).1) s.cells[b]? :=
        hl.valueFrom_congr hreads
      _ = (s.get b).1 := (hold b).symm

theorem isDirty_map_soil_iff {s s' : Sheet} {b : Address}
    (h : s'.cells[b]? = s.cells[b]?.map Cell.soil) : s'.isDirty b = true ↔ b ∈ s.formulas := by
  rw [isDirty_iff, mem_formulas_iff, h]
  constructor
  · rintro ⟨f, hf, -⟩
    rcases hb : s.cells[b]? with _ | (v | g | ⟨source, error⟩)
    · rw [hb] at hf; cases hf
    · rw [hb] at hf; cases hf
    · exact ⟨g, rfl⟩
    · rw [hb] at hf; cases hf
  · rintro ⟨f, hf⟩
    exact ⟨{ f with cached := none }, by rw [hf]; rfl, rfl⟩

/-- After a write the cell written is dirty if it holds a formula. -/
theorem isDirty_set_self_iff {s : Sheet} {a : Address} {input : Input} :
    (s.set a input).isDirty a = true ↔ a ∈ (s.set a input).formulas := by
  rw [isDirty_iff, mem_formulas_iff]
  refine ⟨fun ⟨f, hf, _⟩ => ⟨f, hf⟩, fun ⟨f, hf⟩ => ⟨f, hf, ?_⟩⟩
  rw [cells_set_self] at hf
  obtain ⟨source, e, -, -, rfl⟩ := entry_formula hf
  rfl

theorem mem_formulas_of_isDirty {s : Sheet} {a : Address} (h : s.isDirty a = true) :
    a ∈ s.formulas := by
  obtain ⟨f, hf, -⟩ := isDirty_iff.1 h
  exact mem_formulas_iff.2 ⟨f, hf⟩

theorem isDirty_set_iff {s : Sheet} (hl : Linked s) {a b : Address} (input : Input) :
    (s.set a input).isDirty b = true ↔
      b = a ∧ a ∈ (s.set a input).formulas ∨
        b ≠ a ∧ b ∈ s.formulas ∧ (s.isDirty b = true ∨ s.graph.ReadsThrough b a) := by
  by_cases hb : b = a
  · subst hb
    rw [isDirty_set_self_iff]
    simp
  · obtain ⟨hsoil, hsame⟩ := cells_set_of_ne hl input hb
    by_cases hread : s.graph.ReadsThrough b a
    · rw [isDirty_map_soil_iff (hsoil hread)]
      simp [hb, hread]
    · rw [isDirty_congr (hsame hread)]
      simp only [hb, hread, false_and, false_or, or_false, ne_eq, not_false_eq_true, true_and]
      exact ⟨fun h => ⟨mem_formulas_of_isDirty h, h⟩, fun h => h.2⟩

theorem localWrite_set {s : Sheet} (hl : Linked s) (hs : Settled s) (a : Address) (input : Input) :
    LocalWrite s a (s.set a input) where
  readsThrough_iff b hb := readsThrough_store_iff input hb
  isDirty_iff b := isDirty_set_iff hl input
  kept b f v hf hv := by
    obtain ⟨hab, hread⟩ := not_reads_of_cached hl hf hv
    rwa [cells_set_of_not_reads hl input hab hread] at hf
  cells b hb hread := (cells_set_of_ne hl input hb).2 hread
  readsOf b hb _ := by
    have h := (stores_store s a input).readsOf_of_ne (Ne.symm hb)
    exact congrArg Std.ExtTreeSet.toList h
  readersOf b _ _ c hc := by
    have hread := (stores_store s a input).readsOf_of_ne (Ne.symm hc)
    have hmirrored : (s.set a input).graph.Mirrored := (hl.set a input).mirrored
    rw [Sheet.readersOf, Sheet.readersOf, Std.ExtTreeSet.mem_toList, Std.ExtTreeSet.mem_toList,
      hmirrored.mem_readersOf, hl.mirrored.mem_readersOf]
    show b ∈ (s.store a input).graph.readsOf c ↔ b ∈ s.graph.readsOf c
    rw [hread]
  get b hb hread := get_set_of_not_reads hl hs input hb hread

/-- **Dirty marks are exact and writes are local**: after every run, a write soils exactly what
reads its cell, and touches nothing else. -/
theorem localWrite_run (o : Options) (actions : List Action) (a : Address) (input : Input) :
    LocalWrite (run o actions) a ((run o actions).set a input) :=
  localWrite_set (linked_run o actions) (settled_run o actions) a input

end Sheet

end Worksheet
