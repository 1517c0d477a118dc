import Worksheet.Proofs.Sheet.Cleaning
import Worksheet.Proofs.Sheet.Consistency
import Worksheet.Proofs.Sheet.Locality

/-!
# Rejected formulas

A rejected formula behaves like the error that it is rejected with, written as a value
(`rejected_run`).  Two sheets are `Paired` if they differ at most in that one of them holds the
formula at a cell and the other the error.  Writing the two pairs the sheets, whichever way the
formula came to be rejected (`paired_set`); every action keeps them paired (`Paired.perform`), and
nothing but the text of the cell tells them apart (`Paired.sameAnswers`).
-/

namespace Worksheet

/-! ### Sessions -/

/-- A sheet and the snapshots taken of it. -/
structure Session where
  sheet : Sheet
  taken : List Snapshot

namespace Session

/-- What a user does who takes snapshots on the way. -/
inductive Step where
  /-- Any action, also restoring a snapshot from before the session. -/
  | act (action : Sheet.Action)
  | take (a : Address)
  /-- Restores the snapshot with this number among those taken. -/
  | putBack (n : Nat)

/-- The session after a step. -/
def step (w : Session) : Step → Session
  | .act action => { w with sheet := w.sheet.perform action }
  | .take a => { w with taken := w.taken ++ [w.sheet.snapshot a] }
  | .putBack n =>
    match w.taken[n]? with
    | none => w
    | some snap => { w with sheet := w.sheet.restore snap }

/-- The session after some steps, from a sheet of which no snapshot has been taken. -/
def play (s : Sheet) (steps : List Step) : Session :=
  steps.foldl step ⟨s, []⟩

theorem play_concat (s : Sheet) (steps : List Step) (next : Step) :
    play s (steps ++ [next]) = (play s steps).step next :=
  List.foldl_concat ..

end Session

namespace Sheet

/-! ### A formula and its error -/

/-- The cell holds the formula, rejected with the error, in one sheet and the error as a value in
the other. -/
def Parted (a : Address) (source : String) (error : CellError) (s t : Sheet) : Prop :=
  s.cells[a]? = some (.rejected source error) ∧ t.cells[a]? = some (.value (.error error))

/-- The two sheets are the same, but the cell may hold the formula in one and the error in the
other. -/
structure Paired (a : Address) (source : String) (error : CellError) (s t : Sheet) : Prop where
  linked : Linked s
  settled : Settled s
  linked' : Linked t
  settled' : Settled t
  options : t.options = s.options
  graph : t.graph = s.graph
  cells : ∀ b : Address, t.cells[b]? = s.cells[b]? ∨ b = a ∧ Parted a source error s t

/-- A formula that is rejected and its error, written into the same sheet. -/
theorem paired_set {s : Sheet} (hl : Linked s) (hs : Settled s) {a : Address} {source : String}
    {error : CellError}
    (h : (s.set a (.formula source)).cells[a]? = some (.rejected source error)) :
    Paired a source error (s.set a (.formula source)) (s.set a (.value (.error error))) where
  linked := hl.set a _
  settled := hs.set hl a _
  linked' := hl.set a _
  settled' := hs.set hl a _
  options := by rw [options_set, options_set]
  graph := by
    refine (hl.set a _).mirrored.eq_of_readsOf (hl.set a _).mirrored fun b => ?_
    rw [cells_set_self] at h
    rw [readsOf_set, readsOf_set, h]
    rfl
  cells b := by
    by_cases hb : b = a
    · exact Or.inr ⟨hb, h, cells_set_self s a (.value (.error error))⟩
    · exact Or.inl ((cells_set_eq_map hl _ hb).trans (cells_set_eq_map hl _ hb).symm)

section Paired

variable {a : Address} {source : String} {error : CellError} {s t : Sheet}
  (h : Paired a source error s t)
include h

/-- What does not tell a rejected formula from its error is the same in both sheets. -/
theorem Paired.congr {α : Type} (f : Option Cell → α)
    (hf : f (some (.value (.error error))) = f (some (.rejected source error))) (b : Address) :
    f t.cells[b]? = f s.cells[b]? := by
  rcases h.cells b with heq | ⟨rfl, hs, ht⟩
  · rw [heq]
  · rw [hs, ht, hf]

theorem Paired.isDirty_eq (b : Address) : t.isDirty b = s.isDirty b :=
  h.congr (Option.any Cell.isDirty) rfl b

theorem Paired.get_eq (b : Address) : (t.get b).1 = (s.get b).1 :=
  get_eq_of_valueFrom h.linked h.settled h.linked' h.settled' (fun view c => by
    rw [h.options]
    exact h.congr (Cell.valueFrom s.options.average view) rfl c) b

theorem Paired.entry_eq (b : Address) (input : Input) : t.entry b input = s.entry b input :=
  entry_congr h.linked h.linked' h.options (fun c _ => by rw [h.graph]) input

/-- A change that treats a cell alike in both sheets keeps them as they were to each other there, if
it does nothing to a rejected formula and to an error. -/
theorem Paired.cells_of_map {s' t' : Sheet} {b : Address} (f : Cell → Cell)
    (hrejected : f (.rejected source error) = .rejected source error)
    (hvalue : f (.value (.error error)) = .value (.error error))
    (hs : s'.cells[b]? = s.cells[b]?.map f) (ht : t'.cells[b]? = t.cells[b]?.map f) :
    t'.cells[b]? = s'.cells[b]? ∨ b = a ∧ Parted a source error s' t' := by
  rcases h.cells b with heq | ⟨rfl, hs₀, ht₀⟩
  · exact Or.inl (by rw [hs, ht, heq])
  · refine Or.inr ⟨rfl, ?_, ?_⟩
    · rw [hs, hs₀, Option.map_some, hrejected]
    · rw [ht, ht₀, Option.map_some, hvalue]

/-! ### Every action keeps sheets paired -/

theorem Paired.set (b : Address) (input : Input) :
    Paired a source error (s.set b input) (t.set b input) where
  linked := h.linked.set b input
  settled := h.settled.set h.linked b input
  linked' := h.linked'.set b input
  settled' := h.settled'.set h.linked' b input
  options := by rw [options_set, options_set, h.options]
  graph := by
    refine (h.linked.set b input).mirrored.eq_of_readsOf (h.linked'.set b input).mirrored
      fun c => ?_
    rw [readsOf_set, readsOf_set, h.entry_eq, h.graph]
  cells c := by
    by_cases hc : c = b
    · subst hc
      exact Or.inl (by rw [cells_set_self, cells_set_self, h.entry_eq])
    · have hcells' := cells_set_eq_map h.linked' input hc
      rw [h.graph] at hcells'
      refine h.cells_of_map _ ?_ ?_ (cells_set_eq_map h.linked input hc) hcells'
      · split
        · rfl
        · rfl
      · split
        · rfl
        · rfl

theorem Paired.recalculate : Paired a source error s.recalculate t.recalculate where
  linked := h.linked.of_sameContent (sameContent_recalculate s)
  settled := settled_recalculate s
  linked' := h.linked'.of_sameContent (sameContent_recalculate t)
  settled' := settled_recalculate t
  options := h.options
  graph := h.graph
  cells b := h.cells_of_map Cell.soil rfl rfl (cells_recalculate s b) (cells_recalculate t b)

theorem Paired.get (b : Address) : Paired a source error (s.get b).2 (t.get b).2 := by
  obtain ⟨hs, hsettled⟩ := onlyCleans_get h.linked h.settled b
  obtain ⟨ht, hsettled'⟩ := onlyCleans_get h.linked' h.settled' b
  have hdirty : ∀ c, (t.get b).2.isDirty c = (s.get b).2.isDirty c := by
    intro c
    rw [Bool.eq_iff_iff, ht.isDirty_iff, hs.isDirty_iff, h.isDirty_eq, h.graph]
  refine ⟨h.linked.of_sameContent hs.sameContent, hsettled, h.linked'.of_sameContent ht.sameContent,
    hsettled', by rw [ht.options, hs.options, h.options], by rw [ht.graph, hs.graph, h.graph],
    fun c => ?_⟩
  have hcells := cells_get h.linked h.settled b c
  have hcells' := cells_get h.linked' h.settled' b c
  rw [hdirty, h.get_eq] at hcells'
  refine h.cells_of_map _ ?_ ?_ hcells hcells'
  · simp only [Cell.soil, Cell.remember, ite_self]
  · simp only [Cell.soil, Cell.remember, ite_self]

theorem Paired.perform (action : Action) :
    Paired a source error (s.perform action) (t.perform action) := by
  cases action with
  | set b input => exact h.set b input
  | clear b => exact h.set b .empty
  | restore snap => exact h.set snap.address snap.content.toInput
  | recalculate => exact h.recalculate
  | get b => exact h.get b

/-! ### What a reader finds -/

theorem Paired.mem_cells_iff (b : Address) : b ∈ t.cells ↔ b ∈ s.cells := by
  rw [Std.ExtTreeMap.mem_iff_isSome_getElem?, Std.ExtTreeMap.mem_iff_isSome_getElem?,
    h.congr Option.isSome rfl b]

theorem Paired.formulas_eq : t.formulas = s.formulas := by
  refine AddressMap.keys_eq_of_mem_iff fun b => ?_
  rw [Std.ExtTreeMap.mem_iff_isSome_getElem?, Std.ExtTreeMap.mem_iff_isSome_getElem?,
    Std.ExtTreeMap.getElem?_filter', Std.ExtTreeMap.getElem?_filter',
    h.congr (fun stored => (stored.filter Cell.isFormula).isSome) rfl b]

theorem Paired.cells_eq (hnot : ¬ Parted a source error s t) (b : Address) :
    t.cells[b]? = s.cells[b]? :=
  (h.cells b).resolve_right fun hparted => hnot hparted.2

theorem Paired.cells_eq_of_ne {b : Address} (hb : b ≠ a) : t.cells[b]? = s.cells[b]? :=
  (h.cells b).resolve_right fun hparted => hb hparted.1

end Paired

/-- A reader who asks for no text of a formula gets the same answers from both sheets. -/
structure SameAnswers (s t : Sheet) : Prop where
  get : ∀ a, (t.get a).1 = (s.get a).1
  readsOf : ∀ a, t.readsOf a = s.readsOf a
  readersOf : ∀ a, t.readersOf a = s.readersOf a
  formulas : t.formulas = s.formulas
  used : t.used = s.used
  isDirty : ∀ a, t.isDirty a = s.isDirty a
  size : t.size = s.size
  graphAgrees : t.graphAgrees = s.graphAgrees

theorem Paired.sameAnswers {a : Address} {source : String} {error : CellError} {s t : Sheet}
    (h : Paired a source error s t) : SameAnswers s t where
  get := h.get_eq
  readsOf b := by rw [Sheet.readsOf, Sheet.readsOf, h.graph]
  readersOf b := by rw [Sheet.readersOf, Sheet.readersOf, h.graph]
  formulas := h.formulas_eq
  used := AddressMap.keys_eq_of_mem_iff h.mem_cells_iff
  isDirty := h.isDirty_eq
  size := AddressMap.size_eq_of_mem_iff h.mem_cells_iff
  graphAgrees := by rw [graphAgrees_of_linked h.linked', graphAgrees_of_linked h.linked]

/-- Of all cells but this one also the texts and the snapshots are the same. -/
structure SameTextsBut (a : Address) (s t : Sheet) : Prop where
  source? : ∀ b, b ≠ a → t.source? b = s.source? b
  editText : ∀ b, b ≠ a → t.editText b = s.editText b
  snapshot : ∀ b, b ≠ a → t.snapshot b = s.snapshot b

theorem Paired.sameTextsBut {a : Address} {source : String} {error : CellError} {s t : Sheet}
    (h : Paired a source error s t) : SameTextsBut a s t where
  source? b hb := by rw [Sheet.source?, Sheet.source?, h.cells_eq_of_ne hb]
  editText b hb := by rw [Sheet.editText, Sheet.editText, h.cells_eq_of_ne hb]
  snapshot b hb := by rw [Sheet.snapshot, Sheet.snapshot, h.cells_eq_of_ne hb]

/-! ### Whole sessions -/

/-- **Sessions stay paired**, with the same snapshots, if none is taken of a cell that the sheets
hold differently. -/
theorem paired_play {a : Address} {source : String} {error : CellError} {s t : Sheet}
    (h : Paired a source error s t) {steps : List Session.Step}
    (htake : ∀ before after, steps = before ++ .take a :: after →
      ¬ Parted a source error (Session.play s before).sheet (Session.play t before).sheet) :
    Paired a source error (Session.play s steps).sheet (Session.play t steps).sheet ∧
      (Session.play t steps).taken = (Session.play s steps).taken := by
  induction steps using List.reverseRecOn with
  | nil => exact ⟨h, rfl⟩
  | append_singleton steps next ih =>
    obtain ⟨hpaired, htaken⟩ := ih fun before after hsplit =>
      htake before (after ++ [next]) (by rw [hsplit]; simp)
    rw [Session.play_concat, Session.play_concat]
    cases next with
    | act action => exact ⟨hpaired.perform action, htaken⟩
    | take b =>
      refine ⟨hpaired, ?_⟩
      have hcell : (Session.play t steps).sheet.cells[b]? =
          (Session.play s steps).sheet.cells[b]? := by
        by_cases hb : b = a
        · exact hpaired.cells_eq (htake steps [] (by rw [hb])) b
        · exact hpaired.cells_eq_of_ne hb
      simp only [Session.step, htaken, Sheet.snapshot, hcell]
    | putBack n =>
      simp only [Session.step, htaken]
      split
      · exact ⟨hpaired, htaken⟩
      · exact ⟨hpaired.set _ _, rfl⟩

/-- **A rejected formula behaves like its error**: after every run, writing a formula that is
rejected and writing its error as a value leave sheets that no reader can tell apart but by the text
of the cell, at once and after every session that goes on the same way in both.  Its snapshots may
be of any cell at any time, but not of this one while the one sheet holds the formula and the other
the error. -/
theorem rejected_run (o : Options) (actions : List Action) {a : Address} {source : String}
    {error : CellError}
    (hrejected : ((run o actions).set a (.formula source)).cells[a]? =
      some (.rejected source error))
    {steps : List Session.Step}
    (htake : ∀ before after, steps = before ++ .take a :: after →
      ¬ Parted a source error
        (Session.play ((run o actions).set a (.formula source)) before).sheet
        (Session.play ((run o actions).set a (.value (.error error))) before).sheet) :
    SameAnswers (Session.play ((run o actions).set a (.formula source)) steps).sheet
        (Session.play ((run o actions).set a (.value (.error error))) steps).sheet ∧
      SameTextsBut a (Session.play ((run o actions).set a (.formula source)) steps).sheet
        (Session.play ((run o actions).set a (.value (.error error))) steps).sheet := by
  have h := paired_set (linked_run o actions) (settled_run o actions) hrejected
  obtain ⟨hpaired, -⟩ := paired_play h htake
  exact ⟨hpaired.sameAnswers, hpaired.sameTextsBut⟩

/-- `A1` reads `B1`. -/
def readsNext : List Action :=
  [.set ⟨0, 0⟩ (.formula "=B1")]

/-- Both cells are put back as they were at some time, `B1` as it was once it had been cleared. -/
def putBoth : List Session.Step :=
  [.act (.get ⟨0, 0⟩), .take ⟨0, 0⟩, .act (.clear ⟨0, 1⟩), .take ⟨0, 1⟩, .putBack 0, .putBack 1]

/-- The formula `=A1` cannot stand in `B1`. -/
theorem rejected_run_of_circle :
    SameAnswers
      (Session.play ((run {} readsNext).set ⟨0, 1⟩ (.formula "=A1")) putBoth).sheet
      (Session.play ((run {} readsNext).set ⟨0, 1⟩ (.value (.error .circular))) putBoth).sheet := by
  have hrejected : ((run {} readsNext).set ⟨0, 1⟩ (.formula "=A1")).cells[(⟨0, 1⟩ : Address)]? =
      some (.rejected "=A1" .circular) := by cbv
  have hcleared : (Session.play ((run {} readsNext).set ⟨0, 1⟩ (.formula "=A1"))
      [.act (.get ⟨0, 0⟩), .take ⟨0, 0⟩, .act (.clear ⟨0, 1⟩)]).sheet.cells[(⟨0, 1⟩ : Address)]? =
        none := by cbv
  refine (rejected_run {} readsNext hrejected fun before after hsplit => ?_).1
  -- the only snapshot of `B1` is the one after the first three steps
  obtain ⟨hbefore, -⟩ : before = [.act (.get ⟨0, 0⟩), .take ⟨0, 0⟩, .act (.clear ⟨0, 1⟩)] ∧
      after = [.putBack 0, .putBack 1] := by
    simpa [putBoth, List.cons_eq_append_iff] using hsplit
  rintro ⟨hformula, -⟩
  rw [hbefore, hcleared] at hformula
  cases hformula

end Sheet

end Worksheet
