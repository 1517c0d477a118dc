import Worksheet.Evaluation

/-!
# Evaluation reads the dependencies and nothing else

Evaluation reads cells and computes with what it has read; it does not look at anything else.  So a
relation between computations that returning and sequencing keep (`Coupling`) holds of two
evaluations as soon as it holds of the reads of the cells that the expression names
(`Coupling.evaluate`).  Two such relations are used: that a computation leaves a state alone
(`run_value`), and that two computations give the same value from states that agree
(`determined_by_dependencies`).
-/

namespace Worksheet

/-! ### Computations in two monads -/

/-- A relation between the computations of two monads that returning and sequencing keep.  Related
computations go on with the same result. -/
structure Coupling (m m' : Type → Type) [Monad m] [Monad m'] where
  Rel : ∀ {α : Type}, m α → m' α → Prop
  pure : ∀ {α : Type} (a : α), Rel (Pure.pure a) (Pure.pure a)
  bind : ∀ {α β : Type} {x : m α} {x' : m' α} {f : α → m β} {f' : α → m' β},
    Rel x x' → (∀ a, Rel (f a) (f' a)) → Rel (x >>= f) (x' >>= f')

namespace Coupling

section Evaluate

variable {m m' : Type → Type} [Monad m] [Monad m'] (c : Coupling m m')
  {read : Address → m Value} {read' : Address → m' Value} (ifEmpty : EmptyAverage)

theorem mapM_loop {cells : List Address} (h : ∀ a ∈ cells, c.Rel (read a) (read' a))
    (found : List Value) :
    c.Rel (List.mapM.loop read cells found) (List.mapM.loop read' cells found) := by
  induction cells generalizing found with
  | nil => exact c.pure _
  | cons a rest ih =>
    refine c.bind (h a List.mem_cons_self) fun v => ?_
    exact ih (fun b hb => h b (List.mem_cons_of_mem a hb)) (v :: found)

theorem mapM {cells : List Address} (h : ∀ a ∈ cells, c.Rel (read a) (read' a)) :
    c.Rel (cells.mapM read) (cells.mapM read') :=
  c.mapM_loop h []

mutual

/-- **Evaluations are related as the reads are.** -/
theorem evaluate (e : Expr) (h : ∀ a ∈ e.reads, c.Rel (read a) (read' a)) :
    c.Rel (e.evaluate ifEmpty read) (e.evaluate ifEmpty read') := by
  match e with
  | .literal v =>
    rw [Expr.evaluate, Expr.evaluate]
    exact c.pure _
  | .cell a =>
    rw [Expr.evaluate, Expr.evaluate]
    exact c.bind (h a (by simp [Expr.reads])) fun v => c.pure _
  | .range r =>
    rw [Expr.evaluate, Expr.evaluate]
    exact c.bind (c.mapM h) fun values => c.pure _
  | .binary op left right =>
    rw [Expr.evaluate, Expr.evaluate]
    refine c.bind (evaluate left fun a ha => h a (by simp [Expr.reads, ha])) fun x => ?_
    exact c.bind (evaluate right fun a ha => h a (by simp [Expr.reads, ha])) fun y => c.pure _
  | .call name args =>
    rw [Expr.evaluate, Expr.evaluate]
    cases Function.ofName? name with
    | none => exact c.pure _
    | some f =>
      dsimp only
      split
      · have hargs := evaluateAll args fun a ha => h a (by simpa [Expr.reads] using ha)
        exact c.bind hargs fun values => c.pure _
      -- a wrong number of arguments, so none of them is looked at
      · exact c.pure _

theorem evaluateAll (args : List Expr)
    (h : ∀ a ∈ Expr.readsAll args, c.Rel (read a) (read' a)) :
    c.Rel (Expr.evaluateAll ifEmpty read args) (Expr.evaluateAll ifEmpty read' args) := by
  match args with
  | [] =>
    rw [Expr.evaluateAll, Expr.evaluateAll]
    exact c.pure _
  | arg :: rest =>
    rw [Expr.evaluateAll, Expr.evaluateAll]
    refine c.bind (evaluate arg fun a ha => h a (by simp [Expr.readsAll, ha])) fun first => ?_
    refine c.bind (evaluateAll rest fun a ha => h a (by simp [Expr.readsAll, ha])) fun others => ?_
    exact c.pure _

end

/-- A cell under evaluation is not read, so it reads the same on both sides. -/
theorem guard (stack : Stack) {a : Address} (h : c.Rel (read a) (read' a)) :
    c.Rel (stack.guard read a) (stack.guard read' a) := by
  unfold Stack.guard
  split
  · exact c.pure _
  · exact h

end Evaluate

variable {σ σ' : Type}

/-- The computation gives this result and leaves the state alone. -/
def unchanged (s : σ) : Coupling (StateM σ) Id where
  Rel x a := x.run s = (a, s)
  pure _ := rfl
  bind {α β x a f b} hx hf := by
    rw [StateT.run_bind, hx]
    exact hf a

/-- Both computations are the same. -/
def equal (m : Type → Type) [Monad m] : Coupling m m where
  Rel x x' := x = x'
  pure _ := rfl
  bind hx hf := by rw [hx, funext hf]

end Coupling

/-- From states that agree the two computations give the same result and end in states that
agree. -/
def SameResults {σ σ' α : Type} (agree : σ → σ' → Prop) (x : StateM σ α) (x' : StateM σ' α) :
    Prop :=
  ∀ s s', agree s s' → (x.run s).1 = (x'.run s').1 ∧ agree (x.run s).2 (x'.run s').2

/-- Both computations go along with the agreement of their states. -/
def Coupling.sameResults {σ σ' : Type} (agree : σ → σ' → Prop) :
    Coupling (StateM σ) (StateM σ') where
  Rel x x' := SameResults agree x x'
  pure _ _ _ hs := ⟨rfl, hs⟩
  bind {α β x x' f f'} hx hf s s' hs := by
    obtain ⟨hresult, hstate⟩ := hx s s' hs
    have hrun : (x >>= f).run s = (f (x.run s).1).run (x.run s).2 := rfl
    have hrun' : (x' >>= f').run s' = (f' (x.run s).1).run (x'.run s').2 := by
      rw [hresult]
      rfl
    rw [hrun, hrun']
    exact hf (x.run s).1 _ _ hstate

namespace Expr

variable (ifEmpty : EmptyAverage)

theorem mem_dependencies {e : Expr} {a : Address} : a ∈ e.dependencies ↔ a ∈ e.reads := by
  rw [dependencies, Std.ExtTreeSet.mem_ofList, List.contains_iff_mem]

/-- **Evaluation over a state that reads do not change** is evaluation over the values read. -/
theorem run_value {σ : Type} {s : σ} {read : Address → StateM σ Value} {view : Address → Value}
    (e : Expr) (h : ∀ a ∈ e.reads, (read a).run s = (view a, s)) :
    (e.value ifEmpty read).run s = (e.value (m := Id) ifEmpty view, s) := by
  have hrun : (e.evaluate ifEmpty read).run s = (e.evaluate (m := Id) ifEmpty view, s) :=
    (Coupling.unchanged s).evaluate ifEmpty e h
  rw [value, StateT.run_map, hrun]
  rfl

/-- Two valuations that agree on the cells read give the same value. -/
theorem value_congr {e : Expr} {view view' : Address → Value}
    (h : ∀ a ∈ e.reads, view a = view' a) :
    e.value (m := Id) ifEmpty view = e.value (m := Id) ifEmpty view' :=
  congrArg Result.toScalar ((Coupling.equal Id).evaluate ifEmpty e h)

/-! ### Evaluation over given values -/

/-- What holds of an operation if it holds of its operands, and of a call if it holds of its
arguments, holds of every expression. -/
@[elab_as_elim]
theorem induction {P : Expr → Prop} (literal : ∀ v, P (.literal v)) (cell : ∀ a, P (.cell a))
    (range : ∀ r, P (.range r))
    (binary : ∀ op left right, P left → P right → P (.binary op left right))
    (call : ∀ name args, (∀ arg ∈ args, P arg) → P (.call name args)) (e : Expr) : P e := by
  cases e with
  | literal v => exact literal v
  | cell a => exact cell a
  | range r => exact range r
  | binary op left right =>
    exact binary op left right (induction literal cell range binary call left)
      (induction literal cell range binary call right)
  | call name args =>
    exact call name args fun arg _ => induction literal cell range binary call arg

theorem readsAll_eq_flatMap (args : List Expr) : readsAll args = args.flatMap reads := by
  induction args with
  | nil => rfl
  | cons arg rest ih => rw [readsAll, ih, List.flatMap_cons]

section Values

variable (view : Address → Value)

theorem evaluate_literal (v : Value) :
    (literal v).evaluate (m := Id) ifEmpty view = .scalar v := by
  rw [evaluate]
  rfl

theorem evaluate_cell (a : Address) :
    (cell a).evaluate (m := Id) ifEmpty view = .scalar (view a) := by
  rw [evaluate]
  rfl

theorem evaluate_range (r : Range) :
    (range r).evaluate (m := Id) ifEmpty view =
      .list ((r.cells.map view).filter fun v => !v.isEmpty) := by
  have hread : r.cells.mapM (m := Id) view = r.cells.map view := List.mapM_pure
  rw [evaluate, hread]
  rfl

theorem evaluate_binary (op : Operator) (left right : Expr) :
    (binary op left right).evaluate (m := Id) ifEmpty view =
      .scalar (op.apply (left.evaluate (m := Id) ifEmpty view).toScalar
        (right.evaluate (m := Id) ifEmpty view).toScalar) := by
  rw [evaluate]
  rfl

/-- The values that a function is given for these arguments. -/
def argumentValues (args : List Expr) : List Value :=
  evaluateAll (m := Id) ifEmpty view args

theorem argumentValues_eq_flatMap (args : List Expr) :
    argumentValues ifEmpty view args =
      args.flatMap fun arg => (arg.evaluate (m := Id) ifEmpty view).values := by
  rw [argumentValues]
  induction args with
  | nil =>
    rw [evaluateAll]
    rfl
  | cons arg rest ih =>
    rw [evaluateAll, ih, List.flatMap_cons]
    rfl

/-- Without a function of this name nothing is looked at. -/
theorem evaluate_call_of_none {name : String} (hname : Function.ofName? name = none)
    (args : List Expr) :
    (call name args).evaluate (m := Id) ifEmpty view = .scalar (.error .unknownName) := by
  rw [evaluate, hname]
  rfl

/-- A call gives what the function gives for the values of the arguments, if there may be so
many. -/
theorem evaluate_call_of_some {name : String} {f : Function}
    (hname : Function.ofName? name = some f)
    (args : List Expr) :
    (call name args).evaluate (m := Id) ifEmpty view =
      .scalar (if f.arity.accepts args.length then
        f.apply ifEmpty (argumentValues ifEmpty view args) else .error .badValue) := by
  rw [evaluate, hname, argumentValues]
  dsimp only
  split
  · rfl
  · rfl

end Values

/-! ### Cells that an evaluation reads -/

/-- Reads a cell and notes that it has been read. -/
def noting (view : Address → Value) (a : Address) : StateM (List Address) Value := do
  modify (a :: ·)
  return view a

/-- The same cells have been noted, all of them dependencies of the expression. -/
def NotedWithin (e : Expr) (noted noted' : List Address) : Prop :=
  noted = noted' ∧ ∀ a ∈ noted, a ∈ e.dependencies

/-- **An expression depends on nothing but its dependencies**, whatever cells are under evaluation.
Where the values of the dependencies are the same, so is the result, one value or those of a range;
this holds as well when reading a cell changes a state, as long as it goes the same way on both
sides.  And no cell is read that is not among the dependencies. -/
theorem determined_by_dependencies (stack : Stack) (e : Expr) :
    (∀ view view' : Address → Value, (∀ a ∈ e.dependencies, view a = view' a) →
      e.evaluate (m := Id) ifEmpty (stack.guard (m := Id) view) =
        e.evaluate (m := Id) ifEmpty (stack.guard (m := Id) view')) ∧
    (∀ (σ σ' : Type) (agree : σ → σ' → Prop) (read : Address → StateM σ Value)
      (read' : Address → StateM σ' Value),
      (∀ a ∈ e.dependencies, SameResults agree (read a) (read' a)) →
      SameResults agree (e.evaluate ifEmpty (stack.guard read))
        (e.evaluate ifEmpty (stack.guard read'))) ∧
    ∀ (view : Address → Value), ∀ a ∈ ((e.evaluate ifEmpty (noting view)).run []).2,
      a ∈ e.dependencies := by
  refine ⟨fun view view' h => ?_, fun σ σ' agree read read' h => ?_, fun view a ha => ?_⟩
  · exact (Coupling.equal Id).evaluate ifEmpty e fun a ha =>
      (Coupling.equal Id).guard stack (h a (mem_dependencies.2 ha))
  · exact (Coupling.sameResults agree).evaluate ifEmpty e fun a ha =>
      (Coupling.sameResults agree).guard stack (h a (mem_dependencies.2 ha))
  · have hread : ∀ a ∈ e.reads, SameResults e.NotedWithin (noting view a) (noting view a) := by
      rintro a ha noted _ ⟨rfl, hnoted⟩
      exact ⟨rfl, rfl, List.forall_mem_cons.2 ⟨mem_dependencies.2 ha, hnoted⟩⟩
    have hrun := (Coupling.sameResults e.NotedWithin).evaluate ifEmpty e hread
    exact (hrun [] [] ⟨rfl, fun _ => nofun⟩).2.2 a ha

/-- The values of the two cells in a range are all true, which is compared with a third cell. -/
def allTrue : Expr :=
  .binary (.relation .equal) (.call "AND" [.range (.spanning ⟨0, 1⟩ ⟨0, 0⟩)]) (.cell ⟨0, 2⟩)

/-- While the first cell is under evaluation, a fourth cell does not matter. -/
theorem determined_by_dependencies_of_range :
    allTrue.evaluate (m := Id) .zero
        (Stack.guard (m := Id) ⟨[⟨0, 0⟩], by decide⟩ fun _ => .boolean true) =
      allTrue.evaluate (m := Id) .zero
        (Stack.guard (m := Id) ⟨[⟨0, 0⟩], by decide⟩
          fun a => .boolean (a.col < 3)) := by
  have hreads : allTrue.reads = [⟨0, 0⟩, ⟨0, 1⟩, ⟨0, 2⟩] := by cbv
  refine (determined_by_dependencies .zero _ allTrue).1 _ _ fun a ha => ?_
  rw [mem_dependencies, hreads] at ha
  simp only [List.mem_cons, List.not_mem_nil, or_false] at ha
  rcases ha with rfl | rfl | rfl
  · rfl
  · rfl
  · rfl

end Expr

end Worksheet
