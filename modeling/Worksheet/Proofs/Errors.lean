import Worksheet.Proofs.Evaluation
import Worksheet.Proofs.Function.Errors

/-!
# Errors in expressions

Errors are never swallowed: where a part of an expression gives an error or a cell reads as one, the
expression is an error, if no branch is chosen in it and no range stands where one value is wanted
(`errors_pass`).  And errors have an origin: one that evaluation cannot find by itself stands in
the expression or in a cell that it reads (`hasOrigin_of_evaluate`).
-/

namespace Worksheet

namespace Result

/-- A range where one value is wanted is an error, whatever is in it. -/
theorem isError_toScalar {x : Result} (h : ∃ v ∈ x.values, v.isError = true) :
    x.toScalar.isError = true := by
  cases x with
  | scalar v => simpa [values, toScalar] using h
  | list vs => rfl

theorem mem_values_of_toScalar {x : Result} {e : CellError} (h : x.toScalar = .error e) :
    e.IsComputed ∨ .error e ∈ x.values := by
  cases x with
  | scalar v => exact Or.inr (List.mem_singleton.2 h.symm)
  | list vs =>
    cases h
    exact Or.inl Function.isComputed_badValue

end Result

namespace Operator

variable (op : Operator) {a b : Value}

theorem isError_apply (h : a.isError = true ∨ b.isError = true) :
    (op.apply a b).isError = true := by
  unfold apply
  split
  · rfl
  · rfl
  · next ha hb =>
    rcases h with h | h
    · obtain ⟨e, rfl⟩ := Value.isError_iff.1 h
      exact absurd rfl (ha e)
    · obtain ⟨e, rfl⟩ := Value.isError_iff.1 h
      exact absurd rfl (hb e)

theorem isComputed_of_arithmetic {op : Arithmetic} {x y : Float} {e : CellError}
    (h : op.apply x y = .error e) : e.IsComputed := by
  have hdivided : ∀ z, (if y == 0.0 then .error .divisionByZero else Value.ofFinite z) = .error e →
      e.IsComputed := by
    intro z h
    split at h
    · cases h
      exact Function.isComputed_divisionByZero
    · exact Function.isComputed_of_ofFinite h
  cases op with
  | add | subtract | multiply => exact Function.isComputed_of_ofFinite h
  | divide | modulo => exact hdivided _ h

theorem error_of_apply {e : CellError} (h : op.apply a b = .error e) :
    e.IsComputed ∨ a = .error e ∨ b = .error e := by
  unfold apply at h
  split at h
  · cases h
    exact Or.inr (Or.inl rfl)
  · cases h
    exact Or.inr (Or.inr rfl)
  · cases op with
    | relation op => cases h
    | arithmetic op =>
      rw [applyValues] at h
      split at h
      · exact Or.inl (isComputed_of_arithmetic h)
      · cases h
        exact Or.inl Function.isComputed_badValue

end Operator

namespace Expr

/-! ### Parts -/

mutual

/-- The expression and all expressions in it. -/
def parts : Expr → List Expr
  | binary op left right => binary op left right :: (left.parts ++ right.parts)
  | call name args => call name args :: partsAll args
  | e => [e]

/-- The parts of some expressions. -/
def partsAll : List Expr → List Expr
  | [] => []
  | arg :: rest => arg.parts ++ partsAll rest

end

theorem mem_partsAll {part : Expr} {args : List Expr} :
    part ∈ partsAll args ↔ ∃ arg ∈ args, part ∈ arg.parts := by
  induction args with
  | nil => simp [partsAll]
  | cons arg rest ih => simp [partsAll, ih]

theorem mem_parts_self (e : Expr) : e ∈ e.parts := by
  cases e <;> simp [parts]

theorem mem_parts_binary {op : Operator} {left right part : Expr} :
    part ∈ (binary op left right).parts ↔
      part = binary op left right ∨ part ∈ left.parts ∨ part ∈ right.parts := by
  rw [parts, List.mem_cons, List.mem_append]

theorem mem_parts_call {name : String} {args : List Expr} {part : Expr} :
    part ∈ (call name args).parts ↔ part = call name args ∨ ∃ arg ∈ args, part ∈ arg.parts := by
  rw [parts, List.mem_cons, mem_partsAll]

/-- A part of a part is a part. -/
theorem parts_subset_of_mem_parts {e part : Expr} (h : part ∈ e.parts) : part.parts ⊆ e.parts := by
  induction e using induction with
  | literal v => rw [List.mem_singleton.1 h]; exact List.Subset.refl _
  | cell a => rw [List.mem_singleton.1 h]; exact List.Subset.refl _
  | range r => rw [List.mem_singleton.1 h]; exact List.Subset.refl _
  | binary op left right ihleft ihright =>
    rcases mem_parts_binary.1 h with rfl | h | h
    · exact List.Subset.refl _
    · exact fun p hp => mem_parts_binary.2 (Or.inr (Or.inl (ihleft h hp)))
    · exact fun p hp => mem_parts_binary.2 (Or.inr (Or.inr (ihright h hp)))
  | call name args ih =>
    rcases mem_parts_call.1 h with rfl | ⟨arg, harg, h⟩
    · exact List.Subset.refl _
    · exact fun p hp => mem_parts_call.2 (Or.inr ⟨arg, harg, ih arg harg h hp⟩)

/-- A cell that is read is a part or stands in a range that is one. -/
theorem mem_reads_iff {e : Expr} {a : Address} :
    a ∈ e.reads ↔ ∃ part ∈ e.parts, part = cell a ∨ ∃ r, part = range r ∧ a ∈ r.cells := by
  induction e using induction with
  | literal v => simp [reads, parts]
  | cell b => simp [reads, parts, eq_comm]
  | range r => simp [reads, parts]
  | binary op left right ihleft ihright =>
    rw [reads, List.mem_append, ihleft, ihright]
    simp [mem_parts_binary, or_and_right, exists_or]
  | call name args ih =>
    rw [reads, readsAll_eq_flatMap, List.mem_flatMap]
    simp only [mem_parts_call]
    constructor
    · rintro ⟨arg, harg, ha⟩
      obtain ⟨part, hpart, ha⟩ := (ih arg harg).1 ha
      exact ⟨part, Or.inr ⟨arg, harg, hpart⟩, ha⟩
    · rintro ⟨part, rfl | ⟨arg, harg, hpart⟩, ha⟩
      · simp at ha
      · exact ⟨arg, harg, (ih arg harg).2 ⟨part, hpart, ha⟩⟩

theorem reads_subset_of_mem_parts {e part : Expr} (h : part ∈ e.parts) : part.reads ⊆ e.reads := by
  intro a ha
  obtain ⟨p, hp, ha⟩ := mem_reads_iff.1 ha
  exact mem_reads_iff.2 ⟨p, parts_subset_of_mem_parts h hp, ha⟩

/-! ### No error is swallowed -/

/-- Is the expression a range? -/
def isRange : Expr → Bool
  | range _ => true
  | _ => false

/-- Does an error in an argument come out of the call?  It may not where a branch is chosen, or
where a range takes the place of one value. -/
def passesErrors : Expr → Bool
  | call name args => (Function.ofName? name).all fun f =>
      f != .ifElse && (f.arity.most.isNone || args.all fun arg => !arg.isRange)
  | _ => true

/-- The functions that take any number of values, so that all of a range are seen. -/
example : Function.all.filter (fun f => f.arity.most.isNone) =
    [.and, .average, .concat, .count, .max, .min, .or, .sum] := by decide

section Passes

variable (ifEmpty : EmptyAverage) (view : Address → Value)

/-- Only a range gives more or less than one value. -/
theorem length_values {e : Expr} (he : e.isRange = false) :
    (e.evaluate (m := Id) ifEmpty view).values.length = 1 := by
  cases e with
  | literal v =>
    rw [evaluate_literal]
    rfl
  | cell a =>
    rw [evaluate_cell]
    rfl
  | range r => cases he
  | binary op left right =>
    rw [evaluate_binary]
    rfl
  | call name args =>
    cases hname : Function.ofName? name with
    | none =>
      rw [evaluate_call_of_none ifEmpty view hname]
      rfl
    | some f =>
      rw [evaluate_call_of_some ifEmpty view hname]
      rfl

theorem length_argumentValues {args : List Expr} (h : ∀ arg ∈ args, arg.isRange = false) :
    (argumentValues ifEmpty view args).length = args.length := by
  rw [argumentValues_eq_flatMap]
  induction args with
  | nil => rfl
  | cons arg rest ih =>
    rw [List.forall_mem_cons] at h
    rw [List.flatMap_cons, List.length_append, length_values ifEmpty view h.1, ih h.2,
      List.length_cons, Nat.add_comm]

/-- A call that passes errors gives its function a number of values that it takes. -/
theorem accepts_argumentValues {f : Function} {args : List Expr}
    (hargs : f.arity.accepts args.length = true)
    (hplain : f.arity.most.isNone = true ∨ ∀ arg ∈ args, arg.isRange = false)
    (hne : argumentValues ifEmpty view args ≠ []) :
    f.arity.accepts (argumentValues ifEmpty view args).length = true := by
  rcases hplain with hmost | hplain
  · exact Function.accepts_of_most_eq_none (Option.isNone_iff_eq_none.1 hmost)
      (List.length_pos_iff.2 hne)
  · rwa [length_argumentValues ifEmpty view hplain]

/-- **An error in a part of an expression comes out of it.** -/
theorem exists_error_of_part {e part : Expr} (he : ∀ p ∈ e.parts, p.passesErrors = true)
    (hpart : part ∈ e.parts)
    (h : ∃ v ∈ (part.evaluate (m := Id) ifEmpty view).values, v.isError = true) :
    ∃ v ∈ (e.evaluate (m := Id) ifEmpty view).values, v.isError = true := by
  induction e using induction with
  | literal v => rwa [← List.mem_singleton.1 hpart]
  | cell a => rwa [← List.mem_singleton.1 hpart]
  | range r => rwa [← List.mem_singleton.1 hpart]
  | binary op left right ihleft ihright =>
    simp only [mem_parts_binary] at he hpart
    rcases hpart with rfl | hpart
    · exact h
    rw [evaluate_binary]
    refine ⟨_, List.mem_singleton_self _, op.isError_apply ?_⟩
    rcases hpart with hpart | hpart
    · exact Or.inl (Result.isError_toScalar (ihleft (fun p hp => he p (by simp [hp])) hpart))
    · exact Or.inr (Result.isError_toScalar (ihright (fun p hp => he p (by simp [hp])) hpart))
  | call name args ih =>
    simp only [mem_parts_call] at he hpart
    rcases hpart with rfl | ⟨arg, harg, hpart⟩
    · exact h
    obtain ⟨v, hv, herror⟩ := ih arg harg (fun p hp => he p (Or.inr ⟨arg, harg, hp⟩)) hpart
    cases hname : Function.ofName? name with
    | none =>
      rw [evaluate_call_of_none ifEmpty view hname]
      exact ⟨_, List.mem_singleton_self _, rfl⟩
    | some f =>
      have hcall := he _ (Or.inl rfl)
      simp only [passesErrors, hname, Option.all_some, Bool.and_eq_true, bne_iff_ne, ne_eq,
        Bool.or_eq_true, List.all_eq_true, Bool.not_eq_true'] at hcall
      rw [evaluate_call_of_some ifEmpty view hname]
      refine ⟨_, List.mem_singleton_self _, ?_⟩
      split
      · next hargs =>
        have hmem : v ∈ argumentValues ifEmpty view args := by
          rw [argumentValues_eq_flatMap]
          exact List.mem_flatMap.2 ⟨arg, harg, hv⟩
        have haccepts := accepts_argumentValues ifEmpty view hargs hcall.2 (List.ne_nil_of_mem hmem)
        exact Function.isError_apply ifEmpty hcall.1 haccepts ⟨v, hmem, herror⟩
      · rfl

/-- An expression in which a cell is an error or a part gives one is an error. -/
theorem isError_value {e : Expr} (he : ∀ part ∈ e.parts, part.passesErrors = true)
    (h : (∃ a ∈ e.reads, (view a).isError = true) ∨
      ∃ part ∈ e.parts, ∃ error, part.evaluate (m := Id) ifEmpty view = .scalar (.error error)) :
    (e.value (m := Id) ifEmpty view).isError = true := by
  suffices hpart : ∃ part ∈ e.parts,
      ∃ v ∈ (part.evaluate (m := Id) ifEmpty view).values, v.isError = true by
    obtain ⟨part, hpart, h⟩ := hpart
    exact Result.isError_toScalar (exists_error_of_part ifEmpty view he hpart h)
  rcases h with ⟨a, ha, herror⟩ | ⟨part, hpart, error, herror⟩
  · obtain ⟨part, hpart, rfl | ⟨r, rfl, har⟩⟩ := mem_reads_iff.1 ha
    · refine ⟨_, hpart, view a, ?_, herror⟩
      rw [evaluate_cell]
      exact List.mem_singleton_self _
    · refine ⟨_, hpart, view a, ?_, herror⟩
      rw [evaluate_range]
      -- an error is not empty, so it is among the values of the range
      refine List.mem_filter.2 ⟨List.mem_map_of_mem har, ?_⟩
      obtain ⟨error, herror⟩ := Value.isError_iff.1 herror
      rw [herror]
      rfl
  · refine ⟨part, hpart, .error error, ?_, rfl⟩
    rw [herror]
    exact List.mem_singleton_self _

end Passes

/-! ### Reads that keep a state -/

/-- Reading gives this value in every state of some kind, and leaves a state of this kind. -/
def Steady {σ α : Type} (inv : σ → Prop) (x : StateM σ α) (a : α) : Prop :=
  ∀ s, inv s → (x.run s).1 = a ∧ inv (x.run s).2

/-- Computations that are steady go on steadily. -/
def steady {σ : Type} (inv : σ → Prop) : Coupling (StateM σ) Id where
  Rel x a := Steady inv x a
  pure _ _ hs := ⟨rfl, hs⟩
  bind {α β x a f g} hx hf s hs := by
    obtain ⟨hvalue, hstate⟩ := hx s hs
    have hrun : (x >>= f).run s = (f (x.run s).1).run (x.run s).2 := rfl
    rw [hrun, hvalue]
    exact hf a _ hstate

/-- Where each cell reads the same throughout, the value is that over the values read. -/
theorem run_value_of_steady (ifEmpty : EmptyAverage) {σ : Type} {inv : σ → Prop}
    {read : Address → StateM σ Value} {view : Address → Value} {e : Expr}
    (h : ∀ a ∈ e.reads, Steady inv (read a) (view a)) {s : σ} (hs : inv s) :
    ((e.value ifEmpty read).run s).1 = e.value (m := Id) ifEmpty view := by
  rw [value, StateT.run_map]
  exact congrArg Result.toScalar ((steady inv).evaluate ifEmpty e h s hs).1

/-- **Errors are never swallowed.**  Take an expression that makes no choice and has no range in the
place of one value.  If a cell that it names reads as an error, in a range or alone, or if a part of
it gives an error, then it is an error, and this also where reads change a state as long as each
cell reads the same throughout. -/
theorem errors_pass (ifEmpty : EmptyAverage) {e : Expr}
    (he : ∀ part ∈ e.parts, part.passesErrors = true) :
    (∀ view : Address → Value,
      ((∃ a ∈ e.reads, (view a).isError = true) ∨ ∃ part ∈ e.parts, ∃ error,
        part.evaluate (m := Id) ifEmpty view = .scalar (.error error)) →
      (e.value (m := Id) ifEmpty view).isError = true) ∧
    ∀ (σ : Type) (inv : σ → Prop) (read : Address → StateM σ Value) (view : Address → Value),
      (∀ a ∈ e.reads, Steady inv (read a) (view a)) → ∀ s, inv s →
      ((∃ a ∈ e.reads, ((read a).run s).1.isError = true) ∨ ∃ part ∈ e.parts, ∃ error,
        ((part.evaluate ifEmpty read).run s).1 = .scalar (.error error)) →
      ((e.value ifEmpty read).run s).1.isError = true := by
  refine ⟨fun view => isError_value ifEmpty view he, fun σ inv read view hread s hs h => ?_⟩
  have hparts : ∀ part ∈ e.parts,
      ((part.evaluate ifEmpty read).run s).1 = part.evaluate (m := Id) ifEmpty view := by
    intro part hpart
    have hsteady := (steady inv).evaluate ifEmpty part fun a ha =>
      hread a (reads_subset_of_mem_parts hpart ha)
    exact (hsteady s hs).1
  have hvalue : ((e.value ifEmpty read).run s).1 = e.value (m := Id) ifEmpty view := by
    rw [value, StateT.run_map]
    exact congrArg Result.toScalar (hparts e (mem_parts_self e))
  rw [hvalue]
  refine isError_value ifEmpty view he ?_
  rcases h with ⟨a, ha, h⟩ | ⟨part, hpart, error, h⟩
  · exact Or.inl ⟨a, ha, (hread a ha s hs).1 ▸ h⟩
  · exact Or.inr ⟨part, hpart, error, (hparts part hpart) ▸ h⟩

/-- Is a total, written behind an `x`, the text `x1`? -/
def labelledTotal : Expr :=
  .binary (.relation .equal)
    (.call "CONCAT" [.literal (.text "x"), .call "SUM" [.range (.spanning ⟨0, 0⟩ ⟨1, 1⟩)]])
    (.literal (.text "x1"))

/-- An error in the last cell of the range comes out of the comparison. -/
theorem errors_pass_of_range :
    (labelledTotal.value (m := Id) .zero fun a =>
      if a = ⟨1, 1⟩ then .error .badReference else .number 1.0).isError = true := by
  have hplain : labelledTotal.parts.all passesErrors = true := by decide
  have hreads : labelledTotal.reads = [⟨0, 0⟩, ⟨0, 1⟩, ⟨1, 0⟩, ⟨1, 1⟩] := by decide
  refine (errors_pass .zero (List.all_eq_true.1 hplain)).1 _ (Or.inl ⟨⟨1, 1⟩, ?_, rfl⟩)
  rw [hreads]
  decide

/-! ### Where errors come from -/

/-- The error is one that evaluation finds by itself, or it stands in the expression or in a cell
that the expression reads. -/
def HasOrigin (view : Address → Value) (e : Expr) (error : CellError) : Prop :=
  error.IsComputed ∨ literal (.error error) ∈ e.parts ∨ ∃ a ∈ e.reads, view a = .error error

theorem HasOrigin.of_part {view : Address → Value} {e part : Expr} {error : CellError}
    (h : part.HasOrigin view error) (hpart : part ∈ e.parts) : e.HasOrigin view error := by
  rcases h with hcomputed | hliteral | ⟨a, ha, hview⟩
  · exact Or.inl hcomputed
  · exact Or.inr (Or.inl (parts_subset_of_mem_parts hpart hliteral))
  · exact Or.inr (Or.inr ⟨a, reads_subset_of_mem_parts hpart ha, hview⟩)

section Origin

variable (ifEmpty : EmptyAverage) (view : Address → Value) {e : Expr} {error : CellError}

theorem hasOrigin_operand {op : Operator} {left right operand : Expr}
    (ih : .error error ∈ (operand.evaluate (m := Id) ifEmpty view).values →
      operand.HasOrigin view error)
    (h : (operand.evaluate (m := Id) ifEmpty view).toScalar = .error error)
    (hoperand : operand ∈ (binary op left right).parts) :
    (binary op left right).HasOrigin view error := by
  rcases Result.mem_values_of_toScalar h with hcomputed | hmem
  · exact Or.inl hcomputed
  · exact (ih hmem).of_part hoperand

/-- **No error comes from nowhere.** -/
theorem hasOrigin_of_evaluate
    (h : .error error ∈ (e.evaluate (m := Id) ifEmpty view).values) : e.HasOrigin view error := by
  induction e using induction with
  | literal v =>
    rw [evaluate_literal] at h
    rw [← List.mem_singleton.1 h]
    exact Or.inr (Or.inl (mem_parts_self _))
  | cell a =>
    rw [evaluate_cell] at h
    exact Or.inr (Or.inr ⟨a, by simp [reads], (List.mem_singleton.1 h).symm⟩)
  | range r =>
    rw [evaluate_range] at h
    obtain ⟨a, ha, herror⟩ := List.mem_map.1 (List.mem_filter.1 h).1
    exact Or.inr (Or.inr ⟨a, by simpa [reads] using ha, herror⟩)
  | binary op left right ihleft ihright =>
    rw [evaluate_binary] at h
    rcases op.error_of_apply (List.mem_singleton.1 h).symm with hcomputed | hleft | hright
    · exact Or.inl hcomputed
    · exact hasOrigin_operand ifEmpty view ihleft hleft (by simp [mem_parts_binary, mem_parts_self])
    · exact hasOrigin_operand ifEmpty view ihright hright
        (by simp [mem_parts_binary, mem_parts_self])
  | call name args ih =>
    cases hname : Function.ofName? name with
    | none =>
      rw [evaluate_call_of_none ifEmpty view hname] at h
      cases List.mem_singleton.1 h
      exact Or.inl (Or.inr (Or.inl rfl))
    | some f =>
      rw [evaluate_call_of_some ifEmpty view hname] at h
      have hvalue := (List.mem_singleton.1 h).symm
      split at hvalue
      · rcases Function.errorsFrom_apply ifEmpty f _ error hvalue with hcomputed | hmem
        · exact Or.inl hcomputed
        rw [argumentValues_eq_flatMap] at hmem
        obtain ⟨arg, harg, hmem⟩ := List.mem_flatMap.1 hmem
        exact (ih arg harg hmem).of_part
          (mem_parts_call.2 (Or.inr ⟨arg, harg, mem_parts_self arg⟩))
      · cases hvalue
        exact Or.inl Function.isComputed_badValue

theorem hasOrigin_of_value (h : e.value (m := Id) ifEmpty view = .error error) :
    e.HasOrigin view error := by
  rcases Result.mem_values_of_toScalar h with hcomputed | hmem
  · exact Or.inl hcomputed
  · exact hasOrigin_of_evaluate ifEmpty view hmem

end Origin

end Expr

end Worksheet
