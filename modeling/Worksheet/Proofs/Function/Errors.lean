import Worksheet.Function.Apply
import Worksheet.Proofs.Except

/-!
# Errors in functions

An error among the values that a function is given comes out of it, only `ifElse` can pass one over
(`isError_apply`).  The other way round, an error that comes out was given or is one of those that
functions find by themselves (`errorsFrom_apply`).
-/

namespace Worksheet

namespace Value

theorem isError_iff {v : Value} : v.isError = true ↔ ∃ e, v = .error e := by
  cases v <;> simp [isError]

theorem error?_eq_some_iff {v : Value} {e : CellError} : v.error? = some e ↔ v = .error e := by
  cases v <;> simp [error?]

theorem error?_eq_none_iff {v : Value} : v.error? = none ↔ v.isError = false := by
  cases v <;> simp [error?, isError]

theorem exists_firstError? {args : List Value} (h : ∃ v ∈ args, v.isError = true) :
    ∃ e, firstError? args = some e := by
  obtain ⟨v, hv, hv'⟩ := h
  obtain ⟨e, rfl⟩ := isError_iff.1 hv'
  rw [← Option.isSome_iff_exists, firstError?, List.findSome?_isSome_iff]
  exact ⟨_, hv, rfl⟩

theorem mem_of_firstError? {args : List Value} {e : CellError} (h : firstError? args = some e) :
    .error e ∈ args := by
  obtain ⟨v, hv, he⟩ := List.exists_of_findSome?_eq_some h
  rwa [← error?_eq_some_iff.1 he]

end Value

/-! ### No error is passed over -/

namespace Function

section PassedOn

variable {args : List Value}

theorem isError_aggregate (f : List Float → Value) (h : ∃ v ∈ args, v.isError = true) :
    (aggregate f args).isError = true := by
  obtain ⟨e, he⟩ := Value.exists_firstError? h
  rw [aggregate, he]
  rfl

theorem isError_joined (h : ∃ v ∈ args, v.isError = true) : (joined args).isError = true := by
  obtain ⟨e, he⟩ := Value.exists_firstError? h
  rw [joined, he]
  rfl

/-- Truth values are looked at one after the other, also when the outcome is settled. -/
theorem exists_mapM_toBool (h : ∃ v ∈ args, v.isError = true) :
    ∃ e, args.mapM Value.toBool = .error e := by
  induction args with
  | nil => simp at h
  | cons v rest ih =>
    rw [List.mapM_cons]
    cases hv : v.toBool with
    | error e => exact ⟨e, rfl⟩
    | ok b =>
      -- `v` is no error, so there is one further on
      obtain ⟨w, hw, herror⟩ := h
      rcases List.mem_cons.1 hw with rfl | hw
      · obtain ⟨e, rfl⟩ := Value.isError_iff.1 herror
        cases hv
      · obtain ⟨e, he⟩ := ih ⟨w, hw, herror⟩
        exact ⟨e, by rw [he]; rfl⟩

theorem isError_foldTruths (f : Bool → Bool → Bool) (start : Bool)
    (h : ∃ v ∈ args, v.isError = true) : (valueOf (foldTruths f start args)).isError = true := by
  obtain ⟨e, he⟩ := exists_mapM_toBool h
  rw [foldTruths]
  split
  · rfl
  · rw [he]
    rfl

/-- The one value that a function is given is the error. -/
theorem eq_singleton (hargs : Arity.accepts ⟨1, some 1⟩ args.length = true)
    (h : ∃ v ∈ args, v.isError = true) : ∃ e, args = [.error e] := by
  obtain ⟨v, hv, herror⟩ := h
  obtain ⟨e, rfl⟩ := Value.isError_iff.1 herror
  simp only [Arity.accepts, Option.all_some, Bool.and_eq_true, decide_eq_true_eq] at hargs
  obtain ⟨w, rfl⟩ := List.length_eq_one_iff.1 (Nat.le_antisymm hargs.2 hargs.1)
  exact ⟨e, by rw [List.mem_singleton.1 hv]⟩

/-- An error in the first or the second place stops a computation on two numbers. -/
theorem exists_bind_numberOf {v w : Value} (h : ∃ u ∈ [v, w], u.isError = true)
    (f : Float → Float → Except CellError Value) :
    ∃ e, (numberOf (some v) >>= fun x => numberOf (some w) >>= f x) = .error e := by
  simp only [List.mem_cons, List.not_mem_nil, or_false, exists_eq_or_imp, exists_eq_left,
    Value.isError_iff] at h
  rcases h with ⟨e, rfl⟩ | ⟨e, rfl⟩
  · exact ⟨e, rfl⟩
  · cases numberOf (some v) with
    | error e' => exact ⟨e', rfl⟩
    | ok x => exact ⟨e, rfl⟩

theorem isError_rounded (hargs : Arity.accepts ⟨1, some 2⟩ args.length = true)
    (h : ∃ v ∈ args, v.isError = true) : (valueOf (rounded args)).isError = true := by
  match args, h with
  | [], h => simp at h
  | [v], h =>
    obtain ⟨e, he⟩ := eq_singleton rfl h
    rw [he]
    rfl
  | [v, w], h =>
    have hbind : ∃ e, rounded [v, w] = .error e := exists_bind_numberOf h _
    obtain ⟨e, he⟩ := hbind
    rw [he]
    rfl
  | _ :: _ :: _ :: _, _ => simp [Arity.accepts] at hargs

theorem isError_power (hargs : Arity.accepts ⟨2, some 2⟩ args.length = true)
    (h : ∃ v ∈ args, v.isError = true) : (valueOf (power args)).isError = true := by
  match args, h with
  | [], h => simp at h
  | [v], _ => simp [Arity.accepts] at hargs
  | [v, w], h =>
    have hbind : ∃ e, power [v, w] = .error e := exists_bind_numberOf h _
    obtain ⟨e, he⟩ := hbind
    rw [he]
    rfl
  | _ :: _ :: _ :: _, _ => simp [Arity.accepts] at hargs

/-- A function that takes any number of values takes some. -/
theorem accepts_of_most_eq_none {f : Function} (hmost : f.arity.most = none) {n : Nat}
    (hn : 1 ≤ n) : f.arity.accepts n = true := by
  have hleast : f.arity.least ≤ 1 := by
    revert hmost
    cases f <;> decide
  rw [Arity.accepts, hmost, Option.all_none, Bool.and_true]
  exact decide_eq_true (Nat.le_trans hleast hn)

/-- **An error among its values comes out of a function**, unless it chooses between them. -/
theorem isError_apply (ifEmpty : EmptyAverage) {f : Function} (hf : f ≠ .ifElse)
    (hargs : f.arity.accepts args.length = true) (h : ∃ v ∈ args, v.isError = true) :
    (f.apply ifEmpty args).isError = true := by
  cases f with
  | sum | average | count | min | max =>
    rw [apply]
    exact isError_aggregate _ h
  | abs | sqrt | not | upper | lower =>
    obtain ⟨e, rfl⟩ := eq_singleton hargs h
    rfl
  | round => exact isError_rounded hargs h
  | pow => exact isError_power hargs h
  | and | or => exact isError_foldTruths _ _ h
  | concat => exact isError_joined h
  | ifElse => exact absurd rfl hf

end PassedOn

end Function

/-! ### Where errors come from -/

/-- Can a computation on values that are no errors give the error? -/
def CellError.IsComputed (e : CellError) : Prop :=
  e = .divisionByZero ∨ e = .unknownName ∨ e = .badValue

namespace Function

/-- Every error of the value is a computed one or stands among the others. -/
def ErrorsFrom (args : List Value) (v : Value) : Prop :=
  ∀ e, v = .error e → e.IsComputed ∨ .error e ∈ args

section Origin

variable {args : List Value}

theorem isComputed_badValue : CellError.badValue.IsComputed := Or.inr (Or.inr rfl)

theorem isComputed_divisionByZero : CellError.divisionByZero.IsComputed := Or.inl rfl

theorem isComputed_of_ofFinite {n : Float} {e : CellError} (h : Value.ofFinite n = .error e) :
    e.IsComputed := by
  unfold Value.ofFinite at h
  split at h
  · cases h
  · cases h
    exact isComputed_badValue

theorem isComputed_of_roundTo {n : Float} {digits : Int} {e : CellError}
    (h : roundTo n digits = .error e) : e.IsComputed := by
  cases digits with
  | ofNat digits =>
    rw [roundTo] at h
    split at h
    · exact isComputed_of_ofFinite h
    · cases h
  | negSucc digits => exact isComputed_of_ofFinite h

theorem isComputed_of_root {n : Float} {e : CellError} (h : root n = .error e) :
    e.IsComputed := by
  unfold root at h
  split at h
  · cases h
    exact isComputed_badValue
  · cases h

theorem isComputed_of_mean {ifEmpty : EmptyAverage} {numbers : List Float} {e : CellError}
    (h : mean ifEmpty numbers = .error e) : e.IsComputed := by
  unfold mean at h
  split at h
  · cases ifEmpty with
    | zero => cases h
    | divisionByZero =>
      cases h
      exact isComputed_divisionByZero
  · exact isComputed_of_ofFinite h

theorem ne_error_combine {f : Float → Float → Float} {numbers : List Float} {e : CellError} :
    combine f numbers ≠ .error e := by
  cases numbers <;> exact Value.noConfusion

theorem errorsFrom_aggregate {f : List Float → Value}
    (hf : ∀ numbers e, f numbers = .error e → e.IsComputed) :
    ErrorsFrom args (aggregate f args) := by
  intro e h
  unfold aggregate at h
  split at h
  · next he =>
    cases h
    exact Or.inr (Value.mem_of_firstError? he)
  · exact Or.inl (hf _ e h)

theorem errorsFrom_joined : ErrorsFrom args (joined args) := by
  intro e h
  unfold joined at h
  split at h
  · next he =>
    cases h
    exact Or.inr (Value.mem_of_firstError? he)
  · cases h

theorem errorsFrom_onText (f : String → String) : ErrorsFrom args (onText f args) := by
  intro e h
  unfold onText at h
  split at h
  · cases h
    exact Or.inl isComputed_badValue
  · cases h
    exact Or.inr List.mem_cons_self
  · cases h

/-! Steps that can fail -/

theorem errorsFrom_bind {α : Type} {x : Except CellError α} {f : α → Except CellError Value}
    (hx : ∀ e, x = .error e → e.IsComputed ∨ .error e ∈ args)
    (hf : ∀ a, ErrorsFrom args (valueOf (f a))) : ErrorsFrom args (valueOf (x >>= f)) := by
  cases x with
  | ok a => exact hf a
  | error e =>
    rintro e' ⟨⟩
    exact hx e rfl

theorem errorsFrom_map {α : Type} {x : Except CellError α} {f : α → Value}
    (hx : ∀ e, x = .error e → e.IsComputed ∨ .error e ∈ args)
    (hf : ∀ a, ErrorsFrom args (f a)) : ErrorsFrom args (valueOf (x.map f)) := by
  cases x with
  | ok a => exact hf a
  | error e =>
    rintro e' ⟨⟩
    exact hx e rfl

theorem error_of_numberOf {i : Nat} {e : CellError} (h : numberOf args[i]? = .error e) :
    e.IsComputed ∨ .error e ∈ args := by
  unfold numberOf at h
  split at h
  · cases h
    exact Or.inl isComputed_badValue
  · next he =>
    cases h
    exact Or.inr (List.mem_of_getElem? he)
  · split at h
    · cases h
    · cases h
      exact Or.inl isComputed_badValue

theorem error_of_toBool {v : Value} (hv : v ∈ args) {e : CellError} (h : v.toBool = .error e) :
    e.IsComputed ∨ .error e ∈ args := by
  cases v with
  | empty => cases h
  | number n => cases h
  | boolean b => cases h
  | text s =>
    rw [Value.toBool] at h
    split at h
    · cases h
    · cases h
      exact Or.inl isComputed_badValue
  | error e' =>
    cases h
    exact Or.inr hv

theorem error_of_mapM_toBool {values : List Value} (hvalues : ∀ v ∈ values, v ∈ args)
    {e : CellError} (h : values.mapM Value.toBool = .error e) :
    e.IsComputed ∨ .error e ∈ args := by
  induction values with
  | nil => cases h
  | cons v rest ih =>
    rw [List.forall_mem_cons] at hvalues
    rw [List.mapM_cons] at h
    rcases bind_eq_error.1 h with hv | ⟨b, -, h⟩
    · exact error_of_toBool hvalues.1 hv
    · rcases bind_eq_error.1 h with hrest | ⟨bools, -, h⟩
      · exact ih hvalues.2 hrest
      · cases h

theorem errorsFrom_rounded : ErrorsFrom args (valueOf (rounded args)) := by
  refine errorsFrom_bind (fun e => error_of_numberOf) fun n => ?_
  have hround : ∀ digits, ErrorsFrom args (roundTo n digits) := fun digits e h =>
    Or.inl (isComputed_of_roundTo h)
  split
  · exact hround 0
  · next v hv =>
    refine errorsFrom_bind (fun e h => ?_) fun digits => hround (places digits)
    rw [← hv] at h
    exact error_of_numberOf h

theorem errorsFrom_power : ErrorsFrom args (valueOf (power args)) := by
  refine errorsFrom_bind (fun e => error_of_numberOf) fun base => ?_
  refine errorsFrom_bind (fun e => error_of_numberOf) fun exponent => ?_
  intro e h
  split at h
  · cases h
    exact Or.inl isComputed_divisionByZero
  · exact Or.inl (isComputed_of_ofFinite h)

/-- What is chosen is one of the branches, so an error in it was there. -/
theorem errorsFrom_choose : ErrorsFrom args (valueOf (choose args)) := by
  match args with
  | [] =>
    rintro e ⟨⟩
    exact Or.inl isComputed_badValue
  | condition :: branches =>
    refine errorsFrom_bind (fun e => error_of_toBool List.mem_cons_self) fun chosen => ?_
    have hbranch : ∀ (i : Nat) (other : Value), ErrorsFrom (condition :: branches) other →
        ErrorsFrom (condition :: branches) (branches[i]?.getD other) := by
      intro i other hother
      cases hi : branches[i]? with
      | none => exact hother
      | some v =>
        rintro e rfl
        exact Or.inr (List.mem_cons_of_mem _ (List.mem_of_getElem? hi))
    split
    · refine hbranch 0 _ ?_
      rintro e ⟨⟩
      exact Or.inl isComputed_badValue
    · exact hbranch 1 _ fun e => nofun

theorem errorsFrom_foldTruths (f : Bool → Bool → Bool) (start : Bool) :
    ErrorsFrom args (valueOf (foldTruths f start args)) := by
  unfold foldTruths
  split
  · rintro e ⟨⟩
    exact Or.inl isComputed_badValue
  · exact errorsFrom_bind (fun e => error_of_mapM_toBool fun _ => id) fun bools e => nofun

theorem errorsFrom_negation : ErrorsFrom args (valueOf (negation args)) := by
  match args with
  | [] =>
    rintro e ⟨⟩
    exact Or.inl isComputed_badValue
  | v :: rest =>
    exact errorsFrom_bind (fun e => error_of_toBool List.mem_cons_self) fun b e => nofun

/-- **An error that comes out of a function was given or is a computed one.** -/
theorem errorsFrom_apply (ifEmpty : EmptyAverage) (f : Function) (args : List Value) :
    ErrorsFrom args (f.apply ifEmpty args) := by
  cases f with
  | sum => exact errorsFrom_aggregate fun numbers e => isComputed_of_ofFinite
  | average => exact errorsFrom_aggregate fun numbers e => isComputed_of_mean
  | count =>
    rw [apply]
    exact errorsFrom_aggregate fun numbers e => nofun
  | min => exact errorsFrom_aggregate fun numbers e h => absurd h ne_error_combine
  | max => exact errorsFrom_aggregate fun numbers e h => absurd h ne_error_combine
  | abs => exact errorsFrom_map (fun e => error_of_numberOf) fun n e => nofun
  | round => exact errorsFrom_rounded
  | sqrt =>
    exact errorsFrom_map (fun e => error_of_numberOf) fun n e h => Or.inl (isComputed_of_root h)
  | pow => exact errorsFrom_power
  | ifElse => exact errorsFrom_choose
  | and => exact errorsFrom_foldTruths _ _
  | or => exact errorsFrom_foldTruths _ _
  | not => exact errorsFrom_negation
  | concat => exact errorsFrom_joined
  | upper => exact errorsFrom_onText _
  | lower => exact errorsFrom_onText _

end Origin

end Function

end Worksheet
