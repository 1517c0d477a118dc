import Worksheet.Proofs.Closure
import Worksheet.Proofs.Except
import Worksheet.Proofs.Sheet.EditText

/-!
# Kinds of numbers and of texts that functions stay in

A kind of numbers and a kind of texts make a kind of values, those whose number or text is of the
kind (`Value.Of`).  Most computations are checked at their end, so that they give a finite number or
an error; what the others need of the two kinds is listed in `Value.Kinds`.  Where it holds, no
operator and no function leaves the kind of values (`Value.Kinds.closed`).
-/

namespace Worksheet

/-- The number or the text of the value, if it has one, is of the kind. -/
inductive Value.Of (number : Float → Prop) (text : String → Prop) : Value → Prop where
  | empty : Of number text .empty
  | number {n : Float} (h : number n) : Of number text (.number n)
  | text {s : String} (h : text s) : Of number text (.text s)
  | boolean (b : Bool) : Of number text (.boolean b)
  | error (e : CellError) : Of number text (.error e)

/-- The kinds have all finite numbers, and what functions of at most `most` values compute without a
check is of the kind. -/
structure Value.Kinds (number : Float → Prop) (text : String → Prop) (most : ℕ) : Prop where
  finite : ∀ {n}, n.isFinite = true → number n
  abs : ∀ {n}, number n → number n.abs
  sqrt : ∀ {n}, number n → ¬ n < 0.0 → number n.sqrt
  count : ∀ {n : ℕ}, n ≤ most → number n.toFloat
  display : ∀ {v}, Of number text v → text v.display
  join : ∀ {texts : List String}, (∀ s ∈ texts, text s) → text (String.join texts)
  upper : ∀ {s}, text s → text (Text.upper s)
  lower : ∀ {s}, text s → text (Text.lower s)

namespace Function

theorem lesser_eq_or (x y : Float) : lesser x y = x ∨ lesser x y = y := by
  unfold lesser
  split_ifs <;> simp

theorem greater_eq_or (x y : Float) : greater x y = x ∨ greater x y = y := by
  unfold greater
  split_ifs <;> simp

/-- What is chosen is one of the branches, or stands for a missing one. -/
theorem eq_or_mem_of_choose {args : List Value} {v : Value} (h : choose args = .ok v) :
    v = .error .badValue ∨ v = .boolean false ∨ v ∈ args := by
  cases args with
  | nil => cases h
  | cons condition branches =>
    obtain ⟨chosen, -, h⟩ := bind_eq_ok.1 h
    have hbranch : ∀ (i : ℕ) (other : Value),
        branches[i]?.getD other = other ∨ branches[i]?.getD other ∈ condition :: branches := by
      intro i other
      cases hi : branches[i]? with
      | none => exact Or.inl rfl
      | some w => exact Or.inr (List.mem_cons_of_mem _ (List.mem_of_getElem? hi))
    split at h
    · cases h
      exact (hbranch 0 _).imp_right Or.inr
    · cases h
      exact Or.inr (hbranch 1 _)

end Function

namespace Value.Kinds

open Worksheet.Function

variable {number : Float → Prop} {text : String → Prop} {most : ℕ} (h : Kinds number text most)

theorem of_valueOf {x : Except CellError Value} (hx : ∀ v, x = .ok v → Of number text v) :
    Of number text (valueOf x) := by
  cases x with
  | ok v => exact hx v rfl
  | error e => exact .error e

/-! ### Truth values -/

theorem of_foldTruths (f : Bool → Bool → Bool) (start : Bool) (args : List Value) :
    Of number text (valueOf (foldTruths f start args)) := by
  refine of_valueOf fun v hv => ?_
  unfold foldTruths at hv
  split at hv
  · cases hv
  · obtain ⟨bools, -, hv⟩ := bind_eq_ok.1 hv
    cases hv
    exact .boolean _

theorem of_negation (args : List Value) : Of number text (valueOf (negation args)) := by
  refine of_valueOf fun v hv => ?_
  cases args with
  | nil => cases hv
  | cons first rest =>
    obtain ⟨b, -, hv⟩ := bind_eq_ok.1 hv
    cases hv
    exact .boolean _

/-! ### Numbers -/

section Numbers

include h

theorem of_ofFinite (n : Float) : Of number text (ofFinite n) := by
  unfold ofFinite
  split
  · next hn => exact .number (h.finite hn)
  · exact .error _

theorem number_of_toNumber? {v : Value} (hv : Of number text v) {n : Float}
    (hn : v.toNumber? = some n) : number n := by
  cases v with
  | empty =>
    cases hn
    exact h.finite (by decide +kernel)
  | number n' =>
    cases hn
    cases hv with
    | number hn => exact hn
  | text s => exact h.finite (Input.isFinite_of_readFinite? hn)
  | boolean b =>
    cases hn
    refine h.finite ?_
    cases b <;> decide +kernel
  | error e => cases hn

theorem of_arithmetic (op : Arithmetic) (x y : Float) : Of number text (op.apply x y) := by
  have hdivided : ∀ z, Of number text
      (if y == 0.0 then .error .divisionByZero else ofFinite z) := by
    intro z
    split
    · exact .error _
    · exact h.of_ofFinite z
  cases op with
  | add | subtract | multiply => exact h.of_ofFinite _
  | divide | modulo => exact hdivided _

theorem of_operator (op : Operator) (a b : Value) : Of number text (op.apply a b) := by
  unfold Operator.apply
  split
  · exact .error _
  · exact .error _
  · cases op with
    | relation op => exact .boolean _
    | arithmetic op =>
      rw [Operator.applyValues]
      split
      · exact h.of_arithmetic op _ _
      · exact .error _

theorem of_roundTo {n : Float} (hn : number n) (digits : Int) :
    Of number text (roundTo n digits) := by
  cases digits with
  | ofNat digits =>
    rw [roundTo]
    split
    · exact h.of_ofFinite _
    -- what is too large to be scaled stays as it is
    · exact .number hn
  | negSucc digits => exact h.of_ofFinite _

theorem of_root {n : Float} (hn : number n) : Of number text (root n) := by
  unfold root
  split
  · exact .error _
  · next hneg => exact .number (h.sqrt hn hneg)

theorem of_mean (ifEmpty : EmptyAverage) (numbers : List Float) :
    Of number text (mean ifEmpty numbers) := by
  unfold mean
  split
  · cases ifEmpty with
    | zero => exact .number (h.finite (by decide +kernel))
    | divisionByZero => exact .error _
  · exact h.of_ofFinite _

/-- What is picked out of some numbers is one of them. -/
theorem of_combine {f : Float → Float → Float} (hf : ∀ x y, f x y = x ∨ f x y = y)
    {numbers : List Float} (hnumbers : ∀ n ∈ numbers, number n) :
    Of number text (combine f numbers) := by
  cases numbers with
  | nil => exact .number (h.finite (by decide +kernel))
  | cons n rest =>
    rw [List.forall_mem_cons] at hnumbers
    refine .number (List.foldlRecOn rest f hnumbers.1 fun x hx y hy => ?_)
    rcases hf x y with heq | heq
    · rwa [heq]
    · rw [heq]
      exact hnumbers.2 y hy

theorem of_power (args : List Value) : Of number text (valueOf (power args)) := by
  refine of_valueOf fun v hv => ?_
  obtain ⟨base, -, hv⟩ := bind_eq_ok.1 hv
  obtain ⟨exponent, -, hv⟩ := bind_eq_ok.1 hv
  split at hv
  · cases hv
  · cases hv
    exact h.of_ofFinite _

end Numbers

/-! ### Values of the kind -/

section Args

variable {args : List Value} (hargs : ∀ v ∈ args, Of number text v)
include hargs

theorem of_aggregate {f : List Float → Value}
    (hf : ∀ numbers : List Float, numbers.length ≤ args.length → (∀ n ∈ numbers, number n) →
      Of number text (f numbers)) : Of number text (aggregate f args) := by
  unfold aggregate
  split
  · exact .error _
  · refine hf _ (List.length_filterMap_le _ _) fun n hn => ?_
    obtain ⟨v, hv, hnumber⟩ := List.mem_filterMap.1 hn
    have hkind := hargs v hv
    cases v with
    | number n' =>
      cases hnumber
      cases hkind with
      | number hn => exact hn
    | empty | text s | boolean b | error e => cases hnumber

theorem of_choose : Of number text (valueOf (choose args)) := by
  refine of_valueOf fun v hv => ?_
  rcases eq_or_mem_of_choose hv with rfl | rfl | hv
  · exact .error _
  · exact .boolean _
  · exact hargs v hv

include h

theorem number_of_numberOf {i : ℕ} {n : Float} (hn : numberOf args[i]? = .ok n) : number n := by
  unfold numberOf at hn
  split at hn
  · cases hn
  · cases hn
  · next v _ hv =>
    split at hn
    · next n' hnumber =>
      cases hn
      exact h.number_of_toNumber? (hargs v (List.mem_of_getElem? hv)) hnumber
    · cases hn

theorem of_map_numberOf {f : Float → Value} (hf : ∀ n, number n → Of number text (f n)) (i : ℕ) :
    Of number text (valueOf ((numberOf args[i]?).map f)) := by
  refine of_valueOf fun v hv => ?_
  obtain ⟨n, hn, rfl⟩ := map_eq_ok.1 hv
  exact hf n (h.number_of_numberOf hargs hn)

theorem of_rounded : Of number text (valueOf (rounded args)) := by
  refine of_valueOf fun v hv => ?_
  obtain ⟨n, hn, hv⟩ := bind_eq_ok.1 hv
  have hround := h.of_roundTo (h.number_of_numberOf hargs hn)
  split at hv
  · cases hv
    exact hround 0
  · obtain ⟨digits, -, hv⟩ := bind_eq_ok.1 hv
    cases hv
    exact hround (places digits)

theorem of_joined : Of number text (joined args) := by
  unfold joined
  split
  · exact .error _
  · refine .text (h.join fun s hs => ?_)
    obtain ⟨v, hv, rfl⟩ := List.mem_map.1 hs
    exact h.display (hargs v hv)

theorem of_onText {f : String → String} (hf : ∀ s, text s → text (f s)) :
    Of number text (onText f args) := by
  unfold onText
  split
  · exact .error _
  · exact .error _
  · next v rest _ => exact .text (hf _ (h.display (hargs v List.mem_cons_self)))

/-- **Functions of values of the kind give values of the kind.** -/
theorem of_function (ifEmpty : EmptyAverage) (f : Function) (hlength : args.length ≤ most) :
    Of number text (f.apply ifEmpty args) := by
  cases f with
  | sum => exact of_aggregate hargs fun _ _ _ => h.of_ofFinite _
  | average => exact of_aggregate hargs fun numbers _ _ => h.of_mean ifEmpty numbers
  | count =>
    rw [Function.apply]
    exact of_aggregate hargs fun numbers hle _ => .number (h.count (hle.trans hlength))
  | min => exact of_aggregate hargs fun _ _ => h.of_combine lesser_eq_or
  | max => exact of_aggregate hargs fun _ _ => h.of_combine greater_eq_or
  | abs => exact h.of_map_numberOf hargs (fun n hn => .number (h.abs hn)) 0
  | round => exact h.of_rounded hargs
  | sqrt => exact h.of_map_numberOf hargs (fun n => h.of_root) 0
  | pow => exact h.of_power args
  | ifElse => exact of_choose hargs
  | and | or => exact of_foldTruths _ _ args
  | not => exact of_negation args
  | concat => exact h.of_joined hargs
  | upper => exact h.of_onText hargs fun s => h.upper
  | lower => exact h.of_onText hargs fun s => h.lower

end Args

include h in
/-- **Evaluation does not leave such a kind of values.** -/
theorem closed : Closed (Of number text) most where
  error := .error
  operator op a b _ _ := h.of_operator op a b
  function ifEmpty f _ hlength hargs := h.of_function hargs ifEmpty f hlength

end Value.Kinds

end Worksheet
