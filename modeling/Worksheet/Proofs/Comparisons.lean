import Mathlib.Data.Set.Operations
import Worksheet.Proofs.Errors
import Worksheet.Proofs.Number.Order

/-!
# Comparisons

All values stand in one order, with no regard to their kinds: it can be turned round
(`Value.order_swap`), and every value is on a level with itself.  It need not be transitive, as a
text that writes a number is compared with texts as a text and with numbers as a number; within the
texts, the truth values or the numbers it is.  The six relations between two expressions are read
off this order, so they fit each other (`comparisons_fit`).
-/

namespace Worksheet

namespace Value

/-! ### The order of values -/

theorem compareTexts_eq_compare (s t : String) :
    compareTexts s t = compare (Text.lower s) (Text.lower t) := rfl

theorem compareTexts_swap (s t : String) : compareTexts t s = (compareTexts s t).swap := by
  rw [compareTexts_eq_compare, compareTexts_eq_compare]
  exact Std.OrientedCmp.eq_swap

theorem compareMixed_swap (a b : Value) : compareMixed b a = (compareMixed a b).swap := by
  have hrank : compare b.rank a.rank = (compare a.rank b.rank).swap := Std.OrientedCmp.eq_swap
  unfold compareMixed
  cases a.toNumber? with
  | none => cases b.toNumber? <;> exact hrank
  | some x =>
    cases b.toNumber? with
    | none => exact hrank
    | some y => exact compareNumbers_swap x y

/-- Two values are compared as texts in both directions, or in neither. -/
theorem order_cases (a b : Value) :
    (∃ s t, a.order b = compareTexts s t ∧ b.order a = compareTexts t s) ∨
      a.order b = compareMixed a b ∧ b.order a = compareMixed b a := by
  cases a with
  | text s =>
    cases b with
    | text t => exact Or.inl ⟨s, t, rfl, rfl⟩
    | empty => exact Or.inl ⟨s, "", rfl, rfl⟩
    | number n | boolean t | error e => exact Or.inr ⟨rfl, rfl⟩
  | empty =>
    cases b with
    | text t => exact Or.inl ⟨"", t, rfl, rfl⟩
    | empty | number n | boolean t | error e => exact Or.inr ⟨rfl, rfl⟩
  | number n | boolean t | error e => cases b <;> exact Or.inr ⟨rfl, rfl⟩

/-- **The order can be turned round**, whatever the kinds of the two values. -/
theorem order_swap (a b : Value) : b.order a = (a.order b).swap := by
  rcases order_cases a b with ⟨s, t, hab, hba⟩ | ⟨hab, hba⟩
  · rw [hab, hba, compareTexts_swap]
  · rw [hab, hba, compareMixed_swap]

instance : Std.OrientedCmp order where
  eq_swap := order_swap _ _

/-- Among these values, two steps up go as far as the first of them that rises. -/
def OrderedOn (kind : Set Value) : Prop :=
  ∀ a ∈ kind, ∀ b ∈ kind, ∀ c ∈ kind, (a.order b).isLE = true → (b.order c).isLE = true →
    a.order c = (a.order b).then (b.order c)

theorem orderedOn_texts : OrderedOn (Set.range text) := by
  rintro _ ⟨s, rfl⟩ _ ⟨t, rfl⟩ _ ⟨u, rfl⟩ hst htu
  simp only [order, compareTexts_eq_compare] at *
  exact compare_eq_then hst htu

theorem orderedOn_numbers : OrderedOn (Set.image number {x | x.isNaN = false}) := by
  rintro _ ⟨x, hx, rfl⟩ _ ⟨y, hy, rfl⟩ _ ⟨z, hz, rfl⟩ hxy hyz
  simp only [order, compareMixed, toNumber?] at *
  exact compareNumbers_eq_then hx hy hz hxy hyz

/-- Truth values are compared as zero and one. -/
theorem orderedOn_booleans : OrderedOn (Set.range boolean) := by
  have hnumber : ∀ b : Bool, (if b then 1.0 else 0.0 : Float).isNaN = false := by
    intro b
    cases b <;> decide +kernel
  rintro _ ⟨s, rfl⟩ _ ⟨t, rfl⟩ _ ⟨u, rfl⟩ hst htu
  simp only [order, compareMixed, toNumber?] at *
  exact compareNumbers_eq_then (hnumber s) (hnumber t) (hnumber u) hst htu

end Value

/-- One of the three relations holds, and only one. -/
theorem Relation.existsUnique_holds (o : Ordering) :
    ∃! op, op ∈ [less, equal, greater] ∧ op.holds o = true := by
  cases o with
  | lt => exact ⟨less, ⟨by decide, rfl⟩, by rintro (_ | _ | _ | _ | _ | _) <;> simp [holds]⟩
  | eq => exact ⟨equal, ⟨by decide, rfl⟩, by rintro (_ | _ | _ | _ | _ | _) <;> simp [holds]⟩
  | gt => exact ⟨greater, ⟨by decide, rfl⟩, by rintro (_ | _ | _ | _ | _ | _) <;> simp [holds]⟩

/-- A relation gives a truth value, unless there is an error. -/
theorem Operator.apply_relation (op : Relation) {a b : Value} (ha : a.isError = false)
    (hb : b.isError = false) :
    (relation op).apply a b = .boolean (op.holds (a.order b)) := by
  unfold apply
  split
  · cases ha
  · cases hb
  · rfl

namespace Expr

/-! ### The relations between two expressions -/

/-- What a relation between two expressions gives. -/
def related (give : Expr → Value) (op : Relation) (left right : Expr) : Value :=
  give (.binary (.relation op) left right)

/-- What the six relations between two expressions give is a truth value each, and they fit. -/
structure RelationsFit (give : Expr → Value) (left right : Expr) : Prop where
  exactlyOne : ∃! op, op ∈ [Relation.less, .equal, .greater] ∧
    related give op left right = .boolean true
  lessEqual : ∃ b, related give .greater left right = .boolean b ∧
    related give .lessEqual left right = .boolean !b
  greaterEqual : ∃ b, related give .less left right = .boolean b ∧
    related give .greaterEqual left right = .boolean !b
  notEqual : ∃ b, related give .equal left right = .boolean b ∧
    related give .notEqual left right = .boolean !b
  turned : related give .less left right = related give .greater right left

/-- Relations that are read off one order fit. -/
theorem relationsFit_of_order {give : Expr → Value} {left right : Expr} {o : Ordering}
    (h : ∀ op : Relation, related give op left right = .boolean (op.holds o))
    (hturned : related give .greater right left = .boolean (Relation.greater.holds o.swap)) :
    RelationsFit give left right where
  exactlyOne := by
    simp only [h, Value.boolean.injEq]
    exact Relation.existsUnique_holds o
  lessEqual := ⟨_, h .greater, h .lessEqual⟩
  greaterEqual := ⟨_, h .less, h .greaterEqual⟩
  notEqual := ⟨_, h .equal, h .notEqual⟩
  turned := by
    rw [h, hturned]
    cases o <;> rfl

theorem value_relation (ifEmpty : EmptyAverage) (view : Address → Value) (op : Relation)
    {left right : Expr} (hleft : (left.value (m := Id) ifEmpty view).isError = false)
    (hright : (right.value (m := Id) ifEmpty view).isError = false) :
    (binary (.relation op) left right).value (m := Id) ifEmpty view = .boolean (op.holds
      ((left.value (m := Id) ifEmpty view).order (right.value (m := Id) ifEmpty view))) := by
  show Result.toScalar ((binary (.relation op) left right).evaluate (m := Id) ifEmpty view) = _
  rw [evaluate_binary]
  exact Operator.apply_relation op hleft hright

/-- However the values of expressions are found, the relations are read off the order of the two
values. -/
theorem relationsFit_of_eq_value {ifEmpty : EmptyAverage} {view : Address → Value}
    {give : Expr → Value} {left right : Expr}
    (hgive : ∀ e : Expr, e.reads ⊆ left.reads ++ right.reads →
      give e = e.value (m := Id) ifEmpty view)
    (hleft : (give left).isError = false) (hright : (give right).isError = false) :
    RelationsFit give left right := by
  rw [hgive left (List.subset_append_left _ _)] at hleft
  rw [hgive right (List.subset_append_right _ _)] at hright
  have hturned : (binary (.relation .greater) right left).reads ⊆ left.reads ++ right.reads := by
    intro a ha
    rw [reads, List.mem_append] at ha
    exact List.mem_append.2 ha.symm
  refine relationsFit_of_order (fun op => (hgive _ (List.Subset.refl _)).trans
    (value_relation ifEmpty view op hleft hright)) ((hgive _ hturned).trans ?_)
  rw [value_relation ifEmpty view _ hright hleft, Value.order_swap]

/-- **Comparisons fit each other.**  The order of values can be turned round, and every value is on
a level with itself; within the texts, the truth values or the numbers that are not NaN it is
transitive.  So of two expressions that give values, the first is less, equal or greater, and only
one of these; the other three relations are the opposites, and less is greater turned round.  This
holds as well where reads change a state, as long as each cell reads the same throughout. -/
theorem comparisons_fit :
    (∀ a b : Value, b.order a = (a.order b).swap) ∧ (∀ a : Value, a.order a = .eq) ∧
    (Value.OrderedOn (Set.range .text) ∧ Value.OrderedOn (Set.range .boolean) ∧
      Value.OrderedOn (Set.image .number {x | x.isNaN = false})) ∧
    ∀ (ifEmpty : EmptyAverage) (left right : Expr),
      (∀ view : Address → Value, (left.value (m := Id) ifEmpty view).isError = false →
        (right.value (m := Id) ifEmpty view).isError = false →
        RelationsFit (fun e => e.value (m := Id) ifEmpty view) left right) ∧
      ∀ (σ : Type) (inv : σ → Prop) (read : Address → StateM σ Value) (view : Address → Value),
        (∀ a ∈ left.reads ++ right.reads, Steady inv (read a) (view a)) → ∀ s, inv s →
        ((left.value ifEmpty read).run s).1.isError = false →
        ((right.value ifEmpty read).run s).1.isError = false →
        RelationsFit (fun e => ((e.value ifEmpty read).run s).1) left right := by
  refine ⟨Value.order_swap, fun a => Std.ReflCmp.compare_self,
    ⟨Value.orderedOn_texts, Value.orderedOn_booleans, Value.orderedOn_numbers⟩, ?_⟩
  intro ifEmpty left right
  refine ⟨fun view => relationsFit_of_eq_value fun e he => rfl, ?_⟩
  intro σ inv read view hread s hs
  exact relationsFit_of_eq_value fun e he =>
    run_value_of_steady ifEmpty (fun a ha => hread a (he ha)) hs

/-- A text that writes a number is compared with a cell that holds one. -/
theorem comparisons_fit_of_numeral :
    RelationsFit (fun e => e.value (m := Id) .zero fun _ => .number 9.0)
      (.literal (.text "10")) (.cell ⟨0, 0⟩) :=
  (comparisons_fit.2.2.2 .zero (.literal (.text "10")) (.cell ⟨0, 0⟩)).1 _ rfl rfl

end Expr

end Worksheet
