import Worksheet.Proofs.Text.Runs

/-!
# The same characters in another case

`Recased w v` says that `v` is `w` with some ASCII letters in the other case and some `$` left out.
Classes of characters that do not look at the case go over from `w` to `v`.
-/

namespace Worksheet.Text

/-- The same characters but for the case of ASCII letters, with any of the `$` left out. -/
inductive Recased : List Char → List Char → Prop where
  | nil : Recased [] []
  | cons {c d : Char} {w v : List Char} (hc : c.toUpper = d.toUpper) (h : Recased w v) :
      Recased (c :: w) (d :: v)
  | mark {w v : List Char} (h : Recased w v) : Recased ('$' :: w) v

/-- Does the class of characters not look at the case of ASCII letters? -/
def IgnoresCase (p : Char → Bool) : Prop :=
  ∀ c : Char, p c.toUpper = p c

/-- It is enough to look at the ASCII characters. -/
theorem ignoresCase_of_ascii {p : Char → Bool}
    (h : ∀ n < 128, p (Char.ofNat n).toUpper = p (Char.ofNat n)) : IgnoresCase p := by
  intro c
  by_cases hc : c.toNat < 128
  · exact forall_ascii (P := fun c => p c.toUpper = p c) h hc
  · rw [toUpper_eq_self (Nat.le_of_not_lt hc)]

theorem IgnoresCase.eq {p : Char → Bool} (hp : IgnoresCase p) {c d : Char}
    (h : c.toUpper = d.toUpper) : p d = p c := by
  rw [← hp d, ← h, hp c]

theorem ignoresCase_isAlpha : IgnoresCase Char.isAlpha :=
  ignoresCase_of_ascii (by decide)

/-- Only letters have two cases. -/
theorem eq_of_toUpper_eq {c d : Char} (hc : c.isAlpha = false) (h : c.toUpper = d.toUpper) :
    d = c := by
  have hself : ∀ c : Char, c.isAlpha = false → c.toUpper = c := by
    intro c hc
    by_cases hascii : c.toNat < 128
    · exact forall_ascii (P := fun c => c.isAlpha = false → c.toUpper = c) (by decide) hascii hc
    · exact toUpper_eq_self (Nat.le_of_not_lt hascii)
  have hd : d.isAlpha = false := (ignoresCase_isAlpha.eq h).trans hc
  rw [← hself d hd, ← h, hself c hc]

namespace Recased

variable {a b w v : List Char}

theorem refl (w : List Char) : Recased w w := by
  induction w with
  | nil => exact .nil
  | cons c w ih => exact .cons rfl ih

theorem of_append (h : Recased (a ++ b) v) :
    ∃ a' b', v = a' ++ b' ∧ Recased a a' ∧ Recased b b' := by
  induction a generalizing v with
  | nil => exact ⟨[], v, rfl, .nil, h⟩
  | cons c a ih =>
    rw [List.cons_append] at h
    cases h with
    | @cons _ d _ v hc h =>
      obtain ⟨a', b', rfl, ha, hb⟩ := ih h
      exact ⟨d :: a', b', rfl, .cons hc ha, hb⟩
    | mark h =>
      obtain ⟨a', b', rfl, ha, hb⟩ := ih h
      exact ⟨a', b', rfl, .mark ha, hb⟩

/-- A character that is no `$` is kept, in one of its cases. -/
theorem exists_cons {c : Char} (hc : c ≠ '$') (h : Recased (c :: w) v) :
    ∃ d v', v = d :: v' ∧ c.toUpper = d.toUpper ∧ Recased w v' := by
  cases h with
  | cons hd h => exact ⟨_, _, rfl, hd, h⟩
  | mark h => exact absurd rfl hc

/-- A character with one case stays as it is. -/
theorem exists_cons_self {c : Char} (hc : c.isAlpha = false) (hmark : c ≠ '$')
    (h : Recased (c :: w) v) : ∃ v', v = c :: v' ∧ Recased w v' := by
  obtain ⟨d, v', rfl, hd, h⟩ := h.exists_cons hmark
  exact ⟨v', by rw [eq_of_toUpper_eq hc hd], h⟩

/-- Without letters and marks there is nothing to change. -/
theorem eq_of_forall (h : Recased w v) (hw : ∀ c ∈ w, c.isAlpha = false ∧ c ≠ '$') : v = w := by
  induction h with
  | nil => rfl
  | cons hc h ih =>
    obtain ⟨hd, hw⟩ := List.forall_mem_cons.1 hw
    rw [eq_of_toUpper_eq hd.1 hc, ih hw]
  | mark h ih => exact absurd rfl (hw '$' List.mem_cons_self).2

/-- Without marks only the case changes. -/
theorem map_toUpper (h : Recased w v) (hmark : '$' ∉ w) : v.map Char.toUpper = w.map Char.toUpper := by
  induction h with
  | nil => rfl
  | cons hc h ih =>
    rw [List.map_cons, List.map_cons, hc, ih fun hmem => hmark (List.mem_cons_of_mem _ hmem)]
  | mark h ih => exact absurd List.mem_cons_self hmark

theorem asciiUpper_eq (h : Recased w v) (hmark : '$' ∉ w) :
    asciiUpper (String.ofList v) = asciiUpper (String.ofList w) := by
  unfold asciiUpper
  rw [String.toList_ofList, String.toList_ofList, h.map_toUpper hmark]

theorem forall_mem {p : Char → Bool} (hp : IgnoresCase p) (h : Recased w v)
    (hw : ∀ c ∈ w, p c = true) : ∀ c ∈ v, p c = true := by
  induction h with
  | nil => exact List.forall_mem_nil _
  | cons hc h ih =>
    obtain ⟨hd, hw⟩ := List.forall_mem_cons.1 hw
    exact List.forall_mem_cons.2 ⟨(hp.eq hc).trans hd, ih hw⟩
  | mark h ih => exact ih (List.forall_mem_cons.1 hw).2

/-- No mark is put in. -/
theorem not_mem_mark (h : Recased w v) (hmark : '$' ∉ w) : '$' ∉ v := by
  induction h with
  | nil => exact List.not_mem_nil
  | cons hc h ih =>
    rw [List.mem_cons, not_or] at hmark ⊢
    refine ⟨fun hd => hmark.1 ?_, ih hmark.2⟩
    rw [← hd] at hc
    exact (eq_of_toUpper_eq (by decide) hc.symm).symm
  | mark h ih => exact absurd List.mem_cons_self hmark

/-- Without marks the case can be changed back. -/
theorem symm (h : Recased w v) (hmark : '$' ∉ w) : Recased v w := by
  induction h with
  | nil => exact .nil
  | cons hc h ih => exact .cons hc.symm (ih fun hmem => hmark (List.mem_cons_of_mem _ hmem))
  | mark h ih => exact absurd List.mem_cons_self hmark

end Recased

end Worksheet.Text
