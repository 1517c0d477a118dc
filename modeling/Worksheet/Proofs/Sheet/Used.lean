import Worksheet.Proofs.Sheet.Written

/-!
# Cells in use

A cell is in use if anything is stored in it.  The missing value is stored only by an input that
writes it as if it were a value, and no input made from a text, a value or a formula does that: one
made from the missing value clears the cell (`made_ofText`, `made_ofValue`, `made_ofFormula`).  So
after all other runs the cells in use are those that hold something (`noneEmpty_run`).
-/

namespace Worksheet

namespace Input

/-- The input does not write the missing value as if it were one. -/
def Made (input : Input) : Prop :=
  input ≠ .value .empty

theorem made_ofValue (v : Value) : (ofValue v).Made := by
  cases v <;> exact nofun

theorem made_ofText (s : String) : (ofText s).Made := by
  unfold ofText
  dsimp only
  split
  · exact nofun
  · exact nofun
  · split
    · exact nofun
    · split
      · exact nofun
      · exact nofun

theorem made_ofFormula (s : String) : (ofFormula s).Made := by
  unfold ofFormula
  split
  · exact nofun
  · exact nofun

end Input

theorem Content.made_toInput (content : Content) : content.toInput.Made := by
  cases content with
  | empty => exact nofun
  | value v => exact Input.made_ofValue v
  | formula source dependencies => exact nofun

namespace Sheet

/-! ### Cells in use -/

/-- No cell in use holds the missing value. -/
def NoneEmpty (s : Sheet) : Prop :=
  ∀ a : Address, s.cells[a]? ≠ some (.value .empty)

theorem noneEmpty_iff {s : Sheet} : NoneEmpty s ↔ WrittenFrom Input.Made s := by
  refine ⟨fun h a cell ha hinput => ?_, fun h a ha => h a _ ha rfl⟩
  cases cell with
  | value v =>
    cases hinput
    exact h a ha
  | formula f => cases hinput
  | rejected source error => cases hinput

theorem noneEmpty_new (o : Options) : NoneEmpty (new o) :=
  noneEmpty_iff.2 (writtenFrom_new o)

theorem NoneEmpty.set {s : Sheet} (hs : NoneEmpty s) (a : Address) {input : Input}
    (h : input.Made) : NoneEmpty (s.set a input) :=
  noneEmpty_iff.2 ((noneEmpty_iff.1 hs).set a h)

theorem noneEmpty_run (o : Options) {actions : List Action}
    (h : ∀ a input, .set a input ∈ actions → input.Made) : NoneEmpty (run o actions) := by
  refine noneEmpty_iff.2 (writtenFrom_run o fun action hmem input hinput => ?_)
  cases action with
  | set a _ =>
    cases hinput
    exact h a input hmem
  | clear a =>
    cases hinput
    exact nofun
  | restore snap =>
    cases hinput
    exact snap.content.made_toInput
  | recalculate => cases hinput
  | get a => cases hinput

theorem mem_used_iff {s : Sheet} {a : Address} : a ∈ s.used ↔ s.cells[a]? ≠ none := by
  have hkeys : a ∈ s.used ↔ a ∈ s.cells := Std.ExtTreeMap.mem_keys
  rw [hkeys, AddressMap.mem_iff, Option.ne_none_iff_exists']

theorem mem_used_of_getElem? {s : Sheet} {a : Address} {cell : Cell} (h : s.cells[a]? = some cell) :
    a ∈ s.used := by
  rw [mem_used_iff, h]
  exact Option.some_ne_none cell

end Sheet

end Worksheet
