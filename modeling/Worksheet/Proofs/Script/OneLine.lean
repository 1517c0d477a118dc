import Worksheet.Proofs.Formula.Literals
import Worksheet.Proofs.Function.Kinds
import Worksheet.Proofs.Grid.A1
import Worksheet.Proofs.Script.Reading
import Worksheet.Proofs.Sheet.Circular
import Worksheet.Proofs.Sheet.Written
import Worksheet.Proofs.Text.Casing

/-!
# Values on one line

What is typed on a line of a script has no line feed in it, and no formula makes one.  So every cell
of a sheet that a script has written shows its value on one line (`oneLine_run`).
-/

namespace Worksheet

/-- There is no line feed in the text. -/
def Text.OneLine (s : String) : Prop :=
  '\n' ∉ s.toList

namespace Value

/-- The value is no text, or one on one line. -/
def OneLine : Value → Prop :=
  Of (fun _ => True) Text.OneLine

theorem oneLine_layout_text (n : Float) : Text.OneLine (layout.text n) := by
  rw [Text.OneLine, Number.Layout.text, String.toList_ofList]
  by_cases hn : n.isFinite = true
  · obtain ⟨c, cs, -, -, hblank⟩ := Input.exists_cons_write hn
    exact fun h => absurd (hblank _ h) (by decide)
  · unfold Number.Layout.write
    split
    · decide
    · next negative _ => cases negative <;> decide
    · next h => exact absurd (Number.isFinite_of_ofFloat h) hn

theorem OneLine.display {v : Value} (hv : v.OneLine) : Text.OneLine v.display := by
  unfold Text.OneLine
  cases hv with
  | empty => decide
  | number => exact oneLine_layout_text _
  | text h => exact h
  | boolean b => cases b <;> decide
  | error e => cases e <;> decide

/-- No function makes a line feed. -/
theorem kinds_oneLine (most : ℕ) : Kinds (fun _ => True) Text.OneLine most where
  finite _ := trivial
  abs _ := trivial
  sqrt _ _ := trivial
  count _ := trivial
  display := OneLine.display
  join h hmem := by
    rw [String.toList_join] at hmem
    obtain ⟨s, hs, hmem⟩ := List.mem_flatMap.1 hmem
    exact h s hs hmem
  upper h hmem := h (Text.mem_of_mem_upper (by decide) (by decide) hmem)
  lower h hmem := h (Text.mem_of_mem_lower (by decide) (by decide) hmem)

end Value

/-- A formula on one line gives a value on one line, if the cells that it reads do. -/
theorem Expr.oneLine_value {source : String} {e : Expr} (h : ofText source = .ok e)
    (hsource : Text.OneLine source) (ifEmpty : EmptyAverage) {view : Address → Value}
    (hread : ∀ a ∈ e.reads, (view a).OneLine) : (e.value (m := Id) ifEmpty view).OneLine := by
  refine (Value.kinds_oneLine e.width).closed.value ifEmpty (Nat.le_refl _) (fun v hv => ?_) hread
  cases v with
  | empty => exact .empty
  | number n => exact .number trivial
  | text s => exact .text fun hmem => hsource (mem_of_mem_literal h hv hmem)
  | boolean b => exact .boolean b
  | error e => exact .error e

namespace Input

/-- What the input writes stands on one line. -/
inductive OneLine : Input → Prop where
  | empty : OneLine .empty
  | value {v : Value} (h : v.OneLine) : OneLine (.value v)
  | formula {source : String} (h : Text.OneLine source) : OneLine (.formula source)

theorem oneLine_ofText {s : String} (h : Text.OneLine s) : (ofText s).OneLine := by
  have htrim : '\n' ∉ Text.trimChars s.toList := fun hmem =>
    h ((Text.trimChars_sublist s.toList).subset hmem)
  cases hinput : ofText s with
  | empty => exact .empty
  | value v =>
    obtain ⟨x, rfl, -⟩ | ⟨b, rfl⟩ | rfl := value_of_ofText hinput
    · exact .value (.number trivial)
    · exact .value (.boolean b)
    · exact .value (.text h)
  | formula source =>
    obtain ⟨rest, heq, rfl⟩ := formula_of_ofText hinput
    rw [heq] at htrim
    refine .formula ?_
    rwa [Text.OneLine, String.toList_ofList]

end Input

namespace Sheet

theorem oneLine_run (o : Options) {actions : List Action}
    (h : ∀ action ∈ actions, ∀ input, action.input? = some input → input.OneLine) (a : Address) :
    ((run o actions).get a).1.OneLine := by
  have hl := linked_run o actions
  have hwritten := writtenFrom_run o h
  refine hl.forall_get (settled_run o actions) .empty .error (fun a v ha => ?_)
    (fun a f ha view hview => ?_) a
  · cases hwritten a _ ha with
    | value h => exact h
  · obtain ⟨haccept, hdependencies⟩ := hl.accepted ha
    have hsource : Text.OneLine f.source := by
      cases hwritten a _ ha with
      | formula h => exact h
    refine Expr.oneLine_value (Options.accept_eq_ok.1 haccept).2.1 hsource _ fun b hb => ?_
    exact hview b (hdependencies ▸ Expr.mem_dependencies.2 hb)

end Sheet

end Worksheet
