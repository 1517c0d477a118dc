import Worksheet.Proofs.Formula.Blanks
import Worksheet.Proofs.Number.Signed
import Worksheet.Proofs.Sheet.Independence

/-!
# The text that is offered for editing

What was typed into a cell is offered for editing as a text that means the same (`equal_ofText`),
although it need not be the text that was typed: blanks around a formula are gone and numbers are
written in a form of their own.  So typing the offered text again leaves the sheet as it is
(`retyped_run`); only a zero loses its sign.
-/

namespace Worksheet

/-! ### Equality of values and inputs -/

/-- The values are the same, numbers being compared as numbers: zero has no sign, and what is no
number is not even equal to itself. -/
inductive Value.Equal : Value → Value → Prop where
  | empty : Equal .empty .empty
  | number {x y : Float} (h : (x == y) = true) : Equal (.number x) (.number y)
  | text (s : String) : Equal (.text s) (.text s)
  | boolean (b : Bool) : Equal (.boolean b) (.boolean b)
  | error (e : CellError) : Equal (.error e) (.error e)

namespace Input

/-- The inputs write equal values, or the same formula, or both clear the cell. -/
inductive Equal : Input → Input → Prop where
  | empty : Equal .empty .empty
  | value {v w : Value} (h : v.Equal w) : Equal (.value v) (.value w)
  | formula (source : String) : Equal (.formula source) (.formula source)

/-- The text that is offered for editing what the input wrote. -/
def editText : Input → String
  | empty => ""
  | value v => v.display
  | formula source => source

/-! ### What a typed text means -/

theorem isFinite_of_readFinite? {s : List Char} {x : Float} (h : Number.readFinite? s = some x) :
    x.isFinite = true := by
  obtain ⟨n, -, hx⟩ := Option.bind_eq_some_iff.1 h
  obtain ⟨hfinite, hx⟩ := Option.ite_none_right_eq_some.1 hx
  rwa [Option.some.inj hx] at hfinite

/-- A typed formula is taken without the blanks around it. -/
theorem formula_of_ofText {t source : String} (h : ofText t = .formula source) :
    ∃ rest, Text.trimChars t.toList = '=' :: rest ∧ source = String.ofList ('=' :: rest) := by
  unfold ofText at h
  dsimp only at h
  split at h
  · cases h
  · next rest heq =>
    cases h
    exact ⟨rest, heq, congrArg String.ofList heq⟩
  · split at h
    · cases h
    · split at h
      · cases h
      · cases h

/-- A typed value is a finite number, a truth value, or the text itself with all its blanks. -/
theorem value_of_ofText {t : String} {v : Value} (h : ofText t = .value v) :
    (∃ x, v = .number x ∧ x.isFinite = true) ∨ (∃ b, v = .boolean b) ∨ v = .text t := by
  unfold ofText at h
  dsimp only at h
  split at h
  · cases h
  · cases h
  · split at h
    · next x hx =>
      cases h
      exact Or.inl ⟨x, rfl, isFinite_of_readFinite? hx⟩
    · split at h
      · next b hb =>
        cases h
        exact Or.inr (Or.inl ⟨b, rfl⟩)
      · cases h
        exact Or.inr (Or.inr rfl)

/-- A text without blanks around it that begins with an equals sign is a formula as it stands. -/
theorem ofText_formula {rest : List Char} (h : Text.trimChars ('=' :: rest) = '=' :: rest) :
    ofText (String.ofList ('=' :: rest)) = .formula (String.ofList ('=' :: rest)) := by
  unfold ofText
  rw [String.toList_ofList, h]
  rfl

/-- The text of a number begins with a digit or a minus sign and has no blanks in it. -/
theorem exists_cons_write {x : Float} (hx : x.isFinite = true) :
    ∃ c cs, Value.layout.write x = c :: cs ∧ c ≠ '=' ∧
      ∀ d ∈ Value.layout.write x, Text.isBlank d = false := by
  obtain ⟨w, f, s, hs, hwrite⟩ := Number.exists_plain_write hx
  have hblank : ∀ d ∈ s, Text.isBlank d = false := hs.writtenAs.not_isBlank
  obtain ⟨c, cs, rfl, hc⟩ := hs.exists_cons
  rcases hwrite with ⟨hwrite, -⟩ | ⟨hwrite, -⟩
  · rw [hwrite]
    refine ⟨c, cs, rfl, ?_, hblank⟩
    rintro rfl
    exact absurd hc (by decide)
  · rw [hwrite]
    exact ⟨'-', c :: cs, rfl, by decide, List.forall_mem_cons.2 ⟨by decide, hblank⟩⟩

/-- The text of a number is that number, or zero without its sign. -/
theorem ofText_number {x : Float} (hx : x.isFinite = true) :
    ∃ y, ofText (Value.number x).display = .value (.number y) ∧ (y = x ∨ x = -0.0 ∧ y = 0.0) := by
  obtain ⟨y, hread, hy⟩ := Number.exists_readFinite?_write hx
  obtain ⟨c, cs, hcons, hc, hblank⟩ := exists_cons_write hx
  have htrim : Text.trimChars (Value.layout.write x) = Value.layout.write x :=
    Text.trimChars_eq_self (Text.stops_of_all hblank)
      (Text.stops_of_all fun d hd => hblank d (List.mem_reverse.1 hd))
  refine ⟨y, ?_, hy⟩
  unfold ofText
  dsimp only
  rw [Value.display, Number.Layout.text, String.toList_ofList, htrim]
  split
  · next heq =>
    rw [hcons] at heq
    cases heq
  · next heq =>
    rw [hcons] at heq
    exact absurd (List.cons.inj heq).1 hc
  · rw [hread]

theorem ofText_truthWord (b : Bool) : ofText (Value.truthWord b) = .value (.boolean b) := by
  cases b <;> rfl

/-- What is offered for editing is taken for the input that was typed, zero without its sign. -/
theorem ofText_editText (t : String) :
    ofText (ofText t).editText = ofText t ∨
      ofText t = .value (.number (-0.0)) ∧
        ofText (ofText t).editText = .value (.number 0.0) := by
  cases h : ofText t with
  | empty => exact Or.inl rfl
  | formula source =>
    obtain ⟨rest, htrim, rfl⟩ := formula_of_ofText h
    exact Or.inl (ofText_formula (by rw [← htrim, Text.trimChars_trimChars]))
  | value v =>
    obtain ⟨x, rfl, hx⟩ | ⟨b, rfl⟩ | rfl := value_of_ofText h
    · obtain ⟨y, hread, rfl | ⟨rfl, rfl⟩⟩ := ofText_number hx
      · exact Or.inl hread
      · exact Or.inr ⟨rfl, hread⟩
    · exact Or.inl (ofText_truthWord b)
    · exact Or.inl h

/-- What was typed is equal to itself: no text is taken for a NaN. -/
theorem equal_ofText_self (t : String) : (ofText t).Equal (ofText t) := by
  cases h : ofText t with
  | empty => exact .empty
  | formula source => exact .formula source
  | value v =>
    obtain ⟨x, rfl, hx⟩ | ⟨b, rfl⟩ | rfl := value_of_ofText h
    · exact .value (.number (Number.beq_self hx))
    · exact .value (.boolean b)
    · exact .value (.text t)

/-- **What is offered for editing means the same as what was typed.** -/
theorem equal_ofText_editText (t : String) : (ofText (ofText t).editText).Equal (ofText t) := by
  rcases ofText_editText t with h | ⟨hold, hnew⟩
  · rw [h]
    exact equal_ofText_self t
  · rw [hnew, hold]
    exact .value (.number (by decide +kernel))

end Input

namespace Sheet

/-! ### Typing what is offered -/

/-- What is offered for editing depends on the input only, accepted or not. -/
theorem editText_set (s : Sheet) (a : Address) (input : Input) :
    (s.set a input).editText a = input.editText := by
  unfold editText
  rw [cells_set_self]
  cases input with
  | empty => rfl
  | value v => rfl
  | formula source =>
    cases haccept : s.options.accept source with
    | error error =>
      simp only [entry, haccept]
      rfl
    | ok e =>
      simp only [entry, haccept]
      by_cases hcycle : (s.graph.setReads a e.dependencies).isOnCycle a = true
      · simp only [hcycle, if_true]
        rfl
      · simp only [hcycle, if_false, Bool.false_eq_true]
        rfl

/-- A value that was written is read. -/
theorem get_set_value {s : Sheet} (hl : Linked s) (hs : Settled s) (a : Address) (v : Value) :
    ((s.set a (.value v)).get a).1 = v := by
  have hval := isValuation_get (hl.set a (.value v)) (hs.set hl a (.value v)) a
  rw [cells_set_self] at hval
  exact hval

/-- `s'` is `s` after what the cell offers for editing was typed into it again. -/
structure Retyped (s : Sheet) (a : Address) (s' : Sheet) : Prop where
  /-- Nothing is changed, dirty marks and kept values included, unless the cell holds a zero with a
  sign. -/
  eq : s.content a ≠ some (.value (.number (-0.0))) → s' = s
  content : s'.content a = s.content a ∨
    ∃ v w, s'.content a = some (.value w) ∧ s.content a = some (.value v) ∧ w.Equal v
  formulas : a ∈ s'.formulas ↔ a ∈ s.formulas
  readsOf : s'.readsOf a = s.readsOf a
  get : (s'.get a).1 = (s.get a).1 ∨ (s'.get a).1.Equal (s.get a).1

theorem Retyped.refl (s : Sheet) (a : Address) : Retyped s a s where
  eq _ := rfl
  content := Or.inl rfl
  formulas := Iff.rfl
  readsOf := rfl
  get := Or.inl rfl

/-- A value that is written over an equal one. -/
theorem Retyped.of_equal {s : Sheet} (hl : Linked s) (hs : Settled s) (a : Address) {v w : Value}
    (h : w.Equal v) (hzero : v = .number (-0.0)) :
    Retyped (s.set a (.value v)) a (s.set a (.value w)) where
  eq hne := by
    refine absurd ?_ hne
    rw [content_set, if_pos rfl, hzero]
    rfl
  content := by
    rw [content_set, content_set, if_pos rfl, if_pos rfl]
    exact Or.inr ⟨v, w, rfl, rfl, h⟩
  formulas := by
    rw [mem_formulas_iff, mem_formulas_iff, cells_set_self, cells_set_self]
    exact iff_of_false nofun nofun
  readsOf := by
    rw [Sheet.readsOf, Sheet.readsOf, readsOf_set, readsOf_set, if_pos rfl, if_pos rfl]
    rfl
  get := by
    rw [get_set_value hl hs, get_set_value hl hs]
    exact Or.inr h

/-- **What is offered for editing can be typed again**: after every run, what was typed into a cell
is offered as a text that means the same, and typing that text leaves the cell as it is. -/
theorem retyped_run (o : Options) (actions : List Action) (a : Address) (t : String) :
    (Input.ofText (((run o actions).set a (.ofText t)).editText a)).Equal (.ofText t) ∧
      Retyped ((run o actions).set a (.ofText t)) a
        (((run o actions).set a (.ofText t)).set a
          (.ofText (((run o actions).set a (.ofText t)).editText a))) := by
  have hl := linked_run o actions
  have hs := settled_run o actions
  rw [editText_set, set_set_self hl hs]
  refine ⟨Input.equal_ofText_editText t, ?_⟩
  rcases Input.ofText_editText t with h | ⟨hold, hnew⟩
  · rw [h]
    exact .refl _ a
  · rw [hnew, hold]
    exact .of_equal hl hs a (.number (by decide +kernel)) rfl

end Sheet

end Worksheet
