import Worksheet.Proofs.Sheet.Determined
import Worksheet.Proofs.Sheet.Locality

/-!
# Independent writes

Two writes to different cells give the same sheet in either order, as long as no cycle makes one of
them fail (`independent_run`).  What is dirty after both is said by the graph before them
(`isDirty_set_set_iff`): a path to one of the two cells either was there before the other write or
comes by the cell written.

Two writes to one cell leave the sheet that the second one would leave alone (`overwrite_run`).
Whether its formula is taken depends on what the other cells read, which the first write does not
touch.
-/

namespace Worksheet.Sheet

/-- The write is not rejected for closing a cycle. -/
def ClosesNoCycle (s : Sheet) (a : Address) (input : Input) : Prop :=
  ∀ source, (s.set a input).cells[a]? ≠ some (.rejected source .circular)

/-- Without cycles, what a write leaves at its cell depends on the options only. -/
theorem ClosesNoCycle.entry_eq {s t : Sheet} {a : Address} {input : Input}
    (hs : s.ClosesNoCycle a input) (ht : t.ClosesNoCycle a input) (ho : t.options = s.options) :
    t.entry a input = s.entry a input := by
  cases input with
  | empty => rfl
  | value v => rfl
  | formula source =>
    have hs := hs source
    have ht := ht source
    rw [cells_set_self] at hs ht
    cases haccept : s.options.accept source with
    | error error => simp only [entry, ho, haccept]
    | ok e =>
      simp only [entry, ho, haccept] at hs ht ⊢
      split at hs
      · exact absurd rfl hs
      · split at ht
        · exact absurd rfl ht
        · simp [*]

theorem closesNoCycle_of_mem_formulas {s : Sheet} {a : Address} {input : Input}
    (h : a ∈ (s.set a input).formulas) : s.ClosesNoCycle a input := by
  intro source hrejected
  obtain ⟨f, hf⟩ := mem_formulas_iff.1 h
  rw [hf] at hrejected
  cases hrejected

/-! ### What is dirty after writes -/

/-- After a write every formula is dirty that was so before, is written or reads the cell
written. -/
theorem isDirty_set_iff_formula {s : Sheet} (hl : Linked s) {a c : Address} (input : Input) :
    (s.set a input).isDirty c = true ↔ c ∈ (s.set a input).formulas ∧
      (c = a ∨ s.isDirty c = true ∨ s.graph.ReadsThrough c a) := by
  rw [isDirty_set_iff hl]
  by_cases hc : c = a
  · subst hc
    simp
  · have hsame : (s.set a input).content c = s.content c := by
      rw [content_set, if_neg (Ne.symm hc)]
    rw [mem_formulas_congr hsame]
    simp [hc]

/-- Together the readers of two cells are the same before and after one of the two is written. -/
theorem readsThrough_set_or_iff {s : Sheet} {a b c : Address} (input : Input) (hc : c ≠ a) :
    s.graph.ReadsThrough c a ∨ (s.set a input).graph.ReadsThrough c b ↔
      s.graph.ReadsThrough c a ∨ s.graph.ReadsThrough c b := by
  have hreads : ∀ x, x ≠ a → (s.set a input).graph.readsOf x = s.graph.readsOf x := by
    intro x hx
    rw [readsOf_set, if_neg (Ne.symm hx)]
  constructor
  · rintro (h | h)
    · exact Or.inl h
    · exact h.of_agree_or (fun x hx => (hreads x hx).symm) hc
  · rintro (h | h)
    · exact Or.inl h
    -- a path that comes by `a` need not lead on from there after the write
    · refine (h.of_agree_or hreads hc).imp_left fun h => ?_
      exact h.of_agree (fun x hx => (hreads x hx).symm) hc

theorem isDirty_set_set_iff {s : Sheet} (hl : Linked s) {a b c : Address} (x y : Input) :
    ((s.set a x).set b y).isDirty c = true ↔ c ∈ ((s.set a x).set b y).formulas ∧
      (c = a ∨ c = b ∨ s.isDirty c = true ∨
        s.graph.ReadsThrough c a ∨ s.graph.ReadsThrough c b) := by
  rw [isDirty_set_iff_formula (hl.set a x), isDirty_set_iff_formula hl]
  refine and_congr_right fun hc => ?_
  by_cases hcb : c = b
  · simp [hcb]
  · have hsame : ((s.set a x).set b y).content c = (s.set a x).content c := by
      rw [content_set, if_neg (Ne.symm hcb)]
    have hformula : c ∈ (s.set a x).formulas := (mem_formulas_congr hsame).1 hc
    by_cases hca : c = a
    · simp [hca, hca ▸ hformula]
    · have hpath := readsThrough_set_or_iff (s := s) (b := b) x hca
      simp only [hcb, hca, hformula, true_and, false_or, or_assoc, hpath]

/-! ### Writes to different cells -/

/-- **Independent writes commute.** -/
theorem set_set_comm {s : Sheet} (hl : Linked s) (hs : Settled s) {a b : Address} (hab : a ≠ b)
    {x y : Input} (hx : s.ClosesNoCycle a x) (hxy : (s.set a x).ClosesNoCycle b y)
    (hy : s.ClosesNoCycle b y) (hyx : (s.set b y).ClosesNoCycle a x) :
    (s.set a x).set b y = (s.set b y).set a x := by
  -- neither write is refused, so what it leaves at its cell does not depend on the other one
  have hentrya : (s.set b y).entry a x = s.entry a x := hx.entry_eq hyx (options_set s b y)
  have hentryb : (s.set a x).entry b y = s.entry b y := hy.entry_eq hxy (options_set s a x)
  have hcontent : ∀ c, ((s.set a x).set b y).content c = ((s.set b y).set a x).content c := by
    intro c
    rw [content_set, content_set, content_set, content_set, hentrya, hentryb]
    by_cases hac : a = c
    · rw [if_neg (fun hbc => hab (hac.trans hbc.symm)), if_pos hac, if_pos hac]
    · rw [if_neg hac, if_neg hac]
  refine Settled.eq_of_content ((hl.set b y).set a x) ((hs.set hl b y).set (hl.set b y) a x)
    ((hl.set a x).set b y) ((hs.set hl a x).set (hl.set a x) b y) ?_ hcontent fun c => ?_
  · rw [options_set, options_set, options_set, options_set]
  · rw [isDirty_set_set_iff hl, isDirty_set_set_iff hl, mem_formulas_congr (hcontent c)]
    tauto

/-- **Independent writes commute**: after every run, two writes to different cells leave the same
sheet in either order, with the same contents, edges, dirty marks and values, unless one of them is
rejected for closing a cycle. -/
theorem independent_run (o : Options) (actions : List Action) {a b : Address} (hab : a ≠ b)
    {x y : Input} (hx : (run o actions).ClosesNoCycle a x)
    (hxy : ((run o actions).set a x).ClosesNoCycle b y)
    (hy : (run o actions).ClosesNoCycle b y)
    (hyx : ((run o actions).set b y).ClosesNoCycle a x) :
    ((run o actions).set a x).set b y = ((run o actions).set b y).set a x :=
  set_set_comm (linked_run o actions) (settled_run o actions) hab hx hxy hy hyx

/-- `C1` reads `A1` and has been read. -/
def readChain : List Action :=
  [.set ⟨0, 2⟩ (.formula "=A1"), .get ⟨0, 2⟩]

/-- `A1` comes to read `B1` and `B1` to read `D1`. -/
theorem independent_run_of_chain :
    (run {} readChain).isDirty ⟨0, 2⟩ = false ∧
      ((run {} readChain).set ⟨0, 0⟩ (.formula "=B1")).set ⟨0, 1⟩ (.formula "=D1") =
        ((run {} readChain).set ⟨0, 1⟩ (.formula "=D1")).set ⟨0, 0⟩ (.formula "=B1") := by
  have hx : ((run {} readChain).set ⟨0, 0⟩ (.formula "=B1")).formulas = [⟨0, 0⟩, ⟨0, 2⟩] := by cbv
  have hxy : (((run {} readChain).set ⟨0, 0⟩ (.formula "=B1")).set ⟨0, 1⟩
      (.formula "=D1")).formulas = [⟨0, 0⟩, ⟨0, 1⟩, ⟨0, 2⟩] := by cbv
  have hy : ((run {} readChain).set ⟨0, 1⟩ (.formula "=D1")).formulas = [⟨0, 1⟩, ⟨0, 2⟩] := by cbv
  have hyx : (((run {} readChain).set ⟨0, 1⟩ (.formula "=D1")).set ⟨0, 0⟩
      (.formula "=B1")).formulas = [⟨0, 0⟩, ⟨0, 1⟩, ⟨0, 2⟩] := by cbv
  refine ⟨by cbv, independent_run {} readChain (by decide) ?_ ?_ ?_ ?_⟩
  · exact closesNoCycle_of_mem_formulas (by rw [hx]; simp)
  · exact closesNoCycle_of_mem_formulas (by rw [hxy]; simp)
  · exact closesNoCycle_of_mem_formulas (by rw [hy]; simp)
  · exact closesNoCycle_of_mem_formulas (by rw [hyx]; simp)

/-! ### Writing over a cell -/

/-- What a write leaves at its cell does not depend on what was there. -/
theorem entry_set_self {s : Sheet} (hl : Linked s) (a : Address) (x y : Input) :
    (s.set a x).entry a y = s.entry a y :=
  entry_congr hl (hl.set a x) (options_set s a x)
    (fun b hab => (readsOf_set s a b x).trans (if_neg hab)) y

/-- **The last write wins**: nothing is left of the one before. -/
theorem set_set_self {s : Sheet} (hl : Linked s) (hs : Settled s) (a : Address) (x y : Input) :
    (s.set a x).set a y = s.set a y := by
  have hcontent : ∀ b, ((s.set a x).set a y).content b = (s.set a y).content b := by
    intro b
    rw [content_set, content_set, content_set, entry_set_self hl]
    split
    · rfl
    · rfl
  refine Settled.eq_of_content (hl.set a y) (hs.set hl a y) ((hl.set a x).set a y)
    ((hs.set hl a x).set (hl.set a x) a y) ?_ hcontent fun b => ?_
  · rw [options_set, options_set, options_set]
  · rw [isDirty_set_set_iff hl, isDirty_set_iff_formula hl, mem_formulas_congr (hcontent b)]
    tauto

/-- **The last write to a cell wins without residue**: after every run, two writes to one cell leave
the sheet that the second one alone leaves, with the same contents, edges, dirty marks and values.
-/
theorem overwrite_run (o : Options) (actions : List Action) (a : Address) (x y : Input) :
    ((run o actions).set a x).set a y = (run o actions).set a y :=
  set_set_self (linked_run o actions) (settled_run o actions) a x y

end Worksheet.Sheet
