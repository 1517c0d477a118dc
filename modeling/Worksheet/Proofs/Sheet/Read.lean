import Worksheet.Sheet.Read
import Worksheet.Proofs.Graph.Order
import Worksheet.Proofs.Sheet.Write

/-!
# What a read does

A read finds the values of some dirty formulas and changes nothing else (`Refreshed`).  Each formula
comes after the dirty ones that it reads, so every evaluation sees only clean cells and none happens
inside another (`Found`), and at the end the cell asked for is clean as well (`found_read`).
-/

namespace Worksheet

open Sheet

namespace Reading

/-! ### The value of one cell -/

/-- Reading a clean cell changes nothing. -/
theorem valueOf_run_of_clean (depth : Nat) {stack : Stack} {a : Address} {r : Reading}
    (hstack : a ∉ stack.cells) (hclean : r.sheet.isDirty a = false) :
    (valueOf (depth + 1) stack a).run r = (r.sheet.shown a, r) := by
  have hholds : ¬ stack.holds a = true := fun h => hstack (Stack.holds_iff.1 h)
  rw [valueOf, if_neg hholds]
  simp only [StateT.run_bind, StateT.run_get, pure_bind, shown]
  cases ha : r.sheet.cells[a]? with
  | none => rfl
  | some cell =>
    cases cell with
    | value v => rfl
    | rejected source error => rfl
    | formula f =>
      cases hv : f.cached with
      | none =>
        rw [isDirty_iff.2 ⟨f, ha, hv⟩] at hclean
        cases hclean
      | some v =>
        simp only [hv]
        rfl

/-- **Evaluating a dirty formula that reads clean cells** keeps the value that the values at hand
give. -/
theorem valueOf_run_of_dirty (depth : Nat) {a : Address} {r : Reading} {f : Formula}
    (ha : r.sheet.cells[a]? = some (.formula f)) (hf : f.cached = none)
    (hreads : ∀ b ∈ f.expr.reads, b ≠ a ∧ r.sheet.isDirty b = false) :
    (valueOf (depth + 2) ∅ a).run r =
      (f.expr.value (m := Id) r.sheet.options.average r.sheet.shown,
        (r.note (.evaluated a ∅ r.sheet)).remember a
          (f.expr.value (m := Id) r.sheet.options.average r.sheet.shown)) := by
  have hholds : ¬ (∅ : Stack).holds a = true := by
    intro h
    have hmem := Stack.holds_iff.1 h
    cases hmem
  have henter : (∅ : Stack).enter? a = some ⟨[a], List.nodup_singleton a⟩ := rfl
  -- inside the evaluation only `a` is under evaluation, and nothing changes
  have hinner : ∀ b ∈ f.expr.reads,
      (valueOf (depth + 1) ⟨[a], List.nodup_singleton a⟩ b).run (r.note (.evaluated a ∅ r.sheet)) =
        (r.sheet.shown b, r.note (.evaluated a ∅ r.sheet)) := by
    intro b hb
    obtain ⟨hba, hclean⟩ := hreads b hb
    exact valueOf_run_of_clean depth (by simpa using hba) hclean
  rw [valueOf, if_neg hholds]
  simp only [StateT.run_bind, StateT.run_get, StateT.run_modify, pure_bind, ha, hf, henter]
  rw [Expr.run_value r.sheet.options.average f.expr hinner]
  rfl

end Reading

namespace Sheet

/-! ### Finding values -/

/-- `s'` is `s` after the formulas of `found` have been found; what was dirty among the others still
is. -/
structure Refreshed (s : Sheet) (found : List Address) (s' : Sheet) : Prop where
  sameContent : SameContent s s'
  settled : Settled s'
  isDirty_iff : ∀ b, s'.isDirty b = true ↔ s.isDirty b = true ∧ b ∉ found

theorem refreshed_refl {s : Sheet} (hs : Settled s) : Refreshed s [] s :=
  ⟨.refl s, hs, fun b => by simp⟩

theorem Refreshed.isDirty_eq_false {s s' : Sheet} {found : List Address}
    (h : Refreshed s found s') {b : Address} (hb : b ∈ found) : s'.isDirty b = false := by
  rw [Bool.eq_false_iff]
  intro hdirty
  exact ((h.isDirty_iff b).1 hdirty).2 hb

section Remember

variable {r : Reading} {a : Address} {f : Formula} (ha : r.sheet.cells[a]? = some (.formula f))
  (v : Value)
include ha

theorem cells_remember (b : Address) :
    (r.remember a v).sheet.cells[b]? =
      if a = b then some (.formula { f with cached := some v }) else r.sheet.cells[b]? := by
  rw [Reading.remember]
  dsimp only
  rw [Std.ExtTreeMap.getElem?_modify]
  simp only [Std.LawfulEqCmp.compare_eq_iff_eq, ha]
  rfl

theorem sameContent_remember : SameContent r.sheet (r.remember a v).sheet := by
  refine ⟨rfl, rfl, fun b => ?_⟩
  rw [content, content, cells_remember ha]
  split
  · next hab =>
    subst hab
    rw [ha]
    rfl
  · rfl

theorem isDirty_remember (b : Address) :
    (r.remember a v).sheet.isDirty b = true ↔ r.sheet.isDirty b = true ∧ b ≠ a := by
  by_cases hab : a = b
  · subst hab
    simp [isDirty, cells_remember ha, Cell.isDirty]
  · have hcells : (r.remember a v).sheet.cells[b]? = r.sheet.cells[b]? := by
      rw [cells_remember ha, if_neg hab]
    rw [isDirty_congr hcells]
    exact ⟨fun h => ⟨h, Ne.symm hab⟩, fun h => h.1⟩

theorem shown_remember_of_ne {b : Address} (hab : a ≠ b) :
    (r.remember a v).sheet.shown b = r.sheet.shown b :=
  shown_congr (by rw [cells_remember ha, if_neg hab])

theorem shown_remember_self : (r.remember a v).sheet.shown a = v :=
  shown_of_cached (by rw [cells_remember ha, if_pos rfl]) rfl

/-- Keeping the value that the values at hand give keeps a sheet settled. -/
theorem settled_remember (hl : Linked r.sheet) (hs : Settled r.sheet)
    (hdirty : r.sheet.isDirty a = true)
    (hreads : ∀ b, r.sheet.graph.Reads a b → r.sheet.isDirty b = false) :
    Settled
      (r.remember a (f.expr.value (m := Id) r.sheet.options.average r.sheet.shown)).sheet := by
  -- `a` was dirty, so no formula that has a value reads it
  have hclean : ∀ d, r.sheet.isDirty d = false → a ≠ d := by
    rintro d hd rfl
    rw [hdirty] at hd
    cases hd
  have hkept : ∀ {b : Address} {g : Formula} (w : Value),
      r.sheet.cells[b]? = some (.formula g) →
      (∀ d, r.sheet.graph.Reads b d → r.sheet.isDirty d = false) →
      (∀ d, r.sheet.graph.Reads b d → (r.remember a w).sheet.isDirty d = false) ∧
        g.expr.value (m := Id) r.sheet.options.average r.sheet.shown =
          g.expr.value (m := Id) r.sheet.options.average (r.remember a w).sheet.shown := by
    intro b g w hb hb'
    refine ⟨fun d hd => ?_, Expr.value_congr _ fun d hd => ?_⟩
    · rw [Bool.eq_false_iff, ne_eq, isDirty_remember ha, hb' d hd]
      simp
    · exact (shown_remember_of_ne ha w (hclean d (hb' d ((hl.reads_iff hb).2 hd)))).symm
  intro b g w hb hw
  rw [cells_remember ha] at hb
  split at hb
  · next hab =>
    subst hab
    cases hb
    cases hw
    exact hkept _ ha hreads
  · obtain ⟨hreads', hvalue⟩ := hs b g w hb hw
    rw [hvalue]
    exact hkept _ hb hreads'

end Remember

/-! ### Evaluations -/

/-- The formula of `b` is evaluated outside of any other, when all that it reads is clean. -/
def Flat (s : Sheet) (b : Address) : Event → Prop
  | .evaluated cell outer sheet => cell = b ∧ outer = ∅ ∧ SameContent s sheet ∧
      ∃ f, sheet.cells[b]? = some (.formula f) ∧ f.cached = none ∧
        ∀ d ∈ f.expr.dependencies, sheet.isDirty d = false
  | .reentered _ => False

/-- The read has found the formulas of `found`, the latest first, each by one flat evaluation. -/
structure Found (s : Sheet) (found : List Address) (r : Reading) : Prop where
  refreshed : Refreshed s found r.sheet
  events : List.Forall₂ (Flat s) found r.events

/-- **One evaluation**: reading a dirty formula whose cells are clean finds it and nothing else. -/
theorem Found.valueOf {s : Sheet} (hl : Linked s) {found : List Address} {r : Reading}
    (h : Found s found r) (depth : Nat) {a : Address} (hdirty : r.sheet.isDirty a = true)
    (hreads : ∀ b, s.graph.Reads a b → r.sheet.isDirty b = false) :
    Found s (a :: found) ((Reading.valueOf (depth + 2) ∅ a).run r).2 ∧
      ((Reading.valueOf (depth + 2) ∅ a).run r).1 =
        ((Reading.valueOf (depth + 2) ∅ a).run r).2.sheet.shown a := by
  have hsame := h.refreshed.sameContent
  have hl' : Linked r.sheet := hl.of_sameContent hsame
  obtain ⟨f, ha, hf⟩ := isDirty_iff.1 hdirty
  have hclean : ∀ b, r.sheet.graph.Reads a b → r.sheet.isDirty b = false := fun b hb =>
    hreads b (hsame.reads_iff.1 hb)
  have hrun := Reading.valueOf_run_of_dirty depth ha hf fun b hb => by
    have hread := (hl'.reads_iff ha).2 hb
    refine ⟨?_, hclean b hread⟩
    rintro rfl
    exact hl'.acyclic b (.single hread)
  have hflat : Flat s a (.evaluated a ∅ r.sheet) := by
    refine ⟨rfl, rfl, hsame, f, ha, hf, fun d hd => hclean d ((hl'.reads_iff ha).2 ?_)⟩
    exact Expr.mem_dependencies.1 hd
  rw [hrun]
  refine ⟨⟨⟨hsame.trans (sameContent_remember ha _),
    settled_remember ha hl' h.refreshed.settled hdirty hclean, fun b => ?_⟩,
    .cons hflat h.events⟩, (shown_remember_self (r := r.note _) ha _).symm⟩
  rw [isDirty_remember (r := r.note _) ha, List.mem_cons]
  show r.sheet.isDirty b = true ∧ b ≠ a ↔ _
  rw [h.refreshed.isDirty_iff]
  tauto

/-! ### A whole read -/

/-- Formulas are found one after the other, as long as each comes after the dirty ones it reads. -/
theorem Found.refresh {s : Sheet} (hl : Linked s) {stale : AddressSet}
    (hdirty : ∀ a ∈ stale, s.isDirty a = true)
    (hstale : ∀ a ∈ stale, ∀ b, s.graph.Reads a b → s.isDirty b = true → b ∈ stale) (depth : Nat)
    {list found : List Address} (horder : s.graph.InOrder stale found list)
    (hlist : ∀ a ∈ list, a ∈ stale) (hnodup : list.Nodup) (hfound : ∀ a ∈ list, a ∉ found)
    {r : Reading} (h : Found s found r) :
    Found s (list.reverse ++ found) (Reading.refresh (depth + 2) list r) := by
  induction list generalizing found r with
  | nil => exact h
  | cons a rest ih =>
    obtain ⟨hreads, horder⟩ := horder
    obtain ⟨harest, hnodup⟩ := List.nodup_cons.1 hnodup
    have ha := hlist a List.mem_cons_self
    have hdirtya : r.sheet.isDirty a = true :=
      (h.refreshed.isDirty_iff a).2 ⟨hdirty a ha, hfound a List.mem_cons_self⟩
    have hclean : ∀ b, s.graph.Reads a b → r.sheet.isDirty b = false := by
      intro b hb
      rw [Bool.eq_false_iff]
      intro hdirtyb
      obtain ⟨hdirtyb, hfoundb⟩ := (h.refreshed.isDirty_iff b).1 hdirtyb
      exact hfoundb (hreads b hb (hstale a ha b hb hdirtyb))
    have hstep := (h.valueOf hl depth hdirtya hclean).1
    rw [List.reverse_cons, List.append_assoc]
    refine ih horder (fun b hb => hlist b (List.mem_cons_of_mem a hb)) hnodup ?_ hstep
    intro b hb hmem
    rcases List.mem_cons.1 hmem with rfl | hmem
    · exact harest hb
    · exact hfound b (List.mem_cons_of_mem a hb) hmem

/-- The dirty formulas that a cell reads, directly or through other dirty ones. -/
def stale (s : Sheet) (a : Address) : AddressSet :=
  Graph.reachable (fun b => (s.readsOf b).filter s.isDirty) s.cells a

theorem mem_stale_iff {s : Sheet} {a b : Address} :
    b ∈ s.stale a ↔
      Relation.TransGen (fun x y => s.graph.Reads x y ∧ s.isDirty y = true) a b := by
  have hedge : (fun x y => y ∈ (s.readsOf x).filter s.isDirty ∧ y ∈ s.cells) =
      fun x y => s.graph.Reads x y ∧ s.isDirty y = true := by
    funext x y
    rw [List.mem_filter, readsOf, Std.ExtTreeSet.mem_toList, Graph.Reads, eq_iff_iff]
    refine ⟨fun h => h.1, fun h => ⟨h, ?_⟩⟩
    obtain ⟨f, hf, -⟩ := isDirty_iff.1 h.2
    exact AddressMap.mem_iff.2 ⟨_, hf⟩
  rw [stale, Graph.mem_reachable_iff, Graph.LeadsOn, hedge]

/-- The formulas that a read evaluates, in their order: the dirty ones that the cell reads, then the
cell itself. -/
def evaluations (s : Sheet) (a : Address) : List Address :=
  if s.isDirty a then s.staleBefore a ++ [a] else []

section Evaluations

variable {s : Sheet} (hl : Linked s) (a : Address)
include hl

theorem mem_staleBefore_iff {b : Address} :
    b ∈ s.staleBefore a ↔ s.isDirty a = true ∧ b ∈ s.stale a := by
  unfold staleBefore
  split
  · next hdirty =>
    rw [Graph.mem_evaluationOrder_iff hl.mirrored hl.acyclic]
    exact ⟨fun h => ⟨hdirty, h⟩, fun h => h.2⟩
  · next hdirty => simp [hdirty]

theorem nodup_staleBefore : (s.staleBefore a).Nodup := by
  unfold staleBefore
  split
  · exact Graph.nodup_evaluationOrder hl.mirrored hl.acyclic _
  · exact List.nodup_nil

theorem not_mem_staleBefore_self : a ∉ s.staleBefore a := by
  intro h
  have hstale := mem_stale_iff.1 ((mem_staleBefore_iff hl a).1 h).2
  exact hl.acyclic a (Relation.TransGen.mono (fun _ _ h => h.1) _ _ hstale)

theorem nodup_evaluations : (s.evaluations a).Nodup := by
  unfold evaluations
  split
  · refine List.nodup_append.2 ⟨nodup_staleBefore hl a, List.nodup_singleton a, ?_⟩
    rintro b hb c hc rfl
    obtain rfl := List.mem_singleton.1 hc
    exact not_mem_staleBefore_self hl b hb
  · exact List.nodup_nil

/-- **What a read does**: it evaluates the formulas that it needs, each once and none inside
another, and the value that it finds is the one that the sheet then shows. -/
theorem found_read (hs : Settled s) :
    Found s (s.evaluations a).reverse (s.read a).2 ∧ (s.read a).2.sheet.isDirty a = false ∧
      (s.read a).1 = (s.read a).2.sheet.shown a := by
  have hstart : Found s [] ⟨s, []⟩ := ⟨refreshed_refl hs, .nil⟩
  rw [read, depthBound, evaluations]
  by_cases hdirty : s.isDirty a = true
  · obtain ⟨f, ha, -⟩ := isDirty_iff.1 hdirty
    obtain ⟨depth, hdepth⟩ : ∃ depth, s.size = depth + 1 := by
      refine Nat.exists_eq_succ_of_ne_zero fun hzero => ?_
      rw [Std.ExtTreeMap.eq_empty_iff_size_eq_zero.2 hzero] at ha
      simp at ha
    have horder : s.staleBefore a = s.graph.evaluationOrder (s.stale a) := if_pos hdirty
    have hmem : ∀ b, b ∈ s.staleBefore a ↔ b ∈ s.stale a := fun b => by
      simp [mem_staleBefore_iff hl a, hdirty]
    have hdirtyStale : ∀ b ∈ s.stale a, s.isDirty b = true := by
      intro b hb
      obtain ⟨c, -, -, hb⟩ := Relation.TransGen.tail'_iff.1 (mem_stale_iff.1 hb)
      exact hb
    have hclosed : ∀ b ∈ s.stale a, ∀ c, s.graph.Reads b c → s.isDirty c = true → c ∈ s.stale a :=
      fun b hb c hbc hc => mem_stale_iff.2 ((mem_stale_iff.1 hb).tail ⟨hbc, hc⟩)
    have hrefresh := hstart.refresh hl hdirtyStale hclosed depth
      (horder ▸ Graph.inOrder_evaluationOrder hl.mirrored hl.acyclic _)
      (fun b hb => (hmem b).1 hb) (nodup_staleBefore hl a) (fun b _ => List.not_mem_nil)
    rw [List.append_nil] at hrefresh
    have hdirtya : (Reading.refresh (depth + 2) (s.staleBefore a) ⟨s, []⟩).sheet.isDirty a =
        true := by
      refine (hrefresh.refreshed.isDirty_iff a).2 ⟨hdirty, fun h => ?_⟩
      exact not_mem_staleBefore_self hl a (List.mem_reverse.1 h)
    have hreads : ∀ b, s.graph.Reads a b →
        (Reading.refresh (depth + 2) (s.staleBefore a) ⟨s, []⟩).sheet.isDirty b = false := by
      intro b hb
      rw [Bool.eq_false_iff]
      intro hb'
      obtain ⟨hb', hfound⟩ := (hrefresh.refreshed.isDirty_iff b).1 hb'
      refine hfound (List.mem_reverse.2 ((hmem b).2 ?_))
      exact mem_stale_iff.2 (.single ⟨hb, hb'⟩)
    obtain ⟨hfinal, hvalue⟩ := hrefresh.valueOf hl depth hdirtya hreads
    rw [hdepth, if_pos hdirty, List.reverse_append, List.reverse_singleton, List.singleton_append]
    exact ⟨hfinal, hfinal.refreshed.isDirty_eq_false List.mem_cons_self, hvalue⟩
  · have hclean := Bool.eq_false_iff.2 hdirty
    have horder : s.staleBefore a = [] := if_neg hdirty
    have hempty : a ∉ (∅ : Stack).cells := List.not_mem_nil
    have hrun := Reading.valueOf_run_of_clean (r := ⟨s, []⟩) s.size hempty hclean
    rw [horder, show Reading.refresh (s.size + 1) [] ⟨s, []⟩ = ⟨s, []⟩ from rfl, hrun,
      if_neg hdirty]
    exact ⟨hstart, hclean, rfl⟩

end Evaluations

/-- After a read the cell is clean, and the value is the one that the sheet shows. -/
theorem refreshed_get {s : Sheet} (hl : Linked s) (hs : Settled s) (a : Address) :
    ∃ found, Refreshed s found (s.get a).2 ∧ (s.get a).2.isDirty a = false ∧
      (s.get a).1 = (s.get a).2.shown a := by
  obtain ⟨hfound, hclean, hvalue⟩ := found_read hl a hs
  exact ⟨_, hfound.refreshed, hclean, hvalue⟩

end Sheet

end Worksheet
