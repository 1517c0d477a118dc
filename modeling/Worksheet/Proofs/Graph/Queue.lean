import Worksheet.Graph.Order
import Worksheet.Proofs.Graph.Edges

/-!
# Cells waiting to be placed

While cells are being placed, the queue is determined by the cells placed so far (`Sorting`): a cell
waits for as many cells as it reads among those not yet placed, and is ready when there are none.
At the start no cell is placed (`sorting_ofCells`), and placing a ready cell releases those that
read it (`Sorting.place`).
-/

namespace Worksheet.Graph

/-- The number of cells that `c` reads among `cells` and that are not yet placed. -/
def pending (g : Graph) (cells : AddressSet) (placed : List Address) (c : Address) : Nat :=
  (g.readsOf c).toList.countP fun d => decide (d ∈ cells ∧ d ∉ placed)

theorem pending_eq_zero_iff {g : Graph} {cells : AddressSet} {placed : List Address} {c : Address} :
    g.pending cells placed c = 0 ↔ ∀ d, g.Reads c d → d ∈ cells → d ∈ placed := by
  rw [pending, List.countP_eq_zero]
  simp only [Std.ExtTreeSet.mem_toList, decide_eq_true_eq, not_and, Classical.not_not, Reads]

theorem countP_placed {cells : AddressSet} {placed : List Address} {a : Address} (ha : a ∈ cells)
    (hplaced : a ∉ placed) {l : List Address} (hl : l.Nodup) :
    l.countP (fun d => decide (d ∈ cells ∧ d ∉ placed)) =
      l.countP (fun d => decide (d ∈ cells ∧ d ∉ a :: placed)) + if a ∈ l then 1 else 0 := by
  induction l with
  | nil => simp
  | cons d rest ih =>
    obtain ⟨hd, hrest⟩ := List.nodup_cons.1 hl
    rw [List.countP_cons, List.countP_cons, ih hrest]
    by_cases hda : d = a
    · subst hda
      simp [ha, hplaced, hd]
    · simp only [List.mem_cons, hda, Ne.symm hda, false_or]
      omega

/-- Placing a cell leaves one cell less to wait for to each that reads it. -/
theorem pending_cons (g : Graph) {cells : AddressSet} {placed : List Address} {a : Address}
    (ha : a ∈ cells) (hplaced : a ∉ placed) (c : Address) :
    g.pending cells placed c =
      g.pending cells (a :: placed) c + if a ∈ g.readsOf c then 1 else 0 := by
  rw [pending, countP_placed ha hplaced (AddressSet.nodup_toList _), pending]
  simp only [Std.ExtTreeSet.mem_toList]

namespace Queue

/-! ### Releasing -/

theorem waiting_release (q : Queue) (a c : Address) :
    (q.release a).waiting[c]? =
      if a = c then q.waiting[c]?.bind fun n => if n ≤ 1 then none else some (n - 1)
      else q.waiting[c]? := by
  unfold release
  by_cases hac : a = c
  · subst hac
    rw [if_pos rfl]
    cases h : q.waiting[a]? with
    | none => simpa using h
    | some n =>
      by_cases hn : n ≤ 1
      · simp [hn]
      · simp [hn]
  · rw [if_neg hac]
    cases h : q.waiting[a]? with
    | none => rfl
    | some n =>
      by_cases hn : n ≤ 1
      · simp [hn, Std.ExtTreeMap.getElem?_erase, hac]
      · simp [hn, Std.ExtTreeMap.getElem?_insert, hac]

theorem mem_ready_release (q : Queue) (a c : Address) :
    c ∈ (q.release a).ready ↔ c ∈ q.ready ∨ a = c ∧ ∃ n, q.waiting[c]? = some n ∧ n ≤ 1 := by
  unfold release
  cases h : q.waiting[a]? with
  | none =>
    refine ⟨Or.inl, ?_⟩
    rintro (hc | ⟨rfl, n, hn, -⟩)
    · exact hc
    · rw [h] at hn
      cases hn
  | some n =>
    by_cases hn : n ≤ 1
    · simp only [hn, if_true, Std.ExtTreeSet.mem_insert, Std.LawfulEqCmp.compare_eq_iff_eq]
      constructor
      · rintro (rfl | hc)
        · exact Or.inr ⟨rfl, n, h, hn⟩
        · exact Or.inl hc
      · rintro (hc | ⟨rfl, -⟩)
        · exact Or.inr hc
        · exact Or.inl rfl
    · simp only [hn, if_false]
      refine ⟨Or.inl, ?_⟩
      rintro (hc | ⟨rfl, m, hm, hle⟩)
      · exact hc
      · rw [h] at hm
        cases hm
        exact absurd hle hn

theorem waiting_foldl_release {l : List Address} (hl : l.Nodup) (q : Queue) (c : Address) :
    (l.foldl release q).waiting[c]? =
      if c ∈ l then q.waiting[c]?.bind fun n => if n ≤ 1 then none else some (n - 1)
      else q.waiting[c]? := by
  induction l generalizing q with
  | nil => simp
  | cons a rest ih =>
    obtain ⟨ha, hrest⟩ := List.nodup_cons.1 hl
    rw [List.foldl_cons, ih hrest, waiting_release]
    by_cases hac : a = c
    · subst hac
      simp [ha]
    · simp [hac, Ne.symm hac]

theorem mem_ready_foldl_release {l : List Address} (hl : l.Nodup) (q : Queue) (c : Address) :
    c ∈ (l.foldl release q).ready ↔
      c ∈ q.ready ∨ c ∈ l ∧ ∃ n, q.waiting[c]? = some n ∧ n ≤ 1 := by
  induction l generalizing q with
  | nil => simp
  | cons a rest ih =>
    obtain ⟨ha, hrest⟩ := List.nodup_cons.1 hl
    rw [List.foldl_cons, ih hrest, mem_ready_release, waiting_release]
    by_cases hac : a = c
    · subst hac
      simp [ha]
    · simp [hac, Ne.symm hac]

/-! ### The queue while cells are being placed -/

/-- The queue after the cells of `placed`, all among `cells`, have been placed. -/
structure Sorting (g : Graph) (cells : AddressSet) (placed : List Address) (q : Queue) : Prop where
  waiting_iff : ∀ {c : Address} {n : Nat}, q.waiting[c]? = some n ↔
    c ∈ cells ∧ c ∉ placed ∧ n = g.pending cells placed c ∧ n ≠ 0
  ready_iff : ∀ {c : Address}, c ∈ q.ready ↔
    c ∈ cells ∧ c ∉ placed ∧ g.pending cells placed c = 0

/-- The queue with one more cell, which waits for `n` others. -/
def enqueue (n : Address → Nat) (q : Queue) (a : Address) : Queue :=
  if n a = 0 then { q with ready := q.ready.insert a }
  else { q with waiting := q.waiting.insert a (n a) }

theorem waiting_foldl_enqueue (n : Address → Nat) (l : List Address) (q : Queue) (c : Address) :
    (l.foldl (enqueue n) q).waiting[c]? =
      if c ∈ l ∧ n c ≠ 0 then some (n c) else q.waiting[c]? := by
  induction l generalizing q with
  | nil => simp
  | cons a rest ih =>
    rw [List.foldl_cons, ih, enqueue]
    by_cases hac : a = c
    · subst hac
      by_cases ha : n a = 0
      · simp [ha]
      · simp [ha]
    · by_cases ha : n a = 0
      · simp [ha, Ne.symm hac]
      · simp [ha, hac, Ne.symm hac, Std.ExtTreeMap.getElem?_insert]

theorem mem_ready_foldl_enqueue (n : Address → Nat) (l : List Address) (q : Queue) (c : Address) :
    c ∈ (l.foldl (enqueue n) q).ready ↔ c ∈ q.ready ∨ c ∈ l ∧ n c = 0 := by
  induction l generalizing q with
  | nil => simp
  | cons a rest ih =>
    rw [List.foldl_cons, ih, enqueue]
    by_cases hac : a = c
    · subst hac
      by_cases ha : n a = 0
      · simp [ha]
      · simp [ha]
    · by_cases ha : n a = 0
      · simp [ha, hac, Ne.symm hac, Std.ExtTreeSet.mem_insert]
      · simp [ha, Ne.symm hac]

theorem foldl_count_eq_countP (cells : AddressSet) (l : List Address) (n : Nat) :
    l.foldl (fun n d => if d ∈ cells then n + 1 else n) n =
      n + l.countP fun d => decide (d ∈ cells ∧ d ∉ ([] : List Address)) := by
  induction l generalizing n with
  | nil => rfl
  | cons d rest ih =>
    rw [List.foldl_cons, ih, List.countP_cons]
    by_cases hd : d ∈ cells
    · simp [hd]
      omega
    · simp [hd]

theorem ofCells_eq (g : Graph) (cells : AddressSet) :
    ofCells g cells = cells.toList.foldl (enqueue (g.pending cells [])) ⟨∅, ∅⟩ := by
  have hcount : ∀ a, (g.readsOf a).foldl (fun n d => if d ∈ cells then n + 1 else n) 0 =
      g.pending cells [] a := by
    intro a
    rw [Std.ExtTreeSet.foldl_eq_foldl_toList, foldl_count_eq_countP, Nat.zero_add, pending]
  unfold ofCells
  rw [Std.ExtTreeSet.foldl_eq_foldl_toList]
  simp only [hcount]
  rfl

/-- At the start no cell is placed. -/
theorem sorting_ofCells (g : Graph) (cells : AddressSet) :
    Sorting g cells [] (ofCells g cells) := by
  rw [ofCells_eq]
  refine ⟨fun {c n} => ?_, fun {c} => ?_⟩
  · rw [waiting_foldl_enqueue]
    simp only [Std.ExtTreeSet.mem_toList, List.not_mem_nil, not_false_eq_true, true_and]
    split
    · next h =>
      rw [Option.some.injEq]
      constructor
      · rintro rfl
        exact ⟨h.1, rfl, h.2⟩
      · rintro ⟨-, hn, -⟩
        exact hn.symm
    · next h =>
      constructor
      · intro hn
        simp at hn
      · rintro ⟨hc, rfl, hn⟩
        exact absurd ⟨hc, hn⟩ h
  · rw [mem_ready_foldl_enqueue]
    simp

section Place

variable {g : Graph} (hg : g.Mirrored) {cells : AddressSet} {placed : List Address} {q : Queue}
  (h : Sorting g cells placed q) {a : Address} (ha : a ∈ q.ready)
include hg h ha

theorem Sorting.waiting_place {c : Address} {n : Nat} :
    ((g.readersOf a).toList.foldl release { q with ready := q.ready.erase a }).waiting[c]? =
        some n ↔
      c ∈ cells ∧ c ∉ a :: placed ∧ n = g.pending cells (a :: placed) c ∧ n ≠ 0 := by
  obtain ⟨hcells, hplaced, hzero⟩ := h.ready_iff.1 ha
  have hmem : c ∈ (g.readersOf a).toList ↔ a ∈ g.readsOf c := by
    rw [Std.ExtTreeSet.mem_toList]
    exact hg.mem_readersOf
  have hpend := pending_cons g hcells hplaced c
  rw [waiting_foldl_release (AddressSet.nodup_toList _)]
  simp only [hmem, List.mem_cons]
  by_cases hac : a ∈ g.readsOf c
  · rw [if_pos hac] at hpend ⊢
    have hne : c ≠ a := by
      rintro rfl
      omega
    cases hw : q.waiting[c]? with
    | none =>
      rw [Option.bind_none]
      constructor
      · intro hn
        cases hn
      · rintro ⟨hc, hp, -, -⟩
        have hsome := h.waiting_iff.2 ⟨hc, fun hcp => hp (Or.inr hcp), rfl, by omega⟩
        rw [hw] at hsome
        cases hsome
    | some m =>
      obtain ⟨hc, hp, rfl, hm⟩ := h.waiting_iff.1 hw
      rw [Option.bind_some]
      split
      · constructor
        · intro hn
          cases hn
        · rintro ⟨-, -, hn, hn0⟩
          omega
      · rw [Option.some.injEq]
        constructor
        · intro hn
          exact ⟨hc, by simp [hne, hp], by omega, by omega⟩
        · rintro ⟨-, -, hn, -⟩
          omega
  · rw [if_neg hac] at hpend ⊢
    rw [Nat.add_zero] at hpend
    rw [h.waiting_iff, hpend]
    constructor
    · rintro ⟨hc, hp, hn, hn0⟩
      refine ⟨hc, ?_, hn, hn0⟩
      rintro (rfl | hcp)
      · omega
      · exact hp hcp
    · rintro ⟨hc, hp, hn, hn0⟩
      exact ⟨hc, fun hcp => hp (Or.inr hcp), hn, hn0⟩

theorem Sorting.ready_place {c : Address} :
    c ∈ ((g.readersOf a).toList.foldl release { q with ready := q.ready.erase a }).ready ↔
      c ∈ cells ∧ c ∉ a :: placed ∧ g.pending cells (a :: placed) c = 0 := by
  obtain ⟨hcells, hplaced, hzero⟩ := h.ready_iff.1 ha
  have hmem : c ∈ (g.readersOf a).toList ↔ a ∈ g.readsOf c := by
    rw [Std.ExtTreeSet.mem_toList]
    exact hg.mem_readersOf
  have hpend := pending_cons g hcells hplaced c
  rw [mem_ready_foldl_release (AddressSet.nodup_toList _), hmem, List.mem_cons,
    Std.ExtTreeSet.mem_erase, h.ready_iff]
  simp only [ne_eq, Std.LawfulEqCmp.compare_eq_iff_eq]
  by_cases hac : a ∈ g.readsOf c
  · rw [if_pos hac] at hpend
    have hne : c ≠ a := by
      rintro rfl
      omega
    constructor
    · rintro (⟨-, -, -, hzero⟩ | ⟨-, n, hn, hle⟩)
      · omega
      · obtain ⟨hc, hp, rfl, -⟩ := h.waiting_iff.1 hn
        exact ⟨hc, by simp [hne, hp], by omega⟩
    · rintro ⟨hc, hp, hzero⟩
      refine Or.inr ⟨hac, _, h.waiting_iff.2 ⟨hc, fun hcp => hp (Or.inr hcp), rfl, ?_⟩, ?_⟩
      · omega
      · omega
  · rw [if_neg hac, Nat.add_zero] at hpend
    rw [hpend]
    constructor
    · rintro (⟨hne, hc, hp, hzero⟩ | ⟨hac', -⟩)
      · refine ⟨hc, ?_, hzero⟩
        rintro (rfl | hcp)
        · exact hne rfl
        · exact hp hcp
      · exact absurd hac' hac
    · rintro ⟨hc, hp, hzero⟩
      exact Or.inl ⟨fun hac' => hp (Or.inl hac'.symm), hc, fun hcp => hp (Or.inr hcp), hzero⟩

end Place

/-- Placing the first ready cell. -/
theorem Sorting.place {g : Graph} (hg : g.Mirrored) {cells : AddressSet} {placed : List Address}
    {q q' : Queue} {a : Address} (h : Sorting g cells placed q) (hq : q.place? g = some (a, q')) :
    a ∈ q.ready ∧ Sorting g cells (a :: placed) q' := by
  simp only [place?, AddressSet.first?_eq_min?, Option.map_eq_some_iff, Prod.mk.injEq] at hq
  obtain ⟨b, hb, rfl, rfl⟩ := hq
  have hready : b ∈ q.ready := Std.ExtTreeSet.min?_mem hb
  exact ⟨hready, ⟨h.waiting_place hg hready, h.ready_place hg hready⟩⟩

end Queue

end Worksheet.Graph
