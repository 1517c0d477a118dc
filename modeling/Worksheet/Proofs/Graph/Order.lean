import Worksheet.Proofs.Graph.Changes
import Worksheet.Proofs.Graph.Cycles
import Worksheet.Proofs.Graph.Queue

/-!
# The evaluation order is an order of evaluation

Of the cells to be ordered some are `Stuck`: they lie on a cycle among the cells, or read through
others a cell that does.  The evaluation order has the others first, in the first order by address
in which every cell comes after those it reads, and the stuck ones behind them (`leastOrder_build`).
In a graph without cycles no cell is stuck, so that every cell comes once and after the cells it
reads (`inOrder_evaluationOrder`, `mem_evaluationOrder_iff`, `nodup_evaluationOrder`).
-/

open Relation

namespace Worksheet

/-- Row by row, the cell `a` comes before the cell `b`. -/
def Address.Precedes (a b : Address) : Prop :=
  a.index < b.index

theorem Address.precedes_iff {a b : Address} : a.Precedes b ↔ compare a b = .lt :=
  Nat.compare_eq_lt.symm

namespace Graph

/-- Every cell of the list comes after the cells among `cells` that it reads, when `placed` come
before the list. -/
def InOrder (g : Graph) (cells : AddressSet) : List Address → List Address → Prop
  | _, [] => True
  | placed, a :: rest =>
    (∀ d, g.Reads a d → d ∈ cells → d ∈ placed) ∧ InOrder g cells (a :: placed) rest

/-! ### Stuck cells -/

/-- The cell `a` reads the cell `b`, and both are among `cells`. -/
def ReadsAmong (g : Graph) (cells : AddressSet) (a b : Address) : Prop :=
  a ∈ cells ∧ b ∈ cells ∧ g.Reads a b

/-- Among `cells`, the cell lies on a cycle or reads, directly or through others, one that does. -/
def Stuck (g : Graph) (cells : AddressSet) (a : Address) : Prop :=
  ∃ b, ReflTransGen (g.ReadsAmong cells) a b ∧ TransGen (g.ReadsAmong cells) b b

section Stuck

variable {g : Graph} {cells : AddressSet} {a : Address}

theorem Stuck.of_reads {b : Address} (hab : g.ReadsAmong cells a b) (hb : g.Stuck cells b) :
    g.Stuck cells a := by
  obtain ⟨c, hbc, hcycle⟩ := hb
  exact ⟨c, hbc.head hab, hcycle⟩

theorem Stuck.exists_reads (ha : g.Stuck cells a) :
    ∃ b, g.ReadsAmong cells a b ∧ g.Stuck cells b := by
  obtain ⟨c, hac, hcycle⟩ := ha
  rcases ReflTransGen.cases_head hac with rfl | ⟨b, hab, hbc⟩
  · obtain ⟨b, hab, hba⟩ := TransGen.head'_iff.1 hcycle
    exact ⟨b, hab, a, hba, hcycle⟩
  · exact ⟨b, hab, c, hbc, hcycle⟩

theorem Stuck.mem (ha : g.Stuck cells a) : a ∈ cells := by
  obtain ⟨b, hab, -⟩ := ha.exists_reads
  exact hab.1

/-- What holds of a cell that is not stuck as soon as it holds of all cells it reads holds of every
cell that is not stuck. -/
theorem wellFounded_not_stuck (g : Graph) (cells : AddressSet) :
    WellFounded fun b a => g.ReadsAmong cells a b ∧ ¬ g.Stuck cells a := by
  refine wellFounded_of_no_cycle (r := fun a b => g.ReadsAmong cells a b ∧ ¬ g.Stuck cells a) ?_
  intro a hcycle
  obtain ⟨b, ⟨-, hfree⟩, -⟩ := TransGen.head'_iff.1 hcycle
  exact hfree ⟨a, ReflTransGen.refl, TransGen.mono (fun _ _ h => h.1) _ _ hcycle⟩

theorem Acyclic.not_stuck (hac : g.Acyclic) : ¬ g.Stuck cells a := by
  rintro ⟨b, -, hcycle⟩
  exact hac b (TransGen.mono (fun _ _ h => h.2.2) _ _ hcycle)

end Stuck

/-! ### Runs of the queue -/

/-- Behind the cells of `placed` come the free cells and then the stuck ones.  No order of the free
cells by which they can be evaluated is earlier by address, and the stuck cells go by address. -/
structure Ranked (g : Graph) (cells : AddressSet) (placed free stuck : List Address) : Prop where
  mem_free_iff : ∀ c, c ∈ free ↔ c ∈ cells ∧ c ∉ placed ∧ ¬ g.Stuck cells c
  nodup : free.Nodup
  inOrder : InOrder g cells placed free
  least : ∀ other, other.Perm free → InOrder g cells placed other →
    free = other ∨ List.Lex Address.Precedes free other
  mem_stuck_iff : ∀ c, c ∈ stuck ↔ g.Stuck cells c
  sorted : stuck.Pairwise Address.Precedes

namespace Queue

/-- The queue after the cells of `placed` have been placed, none of them stuck and each after the
cells it reads. -/
structure Progress (g : Graph) (cells : AddressSet) (placed : List Address) (q : Queue) : Prop
    extends Sorting g cells placed q where
  closed : ∀ c ∈ placed, ∀ d, g.Reads c d → d ∈ cells → d ∈ placed
  free : ∀ c ∈ placed, ¬ g.Stuck cells c

theorem progress_ofCells (g : Graph) (cells : AddressSet) :
    Progress g cells [] (ofCells g cells) where
  toSorting := sorting_ofCells g cells
  closed _ hc := absurd hc List.not_mem_nil
  free _ hc := absurd hc List.not_mem_nil

section Progress

variable {g : Graph} (hg : g.Mirrored) {cells : AddressSet} {placed : List Address}
  {q q' : Queue} {a : Address}
include hg

/-- Placing the first ready cell. -/
theorem Progress.place (h : Progress g cells placed q) (hq : q.place? g = some (a, q')) :
    Progress g cells (a :: placed) q' := by
  obtain ⟨hready, hsorting⟩ := h.toSorting.place hg hq
  obtain ⟨hcells, -, hzero⟩ := h.ready_iff.1 hready
  have hreads := pending_eq_zero_iff.1 hzero
  refine ⟨hsorting, List.forall_mem_cons.2 ⟨fun d had hd => ?_, fun c hc d hcd hd => ?_⟩,
    List.forall_mem_cons.2 ⟨fun hstuck => ?_, h.free⟩⟩
  · exact List.mem_cons_of_mem a (hreads d had hd)
  · exact List.mem_cons_of_mem a (h.closed c hc d hcd hd)
  · obtain ⟨b, ⟨-, hb, hab⟩, hstuck⟩ := hstuck.exists_reads
    exact h.free b (hreads b hab hb) hstuck

/-- A cell that reads the one being placed is waiting, whichever of its fellows have been released
before it. -/
theorem Progress.waiting_of_reads (h : Progress g cells placed q) (ha : a ∈ q.ready)
    {before after : List Address} {c : Address}
    (hreaders : (before ++ c :: after).Perm (g.readersOf a).toList) (hc : c ∈ cells) :
    ∃ n, (before.foldl release { q with ready := q.ready.erase a }).waiting[c]? =
      some (n + 1) := by
  obtain ⟨hcells, hplaced, -⟩ := h.ready_iff.1 ha
  have hread : g.Reads c a := by
    rw [← hg.mem_readersOf, ← Std.ExtTreeSet.mem_toList, ← hreaders.mem_iff]
    simp
  have hnodup := hreaders.nodup_iff.2 (AddressSet.nodup_toList (g.readersOf a))
  have hbefore : c ∉ before := fun hmem =>
    (List.nodup_append.1 hnodup).2.2 c hmem c List.mem_cons_self rfl
  have hnew : c ∉ placed := fun hmem => hplaced (h.closed c hmem a hread hcells)
  have hpending : g.pending cells placed c ≠ 0 := fun hzero =>
    hplaced (pending_eq_zero_iff.1 hzero a hread hcells)
  obtain ⟨n, hn⟩ := Nat.exists_eq_succ_of_ne_zero hpending
  rw [waiting_foldl_release (List.nodup_append.1 hnodup).1, if_neg hbefore]
  exact ⟨n, h.waiting_iff.2 ⟨hc, hnew, hn.symm, Nat.succ_ne_zero n⟩⟩

omit hg in
/-- When no cell is ready, the cells that have been placed are those that are not stuck. -/
theorem Progress.mem_placed_iff (h : Progress g cells placed q) (hready : q.ready = ∅)
    {c : Address} (hc : c ∈ cells) : c ∈ placed ↔ ¬ g.Stuck cells c := by
  refine ⟨h.free c, fun hfree => ?_⟩
  induction c using (wellFounded_not_stuck g cells).induction with
  | _ c ih =>
    by_contra hplaced
    have hreads : ∀ d, g.Reads c d → d ∈ cells → d ∈ placed := fun d hcd hd =>
      ih d ⟨⟨hc, hd, hcd⟩, hfree⟩ hd fun hstuck => hfree (hstuck.of_reads ⟨hc, hd, hcd⟩)
    have hmem : c ∈ q.ready := h.ready_iff.2 ⟨hc, hplaced, pending_eq_zero_iff.2 hreads⟩
    rw [hready] at hmem
    exact Std.ExtTreeSet.not_mem_empty hmem

omit hg in
/-- When no cell is ready, the cells still waiting are the stuck ones. -/
theorem Progress.mem_keys_waiting_iff (h : Progress g cells placed q) (hready : q.ready = ∅)
    {c : Address} : c ∈ q.waiting.keys ↔ g.Stuck cells c := by
  rw [Std.ExtTreeMap.mem_keys, AddressMap.mem_iff]
  constructor
  · rintro ⟨n, hn⟩
    obtain ⟨hc, hplaced, -⟩ := h.waiting_iff.1 hn
    exact by_contra fun hfree => hplaced ((h.mem_placed_iff hready hc).2 hfree)
  · intro hstuck
    have hplaced : c ∉ placed := fun hmem => h.free c hmem hstuck
    refine ⟨_, h.waiting_iff.2 ⟨hstuck.mem, hplaced, rfl, fun hzero => ?_⟩⟩
    have hmem : c ∈ q.ready := h.ready_iff.2 ⟨hstuck.mem, hplaced, hzero⟩
    rw [hready] at hmem
    exact Std.ExtTreeSet.not_mem_empty hmem

omit hg in
/-- When no cell is ready, no free cell is left, and the stuck ones come last. -/
theorem Progress.ranked (h : Progress g cells placed q) (hready : q.ready = ∅) :
    Ranked g cells placed [] q.waiting.keys where
  mem_free_iff c := by
    refine ⟨fun hc => absurd hc List.not_mem_nil, ?_⟩
    rintro ⟨hc, hplaced, hfree⟩
    exact absurd ((h.mem_placed_iff hready hc).2 hfree) hplaced
  nodup := List.nodup_nil
  inOrder := trivial
  least other hperm _ := Or.inl (List.perm_nil.1 hperm).symm
  mem_stuck_iff _ := h.mem_keys_waiting_iff hready
  sorted := by
    have hkeys : q.waiting.keys.Pairwise fun a b => compare a b = .lt :=
      Std.ExtTreeMap.ordered_keys
    exact hkeys.imp Address.precedes_iff.2

omit hg in
/-- The first ready cell comes first among the free ones. -/
theorem Ranked.cons (h : Progress g cells placed q) (ha : q.ready.min? = some a)
    {free stuck : List Address} (hnext : Ranked g cells (a :: placed) free stuck)
    (hstuck : ¬ g.Stuck cells a) : Ranked g cells placed (a :: free) stuck := by
  obtain ⟨hcells, hplaced, hzero⟩ := h.ready_iff.1 (Std.ExtTreeSet.min?_mem ha)
  have hmem : ∀ c, c ∈ a :: free ↔ c ∈ cells ∧ c ∉ placed ∧ ¬ g.Stuck cells c := by
    intro c
    rw [List.mem_cons, hnext.mem_free_iff, List.mem_cons]
    by_cases hca : c = a
    · subst hca
      simp [hcells, hplaced, hstuck]
    · simp [hca]
  refine ⟨hmem, List.nodup_cons.2 ⟨?_, hnext.nodup⟩, ⟨pending_eq_zero_iff.1 hzero, hnext.inOrder⟩,
    fun other hperm horder => ?_, hnext.mem_stuck_iff, hnext.sorted⟩
  · rw [hnext.mem_free_iff]
    simp
  · cases other with
    | nil => exact absurd hperm.symm.eq_nil (List.cons_ne_nil a free)
    | cons b rest =>
      -- whatever comes first in another order could be placed now as well
      obtain ⟨hb, hnew, -⟩ := (hmem b).1 (hperm.mem_iff.1 List.mem_cons_self)
      have hready : b ∈ q.ready := h.ready_iff.2 ⟨hb, hnew, pending_eq_zero_iff.2 horder.1⟩
      have hle : (compare a b).isLE :=
        (Std.ExtTreeSet.min?_eq_some_iff_mem_and_forall.1 ha).2 b hready
      rcases Ordering.isLE_iff_eq_lt_or_eq_eq.1 hle with hlt | heq
      · exact Or.inr (.rel (Address.precedes_iff.2 hlt))
      · obtain rfl := Std.LawfulEqCmp.eq_of_compare heq
        rcases hnext.least rest hperm.cons_inv horder.2 with rfl | hlex
        · exact Or.inl rfl
        · exact Or.inr (.cons hlex)

/-- **A run places all cells that are not stuck**, in the first order that evaluation allows. -/
theorem Progress.run (h : Progress g cells placed q) :
    ∃ free stuck, q.run g = free ++ stuck ∧ Ranked g cells placed free stuck := by
  fun_induction Queue.run g q generalizing placed with
  | case1 q hq =>
    have hready : q.ready = ∅ := by
      rw [place?, Option.map_eq_none_iff, AddressSet.first?_eq_min?] at hq
      exact Std.ExtTreeSet.min?_eq_none_iff.1 hq
    exact ⟨[], q.waiting.keys, rfl, h.ranked hready⟩
  | case2 q a q' hq _ ih =>
    have hnext := h.place hg hq
    obtain ⟨free, stuck, hrun, hranked⟩ := ih hnext
    have ha : q.ready.min? = some a := by
      rw [place?, AddressSet.first?_eq_min?] at hq
      obtain ⟨b, hb, heq⟩ := Option.map_eq_some_iff.1 hq
      rw [hb, (Prod.mk.inj heq).1]
    refine ⟨a :: free, stuck, ?_, Ranked.cons h ha hranked (hnext.free a List.mem_cons_self)⟩
    rw [hrun]
    rfl

end Progress

end Queue

/-! ### The evaluation order -/

section EvaluationOrder

variable {g : Graph} (hg : g.Mirrored)
include hg

theorem exists_ranked (cells : AddressSet) : ∃ free stuck,
    g.evaluationOrder cells = free ++ stuck ∧ Ranked g cells [] free stuck :=
  (Queue.progress_ofCells g cells).run hg

variable (hac : g.Acyclic) (cells : AddressSet)
include hac

/-- Without cycles all cells are free. -/
theorem ranked_evaluationOrder : Ranked g cells [] (g.evaluationOrder cells) [] := by
  obtain ⟨free, stuck, horder, hranked⟩ := exists_ranked hg cells
  have hnone : stuck = [] := List.eq_nil_iff_forall_not_mem.2 fun c hc =>
    hac.not_stuck ((hranked.mem_stuck_iff c).1 hc)
  subst hnone
  rwa [horder, List.append_nil]

/-- **Every cell comes after those it reads.** -/
theorem inOrder_evaluationOrder : InOrder g cells [] (g.evaluationOrder cells) :=
  (ranked_evaluationOrder hg hac cells).inOrder

theorem mem_evaluationOrder_iff {c : Address} : c ∈ g.evaluationOrder cells ↔ c ∈ cells := by
  rw [(ranked_evaluationOrder hg hac cells).mem_free_iff]
  simp [hac.not_stuck]

theorem nodup_evaluationOrder : (g.evaluationOrder cells).Nodup :=
  (ranked_evaluationOrder hg hac cells).nodup

end EvaluationOrder

/-- The queues that come up while the cells are being placed. -/
def Queue.Passed (g : Graph) (cells : AddressSet) : Queue → Prop :=
  ReflTransGen (fun q q' => ∃ a, q.place? g = some (a, q')) (Queue.ofCells g cells)

theorem Queue.Passed.exists_progress {g : Graph} (hg : g.Mirrored) {cells : AddressSet} {q : Queue}
    (h : Queue.Passed g cells q) : ∃ placed, Progress g cells placed q := by
  induction h with
  | refl => exact ⟨[], progress_ofCells g cells⟩
  | tail _ hq ih =>
    obtain ⟨placed, hprogress⟩ := ih
    obtain ⟨a, hq⟩ := hq
    exact ⟨a :: placed, hprogress.place hg hq⟩

/-- The cells that are not stuck in the first order that evaluation allows, then the stuck ones. -/
structure LeastOrder (g : Graph) (cells : AddressSet) (order : List Address) : Prop where
  perm : order.Perm cells.toList
  exists_ranked : ∃ free stuck, order = free ++ stuck ∧ Ranked g cells [] free stuck
  /-- A cell that is released waits for one cell at least: in whatever order the readers of a
  placed cell are released, no count goes below zero. -/
  waiting_of_release : ∀ q a q', Queue.Passed g cells q → q.place? g = some (a, q') →
    ∀ before c after, (before ++ c :: after).Perm (g.readersOf a).toList → c ∈ cells →
      ∃ n, (before.foldl Queue.release { q with ready := q.ready.erase a }).waiting[c]? =
        some (n + 1)

theorem Ranked.perm {g : Graph} {cells : AddressSet} {free stuck : List Address}
    (h : Ranked g cells [] free stuck) : (free ++ stuck).Perm cells.toList := by
  have hstuck : stuck.Nodup := h.sorted.imp fun {a b} hab heq => by
    subst heq
    exact Nat.lt_irrefl _ hab
  have hnodup : (free ++ stuck).Nodup := List.nodup_append.2
    ⟨h.nodup, hstuck, fun a ha b hb heq => by
      subst heq
      exact ((h.mem_free_iff a).1 ha).2.2 ((h.mem_stuck_iff a).1 hb)⟩
  rw [List.perm_ext_iff_of_nodup hnodup (AddressSet.nodup_toList cells)]
  intro c
  rw [List.mem_append, h.mem_free_iff, h.mem_stuck_iff, Std.ExtTreeSet.mem_toList]
  constructor
  · rintro (⟨hc, -⟩ | hstuck)
    · exact hc
    · exact hstuck.mem
  · intro hc
    by_cases hstuck : g.Stuck cells c
    · exact Or.inr hstuck
    · exact Or.inl ⟨hc, List.not_mem_nil, hstuck⟩

/-- **The evaluation order is the least one**, of any cells of any graph. -/
theorem leastOrder_build (changes : List Change) (cells : AddressSet) :
    LeastOrder (build changes) cells ((build changes).evaluationOrder cells) := by
  have hg := mirrored_build changes
  obtain ⟨free, stuck, horder, hranked⟩ := exists_ranked hg cells
  refine ⟨horder ▸ hranked.perm, ⟨free, stuck, horder, hranked⟩, ?_⟩
  intro q a q' hpassed hq before c after hreaders hc
  obtain ⟨placed, hprogress⟩ := hpassed.exists_progress hg
  have ha := (hprogress.toSorting.place hg hq).1
  exact hprogress.waiting_of_reads hg ha hreaders hc

end Graph

end Worksheet
