import Worksheet.Proofs.Graph.FoundCycle
import Worksheet.Proofs.Graph.Order

/-!
# What a change affects

A change of a cell affects the cells that read it, those that read these, and so on.  In any graph
they are all found and no others, and the cell itself is found only on a cycle (`affected_build`).

The search puts a cell on its frontier once, when it meets it.  It need not: `Sweep` is a search
that marks a cell only when its turn comes, so that until then the cell may be put among the pending
ones again.  In whatever order it takes the readers of a cell, each of its steps finds another cell
or leaves one cell fewer pending.  So it ends (`Sweep.wellFounded_step`), and then it has found the
same cells (`Sweep.Tracks.mem_found_iff`).
-/

open Relation

namespace Worksheet.Graph

/-- A change of the cell `a` affects the cell `b`, which reads it directly or through others. -/
def Affects (g : Graph) : Address → Address → Prop :=
  TransGen fun a b => b ∈ g.readersOf a

section Affects

variable {g : Graph} (hg : g.Mirrored) {a b : Address}
include hg

theorem affects_iff : g.Affects a b ↔ g.ReadsThrough b a := by
  have hedge : (fun a b => b ∈ g.readersOf a) = Function.swap g.Reads := by
    funext a b
    exact propext hg.mem_readersOf
  rw [Affects, hedge, transGen_swap, ReadsThrough]

theorem mem_allReaders_iff_affects : b ∈ g.allReaders a ↔ g.Affects a b := by
  rw [mem_allReaders_iff hg, affects_iff hg]

/-- A cell affects itself if and only if there is a cycle through it. -/
theorem affects_self_iff : g.Affects a a ↔ ∃ path, IsCycle g a path := by
  rw [affects_iff hg]
  constructor
  · intro h
    have hfound := (isOnCycle_iff hg).2 h
    obtain ⟨path, hpath⟩ := Option.isSome_iff_exists.1 hfound
    exact ⟨path, isCycle_of_cycleThrough? hg hpath⟩
  · rintro ⟨path, ⟨between, rfl, -, -⟩, hchain⟩
    obtain ⟨b, rest, hrest⟩ := List.exists_cons_of_ne_nil (l := between ++ [a]) (by simp)
    rw [hrest] at hchain
    obtain ⟨hread, hchain⟩ := List.isChain_cons_cons.1 hchain
    have hback : ReflTransGen (fun b c => g.Reads c b) b a :=
      List.relationReflTransGen_of_exists_isChain_cons rest hchain (by simp [← hrest])
    exact transGen_swap.1 (TransGen.head' hread hback)

end Affects

/-! ### A search that marks cells in their turn -/

/-- A search on its way: the cells whose turn has come, and those that wait for it, some of them
perhaps several times. -/
structure Sweep where
  found : AddressSet
  pending : List Address

namespace Sweep

/-- The next cell has its turn.  If it has not had it before it is found, and its readers that have
not been found wait in front of the others, in any order. -/
inductive Step (g : Graph) : Sweep → Sweep → Prop where
  | again {found : AddressSet} {a : Address} {rest : List Address} (ha : a ∈ found) :
      Step g ⟨found, a :: rest⟩ ⟨found, rest⟩
  | find {found : AddressSet} {a : Address} {rest readers : List Address} (ha : a ∉ found)
      (hreaders : readers.Perm
        ((g.readersOf a).toList.filter fun b => decide (b ∉ found.insert a))) :
      Step g ⟨found, a :: rest⟩ ⟨found.insert a, readers ++ rest⟩

/-- **Every search ends**: each step leaves fewer cells to find, or as many to find and fewer
pending. -/
theorem wellFounded_step (g : Graph) : WellFounded fun s' s => Step g s s' := by
  refine Subrelation.wf ?_ (InvImage.wf
    (fun s : Sweep => ({b | b ∉ s.found}.ncard, s.pending.length)) WellFoundedRelation.wf)
  intro s' s h
  cases h with
  | again ha => exact Prod.Lex.right _ (Nat.lt_succ_self _)
  | @find found a rest readers ha hreaders =>
    refine Prod.Lex.left _ _ (Set.ncard_lt_ncard ⟨fun b hb hmem => ?_, fun hsub => ?_⟩)
    · exact hb (Std.ExtTreeSet.mem_insert.2 (Or.inr hmem))
    · exact hsub ha (Std.ExtTreeSet.mem_insert.2 (Or.inl (Std.LawfulEqCmp.compare_eq_iff_eq.2 rfl)))

/-- As long as cells are pending there is a next step. -/
theorem exists_step (g : Graph) {s : Sweep} (hs : s.pending ≠ []) : ∃ s', Step g s s' := by
  obtain ⟨found, pending⟩ := s
  cases pending with
  | nil => exact absurd rfl hs
  | cons a rest =>
    by_cases ha : a ∈ found
    · exact ⟨_, .again ha⟩
    · exact ⟨_, .find ha (List.Perm.refl _)⟩

/-- The search for what `a` affects begins with the readers of `a`. -/
structure IsStart (g : Graph) (a : Address) (s : Sweep) : Prop where
  found : s.found = ∅
  pending : s.pending.Perm (g.readersOf a).toList

/-- Only what `a` affects is found or pending, and no reader of `a` or of a found cell is
forgotten. -/
structure Tracks (g : Graph) (a : Address) (s : Sweep) : Prop where
  affects : ∀ b, b ∈ s.found ∨ b ∈ s.pending → g.Affects a b
  readers : ∀ b c, b = a ∨ b ∈ s.found → c ∈ g.readersOf b → c ∈ s.found ∨ c ∈ s.pending

section Tracks

variable {g : Graph} {a : Address} {s s' : Sweep}

theorem IsStart.tracks (h : IsStart g a s) : Tracks g a s := by
  have hfound : ∀ b, b ∉ s.found := by
    intro b
    rw [h.found]
    exact Std.ExtTreeSet.not_mem_empty
  have hpending : ∀ b, b ∈ s.pending ↔ b ∈ g.readersOf a := by
    intro b
    rw [h.pending.mem_iff, Std.ExtTreeSet.mem_toList]
  refine ⟨fun b hb => ?_, fun b c hb hc => Or.inr ((hpending c).2 ?_)⟩
  · exact .single ((hpending b).1 (hb.resolve_left (hfound b)))
  · rwa [hb.resolve_right (hfound b)] at hc

/-- **One step** forgets nothing and adds only what the cell affects. -/
theorem Tracks.step (h : Tracks g a s) (hstep : Step g s s') : Tracks g a s' := by
  cases hstep with
  | @again found b rest hb =>
    refine ⟨fun c hc => h.affects c (hc.imp_right (List.mem_cons_of_mem b)), fun c d hc hd => ?_⟩
    rcases h.readers c d hc hd with hd | hd
    · exact Or.inl hd
    · rcases List.mem_cons.1 hd with rfl | hd
      · exact Or.inl hb
      · exact Or.inr hd
  | @find found b rest readers hb hreaders =>
    have hinsert : ∀ c, c ∈ found.insert b ↔ c = b ∨ c ∈ found := by
      intro c
      rw [Std.ExtTreeSet.mem_insert, Std.LawfulEqCmp.compare_eq_iff_eq, eq_comm]
    have hmem : ∀ c, c ∈ readers ↔ c ∈ g.readersOf b ∧ c ∉ found.insert b := by
      intro c
      rw [hreaders.mem_iff, List.mem_filter, Std.ExtTreeSet.mem_toList, decide_eq_true_eq]
    have haffects : g.Affects a b := h.affects b (Or.inr List.mem_cons_self)
    refine ⟨fun c hc => ?_, fun c d hc hd => ?_⟩
    · rw [hinsert, List.mem_append, hmem] at hc
      rcases hc with (rfl | hc) | hc | hc
      · exact haffects
      · exact h.affects c (Or.inl hc)
      · exact haffects.tail hc.1
      · exact h.affects c (Or.inr (List.mem_cons_of_mem b hc))
    · -- a reader that is not found yet waits: since this step if it reads `b`, else since before
      by_cases hnew : d ∈ found.insert b
      · exact Or.inl hnew
      · refine Or.inr (List.mem_append.2 ?_)
        rw [hinsert, or_left_comm] at hc
        rcases hc with rfl | hc
        · exact Or.inl ((hmem d).2 ⟨hd, hnew⟩)
        · rw [hinsert, not_or] at hnew
          have hkept := (h.readers c d hc hd).resolve_left hnew.2
          exact Or.inr ((List.mem_cons.1 hkept).resolve_left hnew.1)

theorem Tracks.steps (h : Tracks g a s) (hsteps : ReflTransGen (Step g) s s') : Tracks g a s' := by
  induction hsteps with
  | refl => exact h
  | tail _ hstep ih => exact ih.step hstep

/-- **When no cell is pending, the search has found what the cell affects.** -/
theorem Tracks.mem_found_iff (h : Tracks g a s) (hs : s.pending = []) {b : Address} :
    b ∈ s.found ↔ g.Affects a b := by
  have hreaders : ∀ b c, b = a ∨ b ∈ s.found → c ∈ g.readersOf b → c ∈ s.found := by
    intro b c hb hc
    refine (h.readers b c hb hc).resolve_right ?_
    rw [hs]
    exact List.not_mem_nil
  refine ⟨fun hb => h.affects b (Or.inl hb), fun hb => ?_⟩
  induction hb with
  | single hc => exact hreaders a _ (Or.inl rfl) hc
  | tail _ hc ih => exact hreaders _ _ (Or.inr ih) hc

end Tracks

end Sweep

/-! ### The cells affected -/

/-- Whatever cycles there are, all cells are ordered and none twice. -/
theorem perm_evaluationOrder {g : Graph} (hg : g.Mirrored) (cells : AddressSet) :
    (g.evaluationOrder cells).Perm cells.toList := by
  obtain ⟨free, stuck, horder, hranked⟩ := exists_ranked hg cells
  rw [horder]
  exact hranked.perm

/-- What is told about the cells that a change of a cell affects. -/
structure Affected (g : Graph) (a : Address) : Prop where
  mem_allReaders_iff : ∀ b, b ∈ g.allReaders a ↔ g.Affects a b
  /-- The cell itself is found if and only if it lies on a cycle. -/
  self_mem_iff : a ∈ g.allReaders a ↔ ∃ path, IsCycle g a path
  /-- A search that marks cells only in their turn comes to an end, whatever order it takes them
  in, -/
  ends : ∀ s, Sweep.IsStart g a s → Acc (fun t t' => Sweep.Step g t' t) s
  /-- and when it has no step left it has found the same cells. -/
  found_eq : ∀ s s', Sweep.IsStart g a s → ReflTransGen (Sweep.Step g) s s' →
    (∀ t, ¬ Sweep.Step g s' t) → s'.found = g.allReaders a
  /-- The evaluation order has the cells affected, except for the cell itself, and each once. -/
  mem_affectedOrder_iff : ∀ b, b ∈ g.affectedOrder a ↔ b ≠ a ∧ g.Affects a b
  nodup_affectedOrder : (g.affectedOrder a).Nodup

/-- **What a change affects is found exactly**, in any graph. -/
theorem affected_build (changes : List Change) (a : Address) : Affected (build changes) a := by
  have hg := mirrored_build changes
  have hperm := perm_evaluationOrder hg (((build changes).allReaders a).erase a)
  refine ⟨fun b => mem_allReaders_iff_affects hg, ?_, fun s _ => (Sweep.wellFounded_step _).apply s,
    fun s s' hs hsteps hend => ?_, fun b => ?_, ?_⟩
  · rw [mem_allReaders_iff_affects hg, affects_self_iff hg]
  · have hpending : s'.pending = [] := by
      by_contra hne
      obtain ⟨t, ht⟩ := Sweep.exists_step (build changes) hne
      exact hend t ht
    refine Std.ExtTreeSet.ext_mem fun b => ?_
    rw [(hs.tracks.steps hsteps).mem_found_iff hpending, mem_allReaders_iff_affects hg]
  · rw [affectedOrder, hperm.mem_iff, Std.ExtTreeSet.mem_toList, Std.ExtTreeSet.mem_erase, ne_eq,
      Std.LawfulEqCmp.compare_eq_iff_eq, mem_allReaders_iff_affects hg, eq_comm]
  · exact hperm.nodup_iff.2 (AddressSet.nodup_toList _)

end Worksheet.Graph
