import Worksheet.Proofs.Graph.Changes
import Worksheet.Proofs.Graph.Cycles

/-!
# The cycles that are found

What the two tests for cycles tell about a graph after any changes.  Asking beforehand whether some
edges would close a cycle gives the answer that the search gives once they are there
(`closesCycle_build`).  The search answers with a simple cycle through the cell if there is one
(`searched_build`), whatever other cycles the graph has.

The search carries with each cell the cells that led to it.  It need not: `Ends` describes the same
search when it notes for each cell met only the cell from which it was met, and goes back along the
notes at the end.  `Noted` ties the notes to the trails, so that no note is missing on the way back.
-/

open Relation

namespace Worksheet.Graph

/-! ### Asking beforehand -/

theorem closesCycle_iff {g : Graph} (hg : g.Mirrored) {a : Address} {cells : AddressSet} :
    g.closesCycle a cells = true ↔ ∃ b ∈ cells, b = a ∨ g.ReadsThrough b a := by
  simp only [closesCycle, Bool.or_eq_true, Std.ExtTreeSet.contains_iff_mem, AddressSet.any_iff,
    mem_allReaders_iff hg]
  constructor
  · rintro (ha | ⟨b, hread, hb⟩)
    · exact ⟨a, ha, Or.inl rfl⟩
    · exact ⟨b, hb, Or.inr hread⟩
  · rintro ⟨b, hb, rfl | hread⟩
    · exact Or.inl hb
    · exact Or.inr ⟨b, hread, hb⟩

/-- A cell comes to read itself if and only if it, or a cell that reads it already, is among those
it is to read.  Its old edges have no part in this: a path back to the cell ends where it comes to
the cell first. -/
theorem readsThrough_setReads_self_iff (g : Graph) (a : Address) (cells : AddressSet) :
    (g.setReads a cells).ReadsThrough a a ↔ ∃ b ∈ cells, b = a ∨ g.ReadsThrough b a := by
  have hagree : ∀ x, x ≠ a → (g.setReads a cells).readsOf x = g.readsOf x := by
    intro x hx
    rw [readsOf_setReads, if_neg hx.symm]
  have hfirst : ∀ b, (g.setReads a cells).Reads a b ↔ b ∈ cells := by
    intro b
    rw [Reads, readsOf_setReads, if_pos rfl]
  constructor
  · intro h
    obtain ⟨b, hab, hback⟩ := TransGen.head'_iff.1 h
    refine ⟨b, (hfirst b).1 hab, ?_⟩
    by_cases hb : b = a
    · exact Or.inl hb
    · rcases reflTransGen_iff_eq_or_transGen.1 hback with heq | hback
      · exact absurd heq.symm hb
      · exact Or.inr (ReadsThrough.of_agree (fun x hx => (hagree x hx).symm) hback hb)
  · rintro ⟨b, hb, hback⟩
    have hab := (hfirst b).2 hb
    by_cases heq : b = a
    · subst heq
      exact TransGen.single hab
    · exact TransGen.head hab ((hback.resolve_left heq).of_agree hagree heq)

/-- **Asking beforehand agrees with searching afterwards**, also for a cell that has other edges or
lies on a cycle already. -/
theorem closesCycle_build (changes : List Change) (a : Address) (cells : AddressSet) :
    (build changes).closesCycle a cells = ((build changes).setReads a cells).isOnCycle a := by
  have hg := mirrored_build changes
  rw [Bool.eq_iff_iff, closesCycle_iff hg, isOnCycle_iff (hg.setReads a cells),
    readsThrough_setReads_self_iff]

/-! ### Trails -/

/-- From `start` to the cell of the trail each cell reads the one before it, no cell comes twice,
and all of them but `start` have been met. -/
structure Trail.Sound (g : Graph) (start : Address) {β : Type} (unseen : AddressMap β)
    (t : Trail) : Prop where
  isChain : (t.cell :: t.earlier).IsChain g.Reads
  nodup : (t.cell :: t.earlier).Nodup
  ends : ∃ between, t.cell :: t.earlier = between ++ [start]
  met : ∀ a ∈ t.cell :: t.earlier, a = start ∨ a ∉ unseen

/-- A path from a cell back to itself on which each cell reads the one before it, and no cell comes
twice but the first, which is the last one. -/
structure IsCycle (g : Graph) (a : Address) (path : List Address) : Prop where
  closed : ∃ between, path = a :: (between ++ [a]) ∧ between.Nodup ∧ a ∉ between
  isChain : path.IsChain fun b c => g.Reads c b

section Sound

variable {β : Type} {g : Graph} {start : Address} {unseen : AddressMap β} {t : Trail}

theorem Trail.Sound.mono {unseen' : AddressMap β} (h : t.Sound g start unseen)
    (hsub : ∀ a, a ∈ unseen' → a ∈ unseen) : t.Sound g start unseen' :=
  ⟨h.isChain, h.nodup, h.ends, fun a ha => (h.met a ha).imp id fun hnot hmem => hnot (hsub a hmem)⟩

/-- A trail goes on to a reader that has not been met. -/
theorem Trail.Sound.step {unseen' : AddressMap β} (h : t.Sound g start unseen) {a : Address}
    (hread : g.Reads a t.cell) (hne : a ≠ start) (ha : a ∈ unseen) (hmet : a ∉ unseen')
    (hsub : ∀ b, b ∈ unseen' → b ∈ unseen) : (t.step a).Sound g start unseen' := by
  have hold := h.mono hsub
  obtain ⟨between, hends⟩ := h.ends
  refine ⟨List.isChain_cons_cons.2 ⟨hread, h.isChain⟩, List.nodup_cons.2 ⟨?_, h.nodup⟩,
    ⟨a :: between, ?_⟩, List.forall_mem_cons.2 ⟨Or.inr hmet, hold.met⟩⟩
  · intro hmem
    rcases h.met a hmem with heq | hnot
    · exact hne heq
    · exact hnot ha
  · rw [List.cons_append, ← hends]
    rfl

/-- A trail whose cell `start` reads is a cycle, seen from its end. -/
theorem Trail.Sound.isCycle (h : t.Sound g start unseen) (hread : g.Reads start t.cell) :
    IsCycle g start (start :: t.cell :: t.earlier).reverse := by
  obtain ⟨between, hends⟩ := h.ends
  have hnodup := h.nodup
  rw [hends, List.nodup_append] at hnodup
  refine ⟨⟨between.reverse, ?_, List.nodup_reverse.2 hnodup.1, ?_⟩, ?_⟩
  · rw [hends]
    simp
  · intro hmem
    exact hnodup.2.2 start (List.mem_reverse.1 hmem) start (List.mem_singleton.2 rfl) rfl
  · rw [List.isChain_reverse]
    exact List.isChain_cons_cons.2 ⟨hread, h.isChain⟩

/-- What the search answers is a cycle. -/
theorem isCycle_of_cycleFrom (hg : g.Mirrored) {frontier : List Trail} {path : List Address}
    (hsound : ∀ t ∈ frontier, t.Sound g start unseen)
    (h : cycleFrom g start unseen frontier = some path) : IsCycle g start path := by
  fun_induction cycleFrom g start unseen frontier with
  | case1 unseen => cases h
  | case2 unseen t rest readers hstart =>
    cases h
    have hread := hg.mem_readersOf.1 (Std.ExtTreeSet.contains_iff_mem.1 hstart)
    exact (hsound t List.mem_cons_self).isCycle hread
  | case3 unseen t rest readers hstart step ih =>
    have hsub : ∀ b, b ∈ step.1 → b ∈ unseen := fun b hb => (mem_unseen_discover.1 hb).1
    refine ih (fun u hu => ?_) h
    rcases mem_frontier_discover.1 hu with hu | ⟨a, ha, hunseen, rfl⟩
    · exact (hsound u (List.mem_cons_of_mem t hu)).mono hsub
    · have hne : a ≠ start := by
        rintro rfl
        exact hstart (Std.ExtTreeSet.contains_iff_mem.2 (Std.ExtTreeSet.mem_toList.1 ha))
      have hread := hg.mem_readersOf.1 (Std.ExtTreeSet.mem_toList.1 ha)
      exact (hsound t List.mem_cons_self).step hread hne hunseen
        (fun hmem => (mem_unseen_discover.1 hmem).2 ha) hsub

theorem isCycle_of_cycleThrough? (hg : g.Mirrored) {a : Address} {path : List Address}
    (h : g.cycleThrough? a = some path) : IsCycle g a path := by
  refine isCycle_of_cycleFrom hg (List.forall_mem_singleton.2 ?_) h
  exact ⟨List.isChain_singleton a, List.nodup_singleton a, ⟨[], rfl⟩,
    List.forall_mem_singleton.2 (Or.inl rfl)⟩

end Sound

/-! ### Notes in place of trails -/

/-- What a search without trails keeps: for each cell met the cell from which it was met, and the
cells whose readers have not been looked at. -/
structure Notes where
  metFrom : AddressMap Address
  pending : List Address

/-- Notes a reader of `current`, unless it has been met before. -/
def Notes.meet (current : Address) (s : Notes) (a : Address) : Notes :=
  if a ∈ s.metFrom then s else ⟨s.metFrom.insert a current, a :: s.pending⟩

/-- Going back from a cell to `start` along the notes passes these cells, and no note is missing. -/
inductive WayBack (metFrom : AddressMap Address) (start : Address) :
    Address → List Address → Prop where
  | arrived : WayBack metFrom start start []
  | back {a b : Address} {way : List Address} (hne : a ≠ start) (hnote : metFrom[a]? = some b)
      (hway : WayBack metFrom start b way) : WayBack metFrom start a (b :: way)

/-- The search that keeps notes ends with this answer.  It looks at the readers of a cell in order
and stops at `start`. -/
inductive Ends (g : Graph) (start : Address) : Notes → Option (List Address) → Prop where
  | exhausted {metFrom : AddressMap Address} : Ends g start ⟨metFrom, []⟩ none
  | found {metFrom : AddressMap Address} {current : Address} {rest way : List Address}
      (hstart : start ∈ g.readersOf current)
      (hway : WayBack (((g.readersOf current).toList.takeWhile (· ≠ start)).foldl
        (Notes.meet current) ⟨metFrom, rest⟩).metFrom start current way) :
      Ends g start ⟨metFrom, current :: rest⟩ (some (start :: current :: way).reverse)
  | onward {metFrom : AddressMap Address} {current : Address} {rest : List Address}
      {answer : Option (List Address)} (hstart : start ∉ g.readersOf current)
      (hend : Ends g start
        ((g.readersOf current).toList.foldl (Notes.meet current) ⟨metFrom, rest⟩) answer) :
      Ends g start ⟨metFrom, current :: rest⟩ answer

theorem WayBack.mono {m m' : AddressMap Address} {start a : Address} {way : List Address}
    (hsub : ∀ b c : Address, m[b]? = some c → m'[b]? = some c) (h : WayBack m start a way) :
    WayBack m' start a way := by
  induction h with
  | arrived => exact .arrived
  | back hne hnote _ ih => exact .back hne (hsub _ _ hnote) ih

theorem WayBack.unique {m : AddressMap Address} {start a : Address} {way way' : List Address}
    (h : WayBack m start a way) (h' : WayBack m start a way') : way = way' := by
  induction h generalizing way' with
  | arrived =>
    cases h' with
    | arrived => rfl
    | back hne => exact absurd rfl hne
  | back hne hnote _ ih =>
    cases h' with
    | arrived => exact absurd rfl hne
    | back _ hnote' hway' =>
      rw [hnote] at hnote'
      cases hnote'
      rw [ih hway']

/-- What has been noted stays. -/
theorem Notes.getElem?_meet {s : Notes} {a current b c : Address} (h : s.metFrom[b]? = some c) :
    (s.meet current a).metFrom[b]? = some c := by
  unfold Notes.meet
  split
  · exact h
  · next hnew =>
    have hne : a ≠ b := by
      rintro rfl
      exact hnew (AddressMap.mem_iff.2 ⟨c, h⟩)
    simp [Std.ExtTreeMap.getElem?_insert, hne, h]

theorem Notes.getElem?_foldl_meet {s : Notes} {cells : List Address} {current b c : Address}
    (h : s.metFrom[b]? = some c) :
    (cells.foldl (Notes.meet current) s).metFrom[b]? = some c :=
  List.foldlRecOn (motive := fun s' : Notes => s'.metFrom[b]? = some c) cells _ h
    fun _ hs _ _ => Notes.getElem?_meet hs

/-- The notes are those of a search that carries these trails. -/
structure Noted (g : Graph) (start : Address) {β : Type} (unseen : AddressMap β)
    (frontier : List Trail) (s : Notes) : Prop where
  pending_eq : s.pending = frontier.map Trail.cell
  mem_unseen_iff : ∀ a ∈ g.reads, a ∈ unseen ↔ a ∉ s.metFrom
  wayBack : ∀ t ∈ frontier, WayBack s.metFrom start t.cell t.earlier

section Noted

variable {β : Type} {g : Graph} {start : Address} {unseen : AddressMap β} {frontier : List Trail}
  {s : Notes}

/-- Noting the readers of a cell does what discovering them does. -/
theorem Noted.discover {t : Trail} {cells : List Address}
    (hcells : ∀ a ∈ cells, a ∈ g.reads ∧ a ≠ start)
    (hway : WayBack s.metFrom start t.cell t.earlier) (h : Noted g start unseen frontier s) :
    Noted g start (discover t.step unseen frontier cells).1
      (discover t.step unseen frontier cells).2 (cells.foldl (Notes.meet t.cell) s) := by
  induction cells generalizing unseen frontier s with
  | nil => exact h
  | cons a cells ih =>
    obtain ⟨⟨hreads, hne⟩, hrest⟩ := List.forall_mem_cons.1 hcells
    have hkept : ∀ b c : Address, s.metFrom[b]? = some c → (s.meet t.cell a).metFrom[b]? = some c :=
      fun _ _ => Notes.getElem?_meet
    rw [List.foldl_cons]
    by_cases hunseen : a ∈ unseen
    · have hnew : a ∉ s.metFrom := (h.mem_unseen_iff a hreads).1 hunseen
      have hmeet : s.meet t.cell a = ⟨s.metFrom.insert a t.cell, a :: s.pending⟩ := if_neg hnew
      have hstep : Graph.discover t.step unseen frontier (a :: cells) =
          Graph.discover t.step (unseen.erase a) (t.step a :: frontier) cells := if_pos hunseen
      rw [hstep]
      refine ih hrest (hway.mono hkept) ⟨?_, fun b hb => ?_, List.forall_mem_cons.2 ⟨?_, ?_⟩⟩
      · rw [hmeet, List.map_cons, ← h.pending_eq]
        rfl
      · rw [hmeet, Std.ExtTreeMap.mem_erase, Std.ExtTreeMap.mem_insert, h.mem_unseen_iff b hb]
        simp
      · refine .back hne ?_ (hway.mono hkept)
        rw [hmeet]
        simp [Trail.step]
      · intro u hu
        exact (h.wayBack u hu).mono hkept
    · have hold : a ∈ s.metFrom := by
        by_contra hnew
        exact hunseen ((h.mem_unseen_iff a hreads).2 hnew)
      have hmeet : s.meet t.cell a = s := if_pos hold
      have hstep : Graph.discover t.step unseen frontier (a :: cells) =
          Graph.discover t.step unseen frontier cells := if_neg hunseen
      rw [hstep, hmeet]
      exact ih hrest hway h

/-- The search that keeps notes ends with what the search that carries trails answers. -/
theorem ends_cycleFrom (hg : g.Mirrored) (unseen : AddressMap β) (frontier : List Trail) :
    ∀ s, Noted g start unseen frontier s → Ends g start s (cycleFrom g start unseen frontier) := by
  fun_induction cycleFrom g start unseen frontier with
  | case1 unseen =>
    rintro ⟨metFrom, pending⟩ h
    obtain rfl : pending = [] := h.pending_eq
    exact .exhausted
  | case2 unseen t rest readers hstart =>
    rintro ⟨metFrom, pending⟩ h
    obtain rfl : pending = t.cell :: rest.map Trail.cell := h.pending_eq
    refine .found (Std.ExtTreeSet.contains_iff_mem.1 hstart) ?_
    exact (h.wayBack t List.mem_cons_self).mono fun b c hnote => Notes.getElem?_foldl_meet hnote
  | case3 unseen t rest readers hstart step ih =>
    rintro ⟨metFrom, pending⟩ h
    obtain rfl : pending = t.cell :: rest.map Trail.cell := h.pending_eq
    have hnot : start ∉ g.readersOf t.cell := fun hmem =>
      hstart (Std.ExtTreeSet.contains_iff_mem.2 hmem)
    have hcells : ∀ a ∈ (g.readersOf t.cell).toList, a ∈ g.reads ∧ a ≠ start := by
      intro a ha
      refine ⟨hg.mem_reads_of_mem (Std.ExtTreeSet.mem_toList.1 ha), ?_⟩
      rintro rfl
      exact hnot (Std.ExtTreeSet.mem_toList.1 ha)
    have hrest : Noted g start unseen rest ⟨metFrom, rest.map Trail.cell⟩ :=
      ⟨rfl, h.mem_unseen_iff, fun u hu => h.wayBack u (List.mem_cons_of_mem t hu)⟩
    exact .onward hnot (ih _ (hrest.discover hcells (h.wayBack t List.mem_cons_self)))

theorem noted_start (g : Graph) (a : Address) : Noted g a g.reads [⟨a, []⟩] ⟨∅, [a]⟩ where
  pending_eq := rfl
  mem_unseen_iff b hb := by simp [hb]
  wayBack := List.forall_mem_singleton.2 .arrived

end Noted

/-- The search that keeps notes goes only one way. -/
theorem Ends.unique {g : Graph} {start : Address} {s : Notes}
    {answer answer' : Option (List Address)} (h : Ends g start s answer)
    (h' : Ends g start s answer') : answer = answer' := by
  induction h generalizing answer' with
  | exhausted =>
    cases h' with
    | exhausted => rfl
  | found hstart hway =>
    cases h' with
    | found _ hway' => rw [hway.unique hway']
    | onward hnot => exact absurd hstart hnot
  | onward hnot _ ih =>
    cases h' with
    | found hstart => exact absurd hstart hnot
    | onward _ hend' => exact ih hend'

/-! ### The search for a cycle -/

/-- What the search for a cycle through a cell answers. -/
structure Searched (g : Graph) (a : Address) (answer : Option (List Address)) : Prop where
  /-- A search that keeps notes in place of trails comes to an end, misses no note on the way back
  and gives this answer and no other. -/
  ends_iff : ∀ r, Ends g a ⟨∅, [a]⟩ r ↔ r = answer
  eq_none_iff : answer = none ↔ ¬ g.ReadsThrough a a
  isCycle : ∀ path, answer = some path → IsCycle g a path

/-- **The search finds a simple cycle through the cell if there is one**, in any graph. -/
theorem searched_build (changes : List Change) (a : Address) :
    Searched (build changes) a ((build changes).cycleThrough? a) := by
  have hg := mirrored_build changes
  have hends := ends_cycleFrom hg _ _ _ (noted_start (build changes) a)
  refine ⟨fun r => ⟨fun h => h.unique hends, ?_⟩, cycleThrough?_eq_none_iff hg,
    fun path h => isCycle_of_cycleThrough? hg h⟩
  rintro rfl
  exact hends

end Worksheet.Graph
