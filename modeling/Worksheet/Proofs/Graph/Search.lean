import Mathlib
import Worksheet.Graph.Search

/-!
# What the searches find

A search keeps a frontier and the cells not yet met.  `Leads next unseen a b` says that `next` leads
from `a` to `b` over unseen cells; one step of a search keeps the cells that the frontier leads to,
apart from the cell taken from its front (`exists_leads_iff`).  From this step both searches are
read off: `mem_reachable_iff` and `isSome_cycleFrom_iff`.
-/

open Relation

namespace Worksheet.Graph

variable {α β : Type}

section Discover

variable {entry : Address → α} {unseen : AddressMap β} {frontier : List α} {cells : List Address}

theorem mem_unseen_discover {b : Address} :
    b ∈ (discover entry unseen frontier cells).1 ↔ b ∈ unseen ∧ b ∉ cells := by
  induction cells generalizing unseen frontier with
  | nil => simp [discover]
  | cons a rest ih =>
    unfold discover
    split
    · rw [ih, Std.ExtTreeMap.mem_erase, List.mem_cons]
      simp only [ne_eq, Std.LawfulEqCmp.compare_eq_iff_eq]
      tauto
    · next ha =>
      rw [ih, List.mem_cons]
      constructor
      · rintro ⟨hb, hr⟩
        refine ⟨hb, ?_⟩
        rintro (rfl | hr')
        · exact ha hb
        · exact hr hr'
      · rintro ⟨hb, hr⟩
        exact ⟨hb, fun hr' => hr (Or.inr hr')⟩

theorem mem_frontier_discover {t : α} :
    t ∈ (discover entry unseen frontier cells).2 ↔
      t ∈ frontier ∨ ∃ c ∈ cells, c ∈ unseen ∧ entry c = t := by
  induction cells generalizing unseen frontier with
  | nil => simp [discover]
  | cons a rest ih =>
    unfold discover
    split
    · next ha =>
      rw [ih]
      simp only [Std.ExtTreeMap.mem_erase, ne_eq, Std.LawfulEqCmp.compare_eq_iff_eq, List.mem_cons]
      constructor
      · rintro ((rfl | ht) | ⟨c, hc, ⟨-, hu⟩, rfl⟩)
        · exact Or.inr ⟨a, Or.inl rfl, ha, rfl⟩
        · exact Or.inl ht
        · exact Or.inr ⟨c, Or.inr hc, hu, rfl⟩
      · rintro (ht | ⟨c, hc, hu, rfl⟩)
        · exact Or.inl (Or.inr ht)
        · by_cases hca : a = c
          · exact Or.inl (Or.inl (by rw [hca]))
          · exact Or.inr ⟨c, hc.resolve_left (fun h => hca h.symm), ⟨hca, hu⟩, rfl⟩
    · next ha =>
      rw [ih]
      simp only [List.mem_cons]
      constructor
      · rintro (ht | ⟨c, hc, hu, rfl⟩)
        · exact Or.inl ht
        · exact Or.inr ⟨c, Or.inr hc, hu, rfl⟩
      · rintro (ht | ⟨c, rfl | hc, hu, rfl⟩)
        · exact Or.inl ht
        · exact absurd hu ha
        · exact Or.inr ⟨c, hc, hu, rfl⟩

end Discover

/-- `next` leads from one cell to the other over unseen cells, the first one not counted. -/
def Leads (next : Address → List Address) (unseen : AddressMap β) : Address → Address → Prop :=
  ReflTransGen fun a b => b ∈ next a ∧ b ∈ unseen

/-- The same in at least one step. -/
def LeadsOn (next : Address → List Address) (unseen : AddressMap β) : Address → Address → Prop :=
  TransGen fun a b => b ∈ next a ∧ b ∈ unseen

section Step

variable {next : Address → List Address}

theorem Leads.mono {unseen unseen' : AddressMap β} {a b : Address}
    (hsub : ∀ c, c ∈ unseen' → c ∈ unseen) (h : Leads next unseen' a b) : Leads next unseen a b :=
  ReflTransGen.mono (fun _ _ hxy => ⟨hxy.1, hsub _ hxy.2⟩) _ _ h

theorem leads_iff {unseen : AddressMap β} {a b : Address} :
    Leads next unseen a b ↔ b = a ∨ LeadsOn next unseen a b :=
  reflTransGen_iff_eq_or_transGen

variable (next) {entry : Address → α} {cell : α → Address} (hentry : ∀ a, cell (entry a) = a)
  (unseen : AddressMap β) (rest : List α) (a b : Address)
include hentry

/-- After discovering what `a` leads to, the frontier leads to all it led to before. -/
theorem exists_leads_discover {t : α}
    (ht : t ∈ (discover entry unseen rest (next a)).2) (h : Leads next unseen (cell t) b) :
    ∃ u ∈ (discover entry unseen rest (next a)).2,
      Leads next (discover entry unseen rest (next a)).1 (cell u) b := by
  -- the last cell of the path that has just been discovered stands in the frontier
  induction h with
  | refl => exact ⟨t, ht, ReflTransGen.refl⟩
  | @tail x y _ hxy ih =>
    obtain ⟨hy, hunseen⟩ := hxy
    by_cases hnext : y ∈ next a
    · refine ⟨entry y, mem_frontier_discover.2 (Or.inr ⟨y, hnext, hunseen, rfl⟩), ?_⟩
      rw [hentry]
      exact ReflTransGen.refl
    · obtain ⟨u, hu, hux⟩ := ih
      exact ⟨u, hu, hux.tail ⟨hy, mem_unseen_discover.2 ⟨hunseen, hnext⟩⟩⟩

/-- **One step of a search**: discovering what `a` leads to puts into the frontier what leads to all
cells that `a` leads to. -/
theorem exists_leads_discover_iff :
    (∃ u ∈ (discover entry unseen rest (next a)).2,
        Leads next (discover entry unseen rest (next a)).1 (cell u) b) ↔
      (∃ u ∈ rest, Leads next unseen (cell u) b) ∨ LeadsOn next unseen a b := by
  constructor
  · rintro ⟨u, hu, h⟩
    have hmono : Leads next unseen (cell u) b := h.mono fun c hc => (mem_unseen_discover.1 hc).1
    rcases mem_frontier_discover.1 hu with hu | ⟨c, hc, hunseen, rfl⟩
    · exact Or.inl ⟨u, hu, hmono⟩
    · rw [hentry] at hmono
      exact Or.inr (TransGen.head' ⟨hc, hunseen⟩ hmono)
  · rintro (⟨u, hu, h⟩ | h)
    · refine exists_leads_discover next hentry unseen rest a b ?_ h
      exact mem_frontier_discover.2 (Or.inl hu)
    · obtain ⟨c, ⟨hc, hunseen⟩, h⟩ := TransGen.head'_iff.1 h
      refine exists_leads_discover next hentry unseen rest a b
        (mem_frontier_discover.2 (Or.inr ⟨c, hc, hunseen, rfl⟩)) ?_
      rwa [hentry]

end Step

/-! ### Reachable cells -/

section Reachable

variable {next : Address → List Address}

theorem exists_leads_iff (unseen : AddressMap β) (rest : List Address) (a b : Address) :
    (∃ u ∈ (discover id unseen rest (next a)).2,
        Leads next (discover id unseen rest (next a)).1 u b) ↔
      (∃ u ∈ rest, Leads next unseen u b) ∨ LeadsOn next unseen a b :=
  exists_leads_discover_iff next (fun _ => rfl : ∀ a, id (id a) = a) unseen rest a b

theorem mem_reach_iff {unseen : AddressMap β} {frontier : List Address} {found : AddressSet}
    {b : Address} :
    b ∈ reach next unseen frontier found ↔
      b ∈ found ∨ ∃ a ∈ frontier, Leads next unseen a b := by
  fun_induction reach next unseen frontier found with
  | case1 unseen found => simp
  | case2 unseen found a rest step ih =>
    rw [ih, exists_leads_iff, Std.ExtTreeSet.mem_insert, Std.LawfulEqCmp.compare_eq_iff_eq]
    simp only [List.mem_cons, exists_eq_or_imp, leads_iff (a := a), eq_comm (a := a)]
    constructor
    · rintro ((hb | hb) | hb | hb)
      · exact Or.inr (Or.inl (Or.inl hb))
      · exact Or.inl hb
      · exact Or.inr (Or.inr hb)
      · exact Or.inr (Or.inl (Or.inr hb))
    · rintro (hb | (hb | hb) | hb)
      · exact Or.inl (Or.inr hb)
      · exact Or.inl (Or.inl hb)
      · exact Or.inr (Or.inr hb)
      · exact Or.inr (Or.inl hb)

/-- A cell is found if and only if it is reached over cells of `among` in one step or more. -/
theorem mem_reachable_iff {among : AddressMap β} {a b : Address} :
    b ∈ reachable next among a ↔ LeadsOn next among a b := by
  unfold reachable
  dsimp only
  rw [mem_reach_iff, exists_leads_iff]
  simp

end Reachable

/-! ### Cycles -/

/-- The search finds a path back to `start` if and only if there is one. -/
theorem isSome_cycleFrom_iff {g : Graph} {start : Address} {unseen : AddressMap β}
    {frontier : List Trail} :
    (cycleFrom g start unseen frontier).isSome ↔
      ∃ b, start ∈ g.readersOf b ∧
        ∃ t ∈ frontier, Leads (fun c => (g.readersOf c).toList) unseen t.cell b := by
  fun_induction cycleFrom g start unseen frontier with
  | case1 unseen => simp
  | case2 unseen t rest readers hstart =>
    simp only [Option.isSome_some, true_iff]
    exact ⟨t.cell, Std.ExtTreeSet.contains_iff_mem.1 hstart, t, List.mem_cons_self,
      ReflTransGen.refl⟩
  | case3 unseen t rest readers hstart step ih =>
    have hnot : start ∉ g.readersOf t.cell := fun h =>
      hstart (Std.ExtTreeSet.contains_iff_mem.2 h)
    rw [ih]
    refine exists_congr fun b => and_congr_right fun hb => ?_
    have hne : b ≠ t.cell := by
      rintro rfl
      exact hnot hb
    have hcell : ∀ a, (t.step a).cell = a := fun _ => rfl
    refine (exists_leads_discover_iff (fun c => (g.readersOf c).toList) hcell unseen rest t.cell
      b).trans ?_
    simp only [List.mem_cons, exists_eq_or_imp, leads_iff (a := t.cell), hne, false_or]
    exact or_comm

end Worksheet.Graph
