import Worksheet.Proofs.Graph.Edges
import Worksheet.Proofs.Graph.Search

/-!
# Reading through others

In a mirrored graph both searches are about the relation `Reads`: `mem_allReaders_iff` finds who
reads a cell, and `cycleThrough?_eq_none_iff` tells whether a cell reads itself.  A graph in which
no cell does is `Acyclic`; there is then an order in which every cell comes after those it reads
(`Acyclic.wellFounded`).  A write can close a cycle only through the cell that it writes
(`Acyclic.setReads`).
-/

open Relation

namespace Worksheet

instance : Finite Address := by
  have hlt : ∀ a : Address, a.index < 2 ^ 48 := by
    intro a
    have hrow := a.row.toNat_lt
    have hcol := a.col.toNat_lt
    simp only [Address.index]
    omega
  refine Finite.of_injective (fun a : Address => (⟨a.index, hlt a⟩ : Fin (2 ^ 48))) ?_
  intro a b hab
  exact Address.index_inj (Fin.mk.inj hab)

namespace Graph

/-- The cell `a` reads the cell `b`, directly or through others. -/
def ReadsThrough (g : Graph) : Address → Address → Prop :=
  TransGen g.Reads

/-- No cell reads itself, directly or through others. -/
def Acyclic (g : Graph) : Prop :=
  ∀ a, ¬ g.ReadsThrough a a

section Search

variable {g : Graph} (hg : g.Mirrored)
include hg

theorem leadsOn_readers_iff {a b : Address} :
    LeadsOn (fun c => (g.readersOf c).toList) g.reads a b ↔ g.ReadsThrough b a := by
  have hedge : (fun x y => y ∈ (g.readersOf x).toList ∧ y ∈ g.reads) = Function.swap g.Reads := by
    funext x y
    rw [Std.ExtTreeSet.mem_toList, eq_iff_iff]
    exact ⟨fun h => hg.mem_readersOf.1 h.1,
      fun h => ⟨hg.mem_readersOf.2 h, hg.mem_reads_of_mem (hg.mem_readersOf.2 h)⟩⟩
  rw [LeadsOn, hedge, transGen_swap, ReadsThrough]

theorem mem_allReaders_iff {a b : Address} : b ∈ g.allReaders a ↔ g.ReadsThrough b a := by
  rw [allReaders, mem_reachable_iff, leadsOn_readers_iff hg]

/-- A cell lies on a cycle if and only if it reads itself. -/
theorem isOnCycle_iff {a : Address} : g.isOnCycle a = true ↔ g.ReadsThrough a a := by
  rw [isOnCycle, cycleThrough?, isSome_cycleFrom_iff]
  constructor
  · rintro ⟨b, hb, t, ht, hlead⟩
    obtain rfl := List.mem_singleton.1 ht
    have hread : g.Reads a b := hg.mem_readersOf.1 hb
    rcases leads_iff.1 hlead with rfl | hlead
    · exact TransGen.single hread
    · exact TransGen.head hread ((leadsOn_readers_iff hg).1 hlead)
  · intro h
    obtain ⟨b, hread, hback⟩ := TransGen.head'_iff.1 h
    refine ⟨b, hg.mem_readersOf.2 hread, ⟨a, []⟩, List.mem_singleton.2 rfl, ?_⟩
    rcases reflTransGen_iff_eq_or_transGen.1 hback with rfl | hback
    · exact ReflTransGen.refl
    · exact leads_iff.2 (Or.inr ((leadsOn_readers_iff hg).2 hback))

theorem cycleThrough?_eq_none_iff {a : Address} :
    g.cycleThrough? a = none ↔ ¬ g.ReadsThrough a a := by
  rw [← isOnCycle_iff hg, isOnCycle]
  cases g.cycleThrough? a with
  | none => simp
  | some path => simp

end Search

/-! ### Graphs without cycles -/

theorem acyclic_empty : (∅ : Graph).Acyclic := by
  intro a h
  obtain ⟨b, hread, -⟩ := TransGen.head'_iff.1 h
  rw [Reads, readsOf_empty] at hread
  simp at hread

theorem Acyclic.mono {g g' : Graph} (hsub : ∀ {a b}, g'.Reads a b → g.Reads a b)
    (hg : g.Acyclic) : g'.Acyclic :=
  fun a h => hg a (TransGen.mono (fun _ _ => hsub) _ _ h)

theorem reads_of_dropReads {g : Graph} {a b c : Address} (h : (g.dropReads a).Reads b c) :
    g.Reads b c := by
  rw [Reads, readsOf_dropReads] at h
  split at h
  · simp at h
  · exact h

theorem Acyclic.dropReads {g : Graph} (hg : g.Acyclic) (a : Address) : (g.dropReads a).Acyclic :=
  hg.mono reads_of_dropReads

theorem Acyclic.dropReads_setReads {g : Graph} (hg : g.Acyclic) (a : Address)
    (cells : AddressSet) : ((g.setReads a cells).dropReads a).Acyclic := by
  refine hg.mono fun {b c} h => ?_
  rw [Reads, readsOf_dropReads_setReads] at h
  split at h
  · simp at h
  · exact h

/-- A path after a write either was there before it or comes by the cell written. -/
theorem readsThrough_setReads {g : Graph} {a b c : Address} {cells : AddressSet}
    (h : (g.setReads a cells).ReadsThrough b c) :
    g.ReadsThrough b c ∨
      ReflTransGen (g.setReads a cells).Reads b a ∧ (g.setReads a cells).ReadsThrough a c := by
  have hstep : ∀ {x y}, (g.setReads a cells).Reads x y → x = a ∨ g.Reads x y := by
    intro x y hxy
    rw [Reads, readsOf_setReads] at hxy
    split at hxy
    · next hax => exact Or.inl hax.symm
    · exact Or.inr hxy
  induction h with
  | @single y hby =>
    rcases hstep hby with rfl | hold
    · exact Or.inr ⟨ReflTransGen.refl, TransGen.single hby⟩
    · exact Or.inl (TransGen.single hold)
  | @tail x y hbx hxy ih =>
    rcases ih with hold | ⟨hba, hax⟩
    · rcases hstep hxy with rfl | holdxy
      · exact Or.inr ⟨hbx.to_reflTransGen, TransGen.single hxy⟩
      · exact Or.inl (hold.tail holdxy)
    · exact Or.inr ⟨hba, hax.tail hxy⟩

/-- A path is the same in two graphs as far as it does not come by the cell whose edges differ. -/
theorem ReadsThrough.of_agree_or {g g' : Graph} {a b c : Address}
    (hagree : ∀ x, x ≠ a → g'.readsOf x = g.readsOf x) (h : g.ReadsThrough b c) (hb : b ≠ a) :
    g'.ReadsThrough b a ∨ g'.ReadsThrough b c := by
  have hstep : ∀ {x y}, g.Reads x y → x ≠ a → g'.Reads x y := by
    intro x y hxy hx
    rwa [Reads, hagree x hx]
  -- the path is followed from its first cell only until it comes to `a`
  induction h using TransGen.head_induction_on with
  | single hxc => exact Or.inr (.single (hstep hxc hb))
  | @head x y hxy _ ih =>
    by_cases hy : y = a
    · subst hy
      exact Or.inl (.single (hstep hxy hb))
    · exact (ih hy).imp (.head (hstep hxy hb)) (.head (hstep hxy hb))

/-- What reads a cell does not depend on the edges that leave it. -/
theorem ReadsThrough.of_agree {g g' : Graph} {a b : Address}
    (hagree : ∀ x, x ≠ a → g'.readsOf x = g.readsOf x) (h : g.ReadsThrough b a) (hb : b ≠ a) :
    g'.ReadsThrough b a :=
  (h.of_agree_or hagree hb).elim id id

/-- **A write closes a cycle only through the cell written.** -/
theorem Acyclic.setReads {g : Graph} (hg : g.Acyclic) {a : Address} {cells : AddressSet}
    (ha : ¬ (g.setReads a cells).ReadsThrough a a) : (g.setReads a cells).Acyclic := by
  intro b hb
  rcases readsThrough_setReads hb with hold | ⟨hba, hab⟩
  · exact hg b hold
  · exact ha (hab.trans_left hba)

/-- There are finitely many cells, so a relation between them that never comes back goes down. -/
theorem wellFounded_of_no_cycle {r : Address → Address → Prop} (h : ∀ a, ¬ TransGen r a a) :
    WellFounded (Function.swap r) := by
  have : IsTrans Address (Function.swap (TransGen r)) :=
    ⟨fun a b c hba hcb => hcb.trans hba⟩
  have : Std.Irrefl (Function.swap (TransGen r)) := ⟨h⟩
  exact Subrelation.wf (fun {b a} (hab : r a b) => TransGen.single hab)
    (Finite.wellFounded_of_trans_of_irrefl (Function.swap (TransGen r)))

/-- Without cycles, reading goes down: what holds of a cell as soon as it holds of all cells it
reads holds of every cell. -/
theorem Acyclic.wellFounded {g : Graph} (hg : g.Acyclic) : WellFounded fun b a => g.Reads a b :=
  wellFounded_of_no_cycle hg

end Graph

end Worksheet
