import Worksheet.Proofs.Graph.Edges

/-!
# Graphs from changes

A graph that starts without edges is after any changes the map that they describe, with an exact
inverse (`faithful_build`).  A cell reads the cells that were last set for it (`SetLast`), and none
if its edges have been dropped or the graph cleared since.  Self references and cycles are no
exception.
-/

namespace Worksheet.Graph

/-- A change of the edges that leave one cell, or of all edges. -/
inductive Change where
  | set (a : Address) (cells : AddressSet)
  | drop (a : Address)
  | clear

/-- Does the change settle what the cell reads? -/
def Change.Settles (a : Address) : Change → Prop
  | set b _ => b = a
  | drop b => b = a
  | clear => True

/-- The graph after a change. -/
def change (g : Graph) : Change → Graph
  | .set a cells => g.setReads a cells
  | .drop a => g.dropReads a
  | .clear => ∅

/-- The graph after some changes of a graph without edges. -/
def build (changes : List Change) : Graph :=
  changes.foldl change ∅

theorem build_concat (changes : List Change) (c : Change) :
    build (changes ++ [c]) = (build changes).change c :=
  List.foldl_concat ..

/-! ### One change -/

theorem readsOf_change_of_not_settles (g : Graph) {c : Change} {a : Address} (h : ¬ c.Settles a) :
    (g.change c).readsOf a = g.readsOf a := by
  cases c with
  | set b cells => exact (readsOf_setReads g b a cells).trans (if_neg h)
  | drop b => exact (readsOf_dropReads g b a).trans (if_neg h)
  | clear => exact absurd trivial h

/-- A change that settles what a cell reads sets it, or leaves nothing. -/
theorem readsOf_change_of_settles (g : Graph) {c : Change} {a : Address} (h : c.Settles a)
    (hset : ∀ cells, c ≠ .set a cells) : (g.change c).readsOf a = ∅ := by
  cases c with
  | set b cells =>
    obtain rfl : b = a := h
    exact absurd rfl (hset cells)
  | drop b => exact (readsOf_dropReads g b a).trans (if_pos h)
  | clear => exact readsOf_empty a

theorem Mirrored.change {g : Graph} (hg : g.Mirrored) (c : Change) : (g.change c).Mirrored := by
  cases c with
  | set a cells => exact hg.setReads a cells
  | drop a => exact hg.dropReads a
  | clear => exact mirrored_empty

/-! ### All changes -/

theorem mirrored_build (changes : List Change) : (build changes).Mirrored :=
  List.foldlRecOn changes change mirrored_empty fun _ hg c _ => hg.change c

/-- The last change that settles what the cell reads has set it to these cells. -/
def SetLast (changes : List Change) (a : Address) (cells : AddressSet) : Prop :=
  ∃ before after, changes = before ++ .set a cells :: after ∧ ∀ c ∈ after, ¬ c.Settles a

theorem setLast_concat_self (changes : List Change) (a : Address) (cells : AddressSet) :
    SetLast (changes ++ [.set a cells]) a cells :=
  ⟨changes, [], rfl, fun _ => nofun⟩

theorem SetLast.concat {changes : List Change} {a : Address} {cells : AddressSet}
    (h : SetLast changes a cells) {c : Change} (hc : ¬ c.Settles a) :
    SetLast (changes ++ [c]) a cells := by
  obtain ⟨before, after, rfl, hafter⟩ := h
  refine ⟨before, after ++ [c], by simp, fun d hd => ?_⟩
  rcases List.mem_append.1 hd with hd | hd
  · exact hafter d hd
  · rwa [List.mem_singleton.1 hd]

theorem readsOf_foldl_of_not_settles (g : Graph) {changes : List Change} {a : Address}
    (h : ∀ c ∈ changes, ¬ c.Settles a) : (changes.foldl change g).readsOf a = g.readsOf a :=
  List.foldlRecOn (motive := fun g' => g'.readsOf a = g.readsOf a) changes change rfl
    fun g' hg' c hc => (readsOf_change_of_not_settles g' (h c hc)).trans hg'

theorem SetLast.readsOf_build {changes : List Change} {a : Address} {cells : AddressSet}
    (h : SetLast changes a cells) : (build changes).readsOf a = cells := by
  obtain ⟨before, after, rfl, hafter⟩ := h
  rw [build, List.foldl_append, List.foldl_cons, readsOf_foldl_of_not_settles _ hafter, change,
    readsOf_setReads, if_pos rfl]

theorem readsOf_build_of_not_setLast {changes : List Change} {a : Address}
    (h : ∀ cells, ¬ SetLast changes a cells) : (build changes).readsOf a = ∅ := by
  induction changes using List.reverseRecOn with
  | nil => exact readsOf_empty a
  | append_singleton changes c ih =>
    rw [build_concat]
    by_cases hc : c.Settles a
    · refine readsOf_change_of_settles _ hc ?_
      rintro cells rfl
      exact h cells (setLast_concat_self changes a cells)
    · rw [readsOf_change_of_not_settles _ hc]
      exact ih fun cells hcells => h cells (hcells.concat hc)

/-- The graph counts the cells that read any cell. -/
theorem Mirrored.size_eq {g : Graph} (hg : g.Mirrored) :
    g.size = {a | g.readsOf a ≠ ∅}.ncard := by
  rw [size, AddressMap.size_eq_ncard]
  exact congrArg Set.ncard (Set.ext fun a => hg.mem_reads)

/-- The graph is the map that the changes describe, with an exact inverse. -/
structure Faithful (changes : List Change) (g : Graph) : Prop where
  readsOf_of_setLast : ∀ a cells, SetLast changes a cells → g.readsOf a = cells
  readsOf_of_not_setLast : ∀ a, (∀ cells, ¬ SetLast changes a cells) → g.readsOf a = ∅
  mem_readersOf_iff : ∀ a b, a ∈ g.readersOf b ↔ b ∈ g.readsOf a
  /-- The size counts the cells that read any cell, and the other two tests agree with it. -/
  size_eq : g.size = {a | g.readsOf a ≠ ∅}.ncard
  isReader_iff : ∀ a, g.isReader a = true ↔ g.readsOf a ≠ ∅
  isEmpty_iff : g.isEmpty = true ↔ g.size = 0
  directionsAgree : g.directionsAgree = true

/-- **A graph is a faithful map with an exact inverse**, after any changes of a graph without
edges. -/
theorem faithful_build (changes : List Change) : Faithful changes (build changes) where
  readsOf_of_setLast _ _ h := h.readsOf_build
  readsOf_of_not_setLast _ h := readsOf_build_of_not_setLast h
  mem_readersOf_iff _ _ := (mirrored_build changes).mem_readersOf
  size_eq := (mirrored_build changes).size_eq
  isReader_iff a := by
    rw [isReader, Std.ExtTreeMap.contains_iff_mem, (mirrored_build changes).mem_reads]
  isEmpty_iff := by
    rw [isEmpty, size, Std.ExtTreeMap.isEmpty_iff, Std.ExtTreeMap.eq_empty_iff_size_eq_zero]
  directionsAgree := directionsAgree_iff.2 (mirrored_build changes)

end Worksheet.Graph
