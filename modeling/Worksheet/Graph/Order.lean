import Worksheet.Graph.Search

/-!
# Evaluation order

`evaluationOrder` lists some cells so that each comes after those it reads, as long as no cycle
among them forbids it.  Of the cells that could come next the first by address comes next; the cells
on a cycle and those that read them come last, by address.
-/

namespace Worksheet.Graph

/-- Cells being put in order. -/
structure Queue where
  /-- How many cells a cell still waits for. -/
  waiting : AddressMap Nat
  /-- The cells that wait for none. -/
  ready : AddressSet

namespace Queue

/-- The number of cells not yet placed. -/
def size (q : Queue) : Nat :=
  q.waiting.size + q.ready.size

/-- One of the cells that `a` waits for has been placed; with the last one `a` becomes ready. -/
def release (q : Queue) (a : Address) : Queue :=
  match q.waiting[a]? with
  | none => q
  | some n =>
    if n ≤ 1 then ⟨q.waiting.erase a, q.ready.insert a⟩
    else { q with waiting := q.waiting.insert a (n - 1) }

theorem size_release_le (q : Queue) (a : Address) : (q.release a).size ≤ q.size := by
  unfold release
  split
  · exact Nat.le_refl _
  · next n h =>
    have hmem : a ∈ q.waiting := Std.ExtTreeMap.mem_iff_isSome_getElem?.2 (by simp [h])
    have hcontains : q.waiting.contains a = true := Std.ExtTreeMap.contains_iff_mem.2 hmem
    have hpos : q.waiting.size ≠ 0 := fun h0 =>
      Std.ExtTreeMap.ne_empty_of_mem hmem (Std.ExtTreeMap.eq_empty_iff_size_eq_zero.2 h0)
    split
    · have := @Std.ExtTreeSet.size_insert_le Address _ q.ready _ a
      simp only [size, Std.ExtTreeMap.size_erase, if_pos hcontains]
      omega
    · simp only [size, Std.ExtTreeMap.size_insert, if_pos hcontains]
      omega

theorem size_foldl_release_le (q : Queue) (cells : List Address) :
    (cells.foldl release q).size ≤ q.size := by
  induction cells generalizing q with
  | nil => exact Nat.le_refl _
  | cons a rest ih => exact Nat.le_trans (ih _) (size_release_le q a)

/-- The first ready cell, and the queue after it has been placed. -/
def place? (g : Graph) (q : Queue) : Option (Address × Queue) :=
  (AddressSet.first? q.ready).map fun a =>
    (a, (g.readersOf a).toList.foldl release { q with ready := q.ready.erase a })

theorem size_place? {g : Graph} {q q' : Queue} {a : Address} (h : q.place? g = some (a, q')) :
    q'.size < q.size := by
  simp only [place?, AddressSet.first?_eq_min?, Option.map_eq_some_iff, Prod.mk.injEq] at h
  obtain ⟨b, hb, rfl, rfl⟩ := h
  have hmem : b ∈ q.ready := Std.ExtTreeSet.min?_mem hb
  have hcontains : q.ready.contains b = true := Std.ExtTreeSet.contains_iff_mem.2 hmem
  have hpos : q.ready.size ≠ 0 := fun h0 =>
    Std.ExtTreeSet.ne_empty_of_mem hmem (Std.ExtTreeSet.eq_empty_iff_size_eq_zero.2 h0)
  refine Nat.lt_of_le_of_lt (size_foldl_release_le _ _) ?_
  simp only [size, Std.ExtTreeSet.size_erase, if_pos hcontains]
  omega

/-- The queue of some cells, each waiting for those among them that it reads. -/
def ofCells (g : Graph) (cells : AddressSet) : Queue :=
  cells.foldl (fun q a =>
    let n := (g.readsOf a).foldl (fun n d => if d ∈ cells then n + 1 else n) 0
    if n = 0 then { q with ready := q.ready.insert a }
    else { q with waiting := q.waiting.insert a n }) ⟨∅, ∅⟩

/-- Places all cells that can be placed; what still waits then comes last. -/
def run (g : Graph) (q : Queue) : List Address :=
  match h : q.place? g with
  | none => q.waiting.keys
  | some (a, q') =>
    have := size_place? h
    a :: run g q'
termination_by q.size

end Queue

/-- The cells in an order in which each comes after the cells it reads. -/
def evaluationOrder (g : Graph) (cells : AddressSet) : List Address :=
  (Queue.ofCells g cells).run g

/-- The cells that a change of this cell affects, in evaluation order. -/
def affectedOrder (g : Graph) (a : Address) : List Address :=
  g.evaluationOrder ((g.allReaders a).erase a)

end Worksheet.Graph
