import Worksheet.Grid.Address
import Std.Data.ExtTreeMap

/-!
# Who reads whom

The graph of a sheet has an edge from a cell to every cell that its formula reads.  Edges are kept
in both directions: a write replaces the edges that leave a cell, and a change is followed along the
edges that enter it.  A cell without edges has no entry, so the size of a direction counts the cells
that have any.  What a write does to the edges that leave a cell is said by
`readsOf_dropReads` and `readsOf_setReads`.
-/

namespace Worksheet

/-- Which cells read which others. -/
structure Graph where
  /-- The cells that a cell reads. -/
  reads : AddressMap AddressSet
  /-- The cells that read a cell. -/
  readers : AddressMap AddressSet

namespace Graph

/-- The graph without edges. -/
def empty : Graph := ⟨∅, ∅⟩

instance : EmptyCollection Graph := ⟨empty⟩

/-- The cells that a cell reads. -/
def readsOf (g : Graph) (a : Address) : AddressSet :=
  g.reads[a]?.getD ∅

/-- The cells that read a cell. -/
def readersOf (g : Graph) (a : Address) : AddressSet :=
  g.readers[a]?.getD ∅

/-- Does the cell read any cell? -/
def isReader (g : Graph) (a : Address) : Bool :=
  g.reads.contains a

/-- The number of cells that read any cell. -/
def size (g : Graph) : Nat :=
  g.reads.size

/-- Does no cell read any other? -/
def isEmpty (g : Graph) : Bool :=
  g.reads.isEmpty

/-- The readers of a cell with one more among them. -/
def addReader (reader : Address) : Option AddressSet → Option AddressSet
  | none => some {reader}
  | some readers => some (readers.insert reader)

/-- The readers of a cell without one of them; the last one leaves no entry. -/
def dropReader (reader : Address) : Option AddressSet → Option AddressSet
  | none => none
  | some readers =>
    let others := readers.erase reader
    if others.isEmpty then none else some others

/-- The graph after the cell has stopped reading others.  Cells that read it are not touched. -/
def dropReads (g : Graph) (a : Address) : Graph :=
  match g.reads[a]? with
  | none => g
  | some cells =>
    { reads := g.reads.erase a
      readers := cells.foldl (fun m d => m.alter d (dropReader a)) g.readers }

theorem readsOf_dropReads (g : Graph) (a b : Address) :
    (g.dropReads a).readsOf b = if a = b then ∅ else g.readsOf b := by
  unfold dropReads
  split
  · next h =>
    split
    · next hab => simp only [readsOf, ← hab, h, Option.getD_none]
    · rfl
  · next cells h =>
    simp only [readsOf, Std.ExtTreeMap.getElem?_erase, Std.LawfulEqCmp.compare_eq_iff_eq]
    split <;> rfl

/-- The graph in which the cell reads exactly these cells. -/
def setReads (g : Graph) (a : Address) (cells : AddressSet) : Graph :=
  let g := g.dropReads a
  if cells.isEmpty then g
  else
    { reads := g.reads.insert a cells
      readers := cells.foldl (fun m d => m.alter d (addReader a)) g.readers }

theorem readsOf_setReads (g : Graph) (a b : Address) (cells : AddressSet) :
    (g.setReads a cells).readsOf b = if a = b then cells else g.readsOf b := by
  unfold setReads
  dsimp only
  split
  · next h => rw [readsOf_dropReads, Std.ExtTreeSet.isEmpty_iff.1 h]
  · simp only [readsOf, Std.ExtTreeMap.getElem?_insert, Std.LawfulEqCmp.compare_eq_iff_eq]
    split
    · rfl
    · next hab =>
      have h := readsOf_dropReads g a b
      simpa only [readsOf, hab, if_false] using h

/-- Do the two directions hold the same edges, and no empty entry? -/
def directionsAgree (g : Graph) : Bool :=
  g.reads.all (fun a cells =>
      !cells.isEmpty && cells.all fun d => (g.readersOf d).contains a) &&
    g.readers.all fun d readers =>
      !readers.isEmpty && readers.all fun a => (g.readsOf a).contains d

end Graph

end Worksheet
