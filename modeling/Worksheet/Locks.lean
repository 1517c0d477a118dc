import Worksheet.Grid.Address
import Std.Data.ExtTreeMap

/-!
# Advisory locks

A table of who holds which cell.  A cell is held by at most one owner; only its owner releases it.
Writing into a sheet does not ask the table.  The table is seen through `owner?`: each operation
comes with a theorem that tells the owner of every cell after it.
-/

namespace Worksheet

/-- The owner of every locked cell. -/
structure Locks where
  owners : AddressMap String

namespace Locks

/-- No cell is locked. -/
def empty : Locks := ⟨∅⟩

instance : EmptyCollection Locks := ⟨empty⟩

/-- Who holds the cell? -/
def owner? (l : Locks) (a : Address) : Option String :=
  l.owners[a]?

@[simp] theorem owner?_empty (a : Address) : (∅ : Locks).owner? a = none :=
  Std.ExtTreeMap.getElem?_empty

/-- Is the cell held by anyone? -/
def isLocked (l : Locks) (a : Address) : Bool :=
  l.owners.contains a

theorem isLocked_eq (l : Locks) (a : Address) : l.isLocked a = (l.owner? a).isSome :=
  Std.ExtTreeMap.contains_eq_isSome_getElem?

/-- The locked cells. -/
def locked (l : Locks) : List Address :=
  l.owners.keys

/-- Takes the cell for an owner.  It is refused if another owner holds it. -/
def lock (l : Locks) (a : Address) (owner : String) : Bool × Locks :=
  match l.owner? a with
  | none => (true, ⟨l.owners.insert a owner⟩)
  | some holder => (holder == owner, l)

theorem owner?_lock (l : Locks) (a b : Address) (owner : String) :
    (l.lock a owner).2.owner? b =
      if a = b ∧ l.owner? a = none then some owner else l.owner? b := by
  unfold lock
  split
  · next h =>
    simp only [h, and_true]
    simp only [owner?, Std.ExtTreeMap.getElem?_insert, Std.LawfulEqCmp.compare_eq_iff_eq]
  · next h => simp only [h, reduceCtorEq, and_false, if_false]

/-- Releases the cell, if this owner holds it. -/
def unlock (l : Locks) (a : Address) (owner : String) : Bool × Locks :=
  if l.owner? a = some owner then (true, ⟨l.owners.erase a⟩) else (false, l)

theorem owner?_unlock (l : Locks) (a b : Address) (owner : String) :
    (l.unlock a owner).2.owner? b =
      if a = b ∧ l.owner? a = some owner then none else l.owner? b := by
  unfold unlock
  split
  · next h =>
    simp only [h, and_true]
    simp only [owner?, Std.ExtTreeMap.getElem?_erase, Std.LawfulEqCmp.compare_eq_iff_eq]
  · next h => simp only [h, and_false, if_false]

/-- Releases all cells of an owner, and tells how many they were. -/
def releaseAll (l : Locks) (owner : String) : Nat × Locks :=
  let others := l.owners.filter fun _ holder => holder != owner
  (l.owners.size - others.size, ⟨others⟩)

theorem owner?_releaseAll (l : Locks) (a : Address) (owner : String) :
    (l.releaseAll owner).2.owner? a = (l.owner? a).filter (· != owner) := by
  simp [releaseAll, owner?, Std.ExtTreeMap.getElem?_filter]

end Locks

end Worksheet
