import Worksheet.Graph.Basic

/-!
# Searching the graph

Both searches go depth first and keep the cells not yet met.  `discover` moves newly met cells to
the front of the frontier and out of the unseen ones, so that each step makes the two together one
smaller (`discover_size`) and every search ends.
-/

namespace Worksheet.Graph

variable {α β : Type}

/-- Moves those of the cells that are still unseen to the front of the frontier, in which `entry`
stands for a cell. -/
def discover (entry : Address → α) (unseen : AddressMap β) (frontier : List α) :
    List Address → AddressMap β × List α
  | [] => (unseen, frontier)
  | a :: rest =>
    if a ∈ unseen then discover entry (unseen.erase a) (entry a :: frontier) rest
    else discover entry unseen frontier rest

/-- What leaves the unseen cells enters the frontier. -/
theorem discover_size (entry : Address → α) (unseen : AddressMap β) (frontier : List α)
    (cells : List Address) :
    (discover entry unseen frontier cells).1.size +
        (discover entry unseen frontier cells).2.length =
      unseen.size + frontier.length := by
  induction cells generalizing unseen frontier with
  | nil => rfl
  | cons a rest ih =>
    unfold discover
    split
    · next h =>
      rw [ih, Std.ExtTreeMap.size_erase, if_pos (Std.ExtTreeMap.contains_iff_mem.2 h),
        List.length_cons]
      have : unseen.size ≠ 0 := fun h0 =>
        Std.ExtTreeMap.ne_empty_of_mem h (Std.ExtTreeMap.eq_empty_iff_size_eq_zero.2 h0)
      omega
    · exact ih unseen frontier

/-- Adds to `found` the cells of the frontier and all unseen ones that `next` leads to from them. -/
def reach (next : Address → List Address) (unseen : AddressMap β) (frontier : List Address)
    (found : AddressSet) : AddressSet :=
  match frontier with
  | [] => found
  | a :: rest =>
    let step := discover id unseen rest (next a)
    reach next step.1 step.2 (found.insert a)
termination_by unseen.size + frontier.length
decreasing_by
  have := discover_size id unseen rest (next a)
  simp only [List.length_cons]
  omega

/-- The cells among the keys of `among` that `next` leads to from a cell, in one step or more. -/
def reachable (next : Address → List Address) (among : AddressMap β) (a : Address) : AddressSet :=
  let start := discover id among [] (next a)
  reach next start.1 start.2 ∅

/-- The cells that read a cell, directly or through others.  The cell itself is among them only if
it lies on a cycle. -/
def allReaders (g : Graph) (a : Address) : AddressSet :=
  reachable (fun b => (g.readersOf b).toList) g.reads a

/-- Would the cell come to read itself if it were to read these cells? -/
def closesCycle (g : Graph) (a : Address) (cells : AddressSet) : Bool :=
  cells.contains a || (g.allReaders a).any cells.contains

/-! ### Finding a cycle -/

/-- A cell met by the search, with the cells that led to it, the nearest first. -/
structure Trail where
  cell : Address
  earlier : List Address
deriving DecidableEq, Repr

namespace Trail

/-- The trail one step further. -/
def step (t : Trail) (a : Address) : Trail :=
  ⟨a, t.cell :: t.earlier⟩

end Trail

/-- Follows the frontier back to `start`, along cells that each read the one before. -/
def cycleFrom (g : Graph) (start : Address) (unseen : AddressMap β) (frontier : List Trail) :
    Option (List Address) :=
  match frontier with
  | [] => none
  | t :: rest =>
    let readers := g.readersOf t.cell
    if readers.contains start then some (start :: t.cell :: t.earlier).reverse
    else
      let step := discover t.step unseen rest readers.toList
      cycleFrom g start step.1 step.2
termination_by unseen.size + frontier.length
decreasing_by
  have := discover_size t.step unseen rest (g.readersOf t.cell).toList
  simp only [List.length_cons]
  omega

/-- A path from the cell back to itself in which each cell reads the one before. -/
def cycleThrough? (g : Graph) (a : Address) : Option (List Address) :=
  cycleFrom g a g.reads [⟨a, []⟩]

/-- Does the cell lie on a cycle? -/
def isOnCycle (g : Graph) (a : Address) : Bool :=
  (g.cycleThrough? a).isSome

end Worksheet.Graph
