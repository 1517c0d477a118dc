import Worksheet.Evaluation
import Worksheet.Graph.Order
import Worksheet.Sheet.Basic

/-!
# Reading a sheet

Reading a dirty formula evaluates it and keeps its value.  First the dirty formulas that it reads,
directly or through others, are evaluated in `Graph.evaluationOrder`, so that each finds its cells
evaluated already; what happens on the way is kept as a list of events.  A cell under evaluation
that is read again reads as a circular reference.
-/

namespace Worksheet

/-- Something that happens during a read. -/
inductive Event where
  /-- The formula of a cell is evaluated, inside the evaluation of others, on the sheet so far. -/
  | evaluated (cell : Address) (outer : Stack) (sheet : Sheet)
  /-- A cell under evaluation is read. -/
  | reentered (cell : Address)

/-- A read under way: the sheet so far, and what has happened, the latest first. -/
structure Reading where
  sheet : Sheet
  events : List Event

namespace Reading

/-- The read with one more event. -/
def note (event : Event) (r : Reading) : Reading :=
  { r with events := event :: r.events }

/-- The read after the value of a formula has been found. -/
def remember (a : Address) (v : Value) (r : Reading) : Reading :=
  { r with sheet := { r.sheet with cells := r.sheet.cells.modify a (Cell.remember v) } }

/-- The value of a cell that is read during its own evaluation. -/
def reenter (a : Address) : StateM Reading Value := do
  modify (note (.reentered a))
  return .error .circular

/-- The value of a cell, while the cells of the stack are being evaluated.  Evaluations can nest no
deeper than `depth`. -/
def valueOf : (depth : Nat) → Stack → Address → StateM Reading Value
  | 0, _, a => reenter a
  | depth + 1, stack, a => do
    if stack.holds a then reenter a
    else
      let r ← get
      match r.sheet.cells[a]? with
      | none => return .empty
      | some (.value v) => return v
      | some (.rejected _ error) => return .error error
      | some (.formula f) =>
        match f.cached, stack.enter? a with
        | some v, _ => return v
        | none, none => reenter a
        | none, some inner =>
          modify (note (.evaluated a stack r.sheet))
          let v ← f.expr.value r.sheet.options.average (valueOf depth inner)
          modify (remember a v)
          return v

/-- The read after each of the cells has been read on its own. -/
def refresh (depth : Nat) (cells : List Address) (r : Reading) : Reading :=
  cells.foldl (fun r a => ((valueOf depth ∅ a).run r).2) r

end Reading

namespace Sheet

/-- The dirty formulas that a dirty formula reads, in the order in which they are evaluated. -/
def staleBefore (s : Sheet) (a : Address) : List Address :=
  if s.isDirty a then
    s.graph.evaluationOrder
      (Graph.reachable (fun b => (s.readsOf b).filter s.isDirty) s.cells a)
  else []

/-- How deep evaluations can nest: every cell can be under evaluation at most once. -/
def depthBound (s : Sheet) : Nat :=
  s.size + 1

/-- The value of a cell, and the read that found it. -/
def read (s : Sheet) (a : Address) : Value × Reading :=
  (Reading.valueOf s.depthBound ∅ a).run
    (Reading.refresh s.depthBound (s.staleBefore a) ⟨s, []⟩)

/-- The value of a cell, and the sheet with the values found on the way. -/
def get (s : Sheet) (a : Address) : Value × Sheet :=
  let (v, r) := s.read a
  (v, r.sheet)

/-- Reads a cell of the sheet at hand. -/
def getM (a : Address) : StateM Sheet Value :=
  fun s => s.get a

/-- The values of some cells, read one after the other. -/
def getAll (cells : List Address) : StateM Sheet (List Value) :=
  cells.mapM getM

end Sheet

end Worksheet
