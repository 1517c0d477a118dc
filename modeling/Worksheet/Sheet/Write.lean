import Worksheet.Formula.Parser
import Worksheet.Sheet.Basic
import Worksheet.Sheet.Input

/-!
# Writing into a sheet

A write never fails: a formula that cannot be taken is stored as rejected, with the error that says
why.  Every formula that reads the cell, directly or through others, becomes dirty; nothing is
evaluated.
-/

namespace Worksheet

/-- The tree of a formula that keeps the limits of a sheet, or the error of one that does not. -/
def Options.accept (o : Options) (source : String) : Except CellError Expr :=
  if o.maxFormulaLength < source.utf8ByteSize then .error .badFormula
  else
    match Expr.ofText source with
    | .error _ => .error .badFormula
    | .ok e => if o.maxReferencedCells < e.referencedCount then .error .badReference else .ok e

namespace Sheet

/-- The sheet with the formula kept as rejected text, reading nothing. -/
def reject (s : Sheet) (a : Address) (source : String) (error : CellError) : Sheet :=
  { s with
    graph := s.graph.dropReads a
    cells := s.cells.insert a (.rejected source error) }

/-- The sheet with the formula, unless it breaks a limit or would make the cell read itself. -/
def install (s : Sheet) (a : Address) (source : String) : Sheet :=
  match s.options.accept source with
  | .error error => s.reject a source error
  | .ok e =>
    let f := Formula.new source e
    let graph := s.graph.setReads a f.dependencies
    if graph.isOnCycle a then { s with graph }.reject a source .circular
    else { s with graph, cells := s.cells.insert a (.formula f) }

/-- The sheet with this input in the cell, other formulas left as they are. -/
def store (s : Sheet) (a : Address) : Input → Sheet
  | .empty =>
    { s with graph := s.graph.dropReads a, cells := s.cells.erase a }
  | .value v =>
    { s with graph := s.graph.dropReads a, cells := s.cells.insert a (.value v) }
  | .formula source => s.install a source

/-- The sheet in which every formula among these cells is dirty. -/
def soil (s : Sheet) (cells : AddressSet) : Sheet :=
  { s with cells := cells.foldl (fun m b => m.modify b Cell.soil) s.cells }

/-- The sheet after a write. -/
def set (s : Sheet) (a : Address) (input : Input) : Sheet :=
  let s := s.store a input
  s.soil ((s.graph.allReaders a).erase a)

/-- The sheet without the cell. -/
def clear (s : Sheet) (a : Address) : Sheet :=
  s.set a .empty

/-- The sheet in which every formula is dirty. -/
def recalculate (s : Sheet) : Sheet :=
  { s with cells := s.cells.map fun _ cell => cell.soil }

end Sheet

end Worksheet
