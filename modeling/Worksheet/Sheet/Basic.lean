import Worksheet.Formula.Expr
import Worksheet.Function.Basic
import Worksheet.Graph.Search

/-!
# Sheets

A sheet keeps a cell for every address in use and the graph of what its formulas read.  A formula
keeps the value it was last found to have; when a cell that it reads changes, it forgets it and is
*dirty* until it is read again.  A formula that was refused is kept as text and counts as an error.
-/

namespace Worksheet

/-- The limits and choices that a sheet is made with. -/
structure Options where
  /-- What the average of no numbers is. -/
  average : EmptyAverage := .zero
  /-- The longest formula that is read, in bytes. -/
  maxFormulaLength : Nat := 8192
  /-- The greatest number of cells that a formula may reference. -/
  maxReferencedCells : UInt64 := 1048576
deriving DecidableEq, Repr, Inhabited

/-- A formula that was accepted. -/
structure Formula where
  source : String
  expr : Expr
  /-- The cells that the expression reads. -/
  dependencies : AddressSet
  /-- The value, unless the formula is dirty. -/
  cached : Option Value

/-- What is stored in a cell. -/
inductive Cell where
  | value (v : Value)
  | formula (f : Formula)
  /-- The text of a formula that was refused, and the error it stands for. -/
  | rejected (source : String) (error : CellError)

namespace Formula

/-- A formula that has not been evaluated. -/
def new (source : String) (e : Expr) : Formula :=
  ⟨source, e, e.dependencies, none⟩

end Formula

namespace Cell

/-- Is the cell an accepted formula? -/
def isFormula : Cell → Bool
  | formula _ => true
  | _ => false

/-- Is the cell a formula without a value? -/
def isDirty : Cell → Bool
  | formula f => f.cached.isNone
  | _ => false

/-- The cell without the value of its formula. -/
def soil : Cell → Cell
  | formula f => formula { f with cached := none }
  | c => c

/-- The cell with this value of its formula. -/
def remember (v : Value) : Cell → Cell
  | formula f => formula { f with cached := some v }
  | c => c

/-- The text of the formula, also of a refused one. -/
def source? : Cell → Option String
  | value _ => none
  | formula f => some f.source
  | rejected source _ => some source

/-- The text that is offered when the cell is edited. -/
def editText : Cell → String
  | value v => v.display
  | formula f => f.source
  | rejected source _ => source

end Cell

/-- A sheet of cells. -/
structure Sheet where
  options : Options
  cells : AddressMap Cell
  graph : Graph

namespace Sheet

/-- The sheet without cells. -/
def new (options : Options) : Sheet :=
  ⟨options, ∅, ∅⟩

/-- The number of cells in use. -/
def size (s : Sheet) : Nat :=
  s.cells.size

/-- Is no cell in use? -/
def isEmpty (s : Sheet) : Bool :=
  s.cells.isEmpty

/-- The cells in use. -/
def used (s : Sheet) : List Address :=
  s.cells.keys

/-- The cells that hold an accepted formula. -/
def formulas (s : Sheet) : List Address :=
  (s.cells.filter fun _ cell => cell.isFormula).keys

/-- Is there a formula at the address that has to be evaluated anew? -/
def isDirty (s : Sheet) (a : Address) : Bool :=
  s.cells[a]?.any Cell.isDirty

/-- The text of the formula at the address. -/
def source? (s : Sheet) (a : Address) : Option String :=
  s.cells[a]?.bind Cell.source?

/-- The text that is offered when the cell is edited. -/
def editText (s : Sheet) (a : Address) : String :=
  match s.cells[a]? with
  | none => ""
  | some cell => cell.editText

/-- The cells that the formula at the address reads. -/
def readsOf (s : Sheet) (a : Address) : List Address :=
  (s.graph.readsOf a).toList

/-- The formulas that read the address. -/
def readersOf (s : Sheet) (a : Address) : List Address :=
  (s.graph.readersOf a).toList

/-- The edges that a cell should have. -/
def expectedEdges : Cell → AddressSet
  | .formula f => f.dependencies
  | _ => ∅

/-- Does the graph hold the edges of the stored formulas, and no others? -/
def graphAgrees (s : Sheet) : Bool :=
  s.graph.directionsAgree &&
    s.cells.all (fun a cell =>
      (s.graph.readsOf a).toList == (expectedEdges cell).toList) &&
    s.graph.size == (s.cells.filter fun _ cell => !(expectedEdges cell).isEmpty).size

end Sheet

end Worksheet
