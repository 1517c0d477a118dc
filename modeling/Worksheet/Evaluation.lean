import Worksheet.Formula.Expr
import Worksheet.Function.Apply
import Worksheet.Value.Order

/-!
# Evaluation

An expression is evaluated in any monad in which cells can be read: the identity when the values of
the cells are given, a state when reading a cell may itself evaluate a formula.  Evaluation cannot
fail; what goes wrong is a value.
-/

namespace Worksheet

/-- What an expression gives: one value, or the values in a range, row by row without the empty
cells. -/
inductive Result where
  | scalar (v : Value)
  | list (values : List Value)
deriving Repr

namespace Result

/-- The value where one value is wanted; a range is none. -/
def toScalar : Result → Value
  | scalar v => v
  | list _ => .error .badValue

/-- The values where any number of them is wanted. -/
def values : Result → List Value
  | scalar v => [v]
  | list values => values

end Result

namespace Arithmetic

/-- The result on two numbers.  The remainder has the sign of the divisor. -/
def apply (op : Arithmetic) (x y : Float) : Value :=
  match op with
  | add => .ofFinite (x + y)
  | subtract => .ofFinite (x - y)
  | multiply => .ofFinite (x * y)
  | divide => if y == 0.0 then .error .divisionByZero else .ofFinite (x / y)
  | modulo => if y == 0.0 then .error .divisionByZero else .ofFinite (x - y * (x / y).floor)

end Arithmetic

namespace Operator

/-- The result on two values that are no errors. -/
def applyValues : Operator → Value → Value → Value
  | relation op, a, b => .boolean (op.holds (a.order b))
  | arithmetic op, a, b =>
    match a.toNumber?, b.toNumber? with
    | some x, some y => op.apply x y
    | _, _ => .error .badValue

/-- The result on two values; an error passes through, the left one first. -/
def apply (op : Operator) : Value → Value → Value
  | .error e, _ => .error e
  | _, .error e => .error e
  | a, b => op.applyValues a b

end Operator

variable {m : Type → Type} [Monad m]

namespace Expr

mutual

/-- What the expression gives when `read` tells the values of cells.  A call that names no function
or has a wrong number of arguments is settled without them. -/
def evaluate (ifEmpty : EmptyAverage) (read : Address → m Value) : Expr → m Result
  | literal v => pure (.scalar v)
  | cell a => return .scalar (← read a)
  | range r => return .list ((← r.cells.mapM read).filter fun v => !v.isEmpty)
  | binary op left right => do
    let a ← left.evaluate ifEmpty read
    let b ← right.evaluate ifEmpty read
    return .scalar (op.apply a.toScalar b.toScalar)
  | call name args =>
    match Function.ofName? name with
    | none => return .scalar (.error .unknownName)
    | some f =>
      if f.arity.accepts args.length then do
        let values ← evaluateAll ifEmpty read args
        return .scalar (f.apply ifEmpty values)
      else return .scalar (.error .badValue)

/-- The values of arguments, those of a range among them one by one. -/
def evaluateAll (ifEmpty : EmptyAverage) (read : Address → m Value) : List Expr → m (List Value)
  | [] => pure []
  | arg :: rest => do
    let first ← arg.evaluate ifEmpty read
    let others ← evaluateAll ifEmpty read rest
    return first.values ++ others

end

/-- The value of the expression. -/
def value (ifEmpty : EmptyAverage) (read : Address → m Value) (e : Expr) : m Value :=
  Result.toScalar <$> e.evaluate ifEmpty read

end Expr

/-! ### Cells under evaluation -/

/-- The cells whose formulas are being evaluated, innermost first, each at most once. -/
structure Stack where
  cells : List Address
  nodup : cells.Nodup
deriving Repr

namespace Stack

/-- No cell is being evaluated. -/
def empty : Stack := ⟨[], List.nodup_nil⟩

instance : EmptyCollection Stack := ⟨empty⟩

/-- Is the cell being evaluated? -/
def holds (s : Stack) (a : Address) : Bool :=
  s.cells.contains a

theorem holds_iff {s : Stack} {a : Address} : s.holds a = true ↔ a ∈ s.cells :=
  List.contains_iff_mem

/-- How many cells are being evaluated. -/
def depth (s : Stack) : Nat :=
  s.cells.length

/-- Begins with a cell, unless it is being evaluated already. -/
def enter? (s : Stack) (a : Address) : Option Stack :=
  if h : a ∈ s.cells then none else some ⟨a :: s.cells, List.nodup_cons.2 ⟨h, s.nodup⟩⟩

/-- Reads a cell with `read`, but a cell under evaluation reads as a circular reference. -/
def guard (s : Stack) (read : Address → m Value) (a : Address) : m Value :=
  if s.holds a then pure (.error .circular) else read a

end Stack

end Worksheet
