import Worksheet.Number.Layout
import Worksheet.Text.Ascii
import Worksheet.Text.Blank

/-!
# Cell values

A cell holds nothing, a number, a text, a truth value or an error.  Errors are values like the
others: they are stored, shown and passed on by formulas.
-/

namespace Worksheet

/-- The errors a cell can show. -/
inductive CellError where
  | divisionByZero
  | unknownName
  | badReference
  | badValue
  | circular
  | badFormula
deriving DecidableEq, Repr

namespace CellError

/-- All errors, in the order of their definition. -/
def all : List CellError :=
  [divisionByZero, unknownName, badReference, badValue, circular, badFormula]

theorem mem_all (e : CellError) : e ∈ all := by cases e <;> simp [all]

/-- The sentinel that stands for the error in a cell. -/
def text : CellError → String
  | divisionByZero => "#DIV/0!"
  | unknownName => "#NAME?"
  | badReference => "#REF!"
  | badValue => "#VALUE!"
  | circular => "#CIRC!"
  | badFormula => "#ERROR!"

instance : ToString CellError := ⟨text⟩

/-- The error whose sentinel this is, in any case and with blanks around it. -/
def ofText? (s : String) : Option CellError :=
  all.find? fun e => e.text == Text.asciiUpper (Text.trim s)

/-- What is said of a text that is no sentinel. -/
def unknownMessage (s : String) : String :=
  "Unknown error value: " ++ s

end CellError

/-- What a cell holds or a formula gives. -/
inductive Value where
  | empty
  | number (n : Float)
  | text (s : String)
  | boolean (b : Bool)
  | error (e : CellError)
deriving Repr, Inhabited

namespace Value

/-- Numbers in cells are written without a power of ten, without `.0`, and zero without a sign; of
two equally near decimals the greater is written. -/
def layout : Number.Layout where
  tie := .up
  positional := fun _ => true
  wholePoint := false
  plusSign := false
  signedZero := false

/-- The word for a truth value. -/
def truthWord (b : Bool) : String :=
  if b then "TRUE" else "FALSE"

/-- The value as a cell shows it. -/
def display : Value → String
  | empty => ""
  | number n => layout.text n
  | text s => s
  | boolean b => truthWord b
  | error e => e.text

instance : ToString Value := ⟨display⟩

/-- The word for the kind of value. -/
def kind : Value → String
  | empty => "empty"
  | number _ => "number"
  | text _ => "text"
  | boolean _ => "boolean"
  | error _ => "error"

/-- Is there no value? -/
def isEmpty : Value → Bool
  | empty => true
  | _ => false

/-- Is the value an error? -/
def isError : Value → Bool
  | error _ => true
  | _ => false

/-- The error, if the value is one. -/
def error? : Value → Option CellError
  | error e => some e
  | _ => none

/-- The number, if the value is one. -/
def number? : Value → Option Float
  | number n => some n
  | _ => none

/-- The first error among some values. -/
def firstError? (values : List Value) : Option CellError :=
  values.findSome? error?

/-- A number that a computation gave: infinities and NaN are no values of a cell. -/
def ofFinite (n : Float) : Value :=
  if n.isFinite then number n else error .badValue

end Value

end Worksheet
