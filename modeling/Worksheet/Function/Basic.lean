import Worksheet.Text.Ascii

/-!
# The functions of formulas

Their names and how many arguments each takes.  A name is looked up whatever the case of its
letters.
-/

namespace Worksheet

/-- How many arguments a function takes. -/
structure Arity where
  least : Nat
  /-- Nothing where there is no upper bound. -/
  most : Option Nat
deriving DecidableEq, Repr

namespace Arity

/-- May a call have this many arguments? -/
def accepts (arity : Arity) (n : Nat) : Bool :=
  arity.least ≤ n && arity.most.all (n ≤ ·)

end Arity

/-- The functions that formulas can call. -/
inductive Function where
  | abs
  | and
  | average
  | concat
  | count
  | ifElse
  | lower
  | max
  | min
  | not
  | or
  | pow
  | round
  | sqrt
  | sum
  | upper
deriving DecidableEq, Repr

namespace Function

/-- All functions, in the order of their names. -/
def all : List Function :=
  [abs, and, average, concat, count, ifElse, lower, max, min, not, or, pow, round, sqrt, sum, upper]

theorem mem_all (f : Function) : f ∈ all := by cases f <;> simp [all]

/-- The name of a function. -/
def name : Function → String
  | abs => "ABS"
  | and => "AND"
  | average => "AVERAGE"
  | concat => "CONCAT"
  | count => "COUNT"
  | ifElse => "IF"
  | lower => "LOWER"
  | max => "MAX"
  | min => "MIN"
  | not => "NOT"
  | or => "OR"
  | pow => "POW"
  | round => "ROUND"
  | sqrt => "SQRT"
  | sum => "SUM"
  | upper => "UPPER"

/-- How many arguments a function takes. -/
def arity : Function → Arity
  | sum | average | count | min | max | and | or => ⟨1, none⟩
  | ifElse => ⟨2, some 3⟩
  | not | abs | sqrt | upper | lower => ⟨1, some 1⟩
  | round => ⟨1, some 2⟩
  | pow => ⟨2, some 2⟩
  | concat => ⟨0, none⟩

/-- The function that a name calls. -/
def ofName? (s : String) : Option Function :=
  all.find? fun f => f.name == Text.asciiUpper s

end Function

/-- What the average of no numbers is. -/
inductive EmptyAverage where
  | zero
  | divisionByZero
deriving DecidableEq, Repr, Inhabited

namespace EmptyAverage

/-- The word for the choice. -/
def word : EmptyAverage → String
  | zero => "zero"
  | divisionByZero => "div0"

end EmptyAverage

end Worksheet
