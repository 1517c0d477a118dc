/-!
# Operators

Arithmetic gives numbers, a relation gives a truth value.  Every operator belongs to a tier; the
operators of one tier bind equally strongly and group from the left.
-/

namespace Worksheet

/-- The operators that give a number. -/
inductive Arithmetic where
  | add
  | subtract
  | multiply
  | divide
  | modulo
deriving DecidableEq, Repr

/-- The operators that give a truth value. -/
inductive Relation where
  | equal
  | notEqual
  | less
  | lessEqual
  | greater
  | greaterEqual
deriving DecidableEq, Repr

/-- The operators of formulas. -/
inductive Operator where
  | arithmetic (op : Arithmetic)
  | relation (op : Relation)
deriving DecidableEq, Repr

/-- How strongly an operator binds, weakest first. -/
inductive Tier where
  | comparison
  | sum
  | product
deriving DecidableEq, Repr

namespace Relation

/-- Does the relation hold between two values in this order? -/
def holds : Relation → Ordering → Bool
  | equal, o => o == .eq
  | notEqual, o => o != .eq
  | less, o => o == .lt
  | lessEqual, o => o != .gt
  | greater, o => o == .gt
  | greaterEqual, o => o != .lt

end Relation

namespace Operator

/-- The tier of an operator. -/
def tier : Operator → Tier
  | relation _ => .comparison
  | arithmetic .add => .sum
  | arithmetic .subtract => .sum
  | arithmetic _ => .product

/-- The characters that write the operator. -/
def chars : Operator → List Char
  | arithmetic .add => ['+']
  | arithmetic .subtract => ['-']
  | arithmetic .multiply => ['*']
  | arithmetic .divide => ['/']
  | arithmetic .modulo => ['%']
  | relation .equal => ['=']
  | relation .notEqual => ['<', '>']
  | relation .less => ['<']
  | relation .lessEqual => ['<', '=']
  | relation .greater => ['>']
  | relation .greaterEqual => ['>', '=']

/-- The operator as formulas write it. -/
def text (op : Operator) : String :=
  String.ofList op.chars

/-- Does the operator give a truth value? -/
def isRelation : Operator → Bool
  | relation _ => true
  | arithmetic _ => false

end Operator

namespace Tier

/-- All tiers, weakest first. -/
def all : List Tier :=
  [comparison, sum, product]

@[simp] theorem length_all : all.length = 3 := rfl

end Tier

end Worksheet
