import Worksheet.Formula.Operator
import Worksheet.Formula.TextLiteral
import Worksheet.Grid.Range
import Worksheet.Value.Basic

/-!
# Expressions

The tree of a formula, the cells it reads and its text.  The text puts every operation in brackets,
so it can be read back without a word about how operators bind.
-/

namespace Worksheet

/-- A formula as a tree. -/
inductive Expr where
  | literal (v : Value)
  | cell (a : Address)
  | range (r : Range)
  | binary (op : Operator) (left right : Expr)
  | call (name : String) (args : List Expr)
deriving Repr

namespace Expr

mutual

/-- The height of the tree; a leaf has height one. -/
def height : Expr → Nat
  | binary _ left right => 1 + Nat.max left.height right.height
  | call _ args => 1 + heights args
  | _ => 1

/-- The greatest height among some trees. -/
def heights : List Expr → Nat
  | [] => 0
  | arg :: rest => Nat.max arg.height (heights rest)

end

mutual

/-- The cells that the expression reads, in reading order, ranges cell by cell. -/
def reads : Expr → List Address
  | literal _ => []
  | cell a => [a]
  | range r => r.cells
  | binary _ left right => left.reads ++ right.reads
  | call _ args => readsAll args

/-- The cells that some expressions read, in reading order. -/
def readsAll : List Expr → List Address
  | [] => []
  | arg :: rest => arg.reads ++ readsAll rest

end

/-- The set of the cells that the expression reads. -/
def dependencies (e : Expr) : AddressSet :=
  Std.ExtTreeSet.ofList e.reads

mutual

/-- The number of cells read, every cell of a range counted, without going through them. -/
def referencedCount : Expr → UInt64
  | literal _ => 0
  | cell _ => 1
  | range r => r.count
  | binary _ left right => left.referencedCount + right.referencedCount
  | call _ args => referencedCounts args

/-- The number of cells read by some expressions together. -/
def referencedCounts : List Expr → UInt64
  | [] => 0
  | arg :: rest => arg.referencedCount + referencedCounts rest

end

mutual

/-- The characters of the expression, every operation in brackets. -/
def chars : Expr → List Char
  | literal (.text s) => TextLiteral.write s.toList
  | literal v => v.display.toList
  | cell a => a.chars
  | range r => r.chars
  | binary op left right => '(' :: left.chars ++ op.chars ++ right.chars ++ [')']
  | call name args => name.toList ++ '(' :: charsAll args ++ [')']

/-- The characters of arguments, with commas between them. -/
def charsAll : List Expr → List Char
  | [] => []
  | [arg] => arg.chars
  | arg :: rest => arg.chars ++ ',' :: charsAll rest

end

/-- The expression as text, without an equals sign in front. -/
def text (e : Expr) : String :=
  String.ofList e.chars

instance : ToString Expr := ⟨text⟩

end Expr

end Worksheet
