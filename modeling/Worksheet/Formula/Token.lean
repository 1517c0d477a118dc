import Worksheet.Formula.Operator
import Worksheet.Grid.Range
import Worksheet.Number.Layout
import Worksheet.Text.Quoted

/-!
# Tokens and the errors of formulas

The tokens of a formula, the way messages show them, and what can be wrong with a formula.  A
position counts the bytes before it.
-/

namespace Worksheet

/-- The words of the formula language. -/
inductive Token where
  | number (n : Float)
  | text (s : String)
  | boolean (b : Bool)
  | cell (a : Address)
  | range (r : Range)
  /-- A word that is neither an address nor a truth value, in upper case. -/
  | name (s : String)
  | operator (op : Operator)
  | leftParen
  | rightParen
  | comma
deriving Repr

namespace Token

/-- Numbers in messages keep a point, and take a power of ten from `1e16` on and below `1e-4`. -/
def layout : Number.Layout where
  tie := .up
  positional := fun lead => -4 ≤ lead && lead ≤ 15
  wholePoint := true
  plusSign := false
  signedZero := true

/-- How messages show an address. -/
def showAddress (a : Address) : String :=
  "CellAddress \x7b row: " ++ toString a.row.toNat ++ ", col: " ++ toString a.col.toNat ++ " \x7d"

/-- The word for an operator in messages. -/
def operatorWord : Operator → String
  | .arithmetic .add => "Plus"
  | .arithmetic .subtract => "Minus"
  | .arithmetic .multiply => "Star"
  | .arithmetic .divide => "Slash"
  | .arithmetic .modulo => "Percent"
  | .relation .equal => "Equal"
  | .relation .notEqual => "NotEqual"
  | .relation .less => "LessThan"
  | .relation .lessEqual => "LessEqual"
  | .relation .greater => "GreaterThan"
  | .relation .greaterEqual => "GreaterEqual"

/-- How messages show a token. -/
def display : Token → String
  | number n => "Number(" ++ layout.text n ++ ")"
  | text s => "Text(" ++ Text.quoted s ++ ")"
  | boolean b => "Boolean(" ++ (if b then "true" else "false") ++ ")"
  | cell a => "CellRef(" ++ showAddress a ++ ")"
  | range r => "Range(CellRange \x7b start: " ++ showAddress r.first ++ ", end: "
      ++ showAddress r.last ++ " \x7d)"
  | name s => "Function(" ++ Text.quoted s ++ ")"
  | operator op => operatorWord op
  | leftParen => "LeftParen"
  | rightParen => "RightParen"
  | comma => "Comma"

end Token

/-- How deep brackets, signs and calls may nest, and how high the tree of a formula may grow. -/
def depthLimit : Nat := 256

/-- What is wrong with a formula. -/
inductive FormulaError where
  /-- No token begins with this character. -/
  | strayChar (position : Nat) (c : Char)
  /-- No quote closes the text that begins here. -/
  | openText (position : Nat)
  /-- These characters look like a token but stand for none. -/
  | badToken (position : Nat) (text : String)
  /-- No expression begins with this token. -/
  | unexpected (token : Token)
  /-- A bracket was to be closed where this token stands. -/
  | unclosed (token : Token)
  /-- This token follows a complete formula. -/
  | leftOver (token : Token)
  /-- The name of a function stands without arguments. -/
  | bareName (name : String)
  | tooDeep
  | unexpectedEnd
deriving Repr

namespace FormulaError

/-- What the error says to the user. -/
def message : FormulaError → String
  | strayChar position c =>
    "Unexpected character '" ++ c.toString ++ "' at position " ++ toString position
  | openText position => "Unterminated string starting at position " ++ toString position
  | badToken position text => "Invalid token '" ++ text ++ "' at position " ++ toString position
  | unexpected token => "Parse error: Unexpected token: " ++ token.display
  | unclosed token => "Parse error: Expected RightParen, got " ++ token.display
  | leftOver token =>
    "Parse error: Unexpected " ++ token.display ++ " after complete expression"
  | bareName name => "Parse error: Expected '(' after function name " ++ name
  | tooDeep => "Formula nested deeper than " ++ toString depthLimit ++ " levels"
  | unexpectedEnd => "Unexpected end of formula"

end FormulaError

end Worksheet
