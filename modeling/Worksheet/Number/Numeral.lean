import Worksheet.Text.Ascii

/-!
# Decimal numerals

A numeral is an optional sign, digits with an optional point, at least one digit in all, and an
optional power of ten.  Its value is the nearest floating-point number; a numeral too large for a
finite number is refused, so neither an infinity nor a NaN can be typed.
-/

namespace Worksheet.Number

/-- The parts of a numeral: `whole.fraction * 10 ^ exponent`, with its sign. -/
structure Numeral where
  negative : Bool
  whole : List Char
  fraction : List Char
  exponent : Int
deriving DecidableEq, Repr

/-- A sign in front of digits, and the characters after it; no sign counts as plus. -/
def splitSign : List Char → Bool × List Char
  | '-' :: rest => (true, rest)
  | '+' :: rest => (false, rest)
  | s => (false, s)

namespace Numeral

/-- The power of ten at the end of a numeral, after its `e`. -/
def exponent? (s : List Char) : Option Int :=
  let (negative, digits) := splitSign s
  if digits.isEmpty || !digits.all Char.isDigit then none
  else if negative then some (-(Text.decimalValue digits : Int))
  else some (Text.decimalValue digits)

/-- The end of a numeral after its digits: nothing, or a power of ten. -/
def scale? : List Char → Option Int
  | [] => some 0
  | c :: rest => if c = 'e' || c = 'E' then exponent? rest else none

/-- The numeral that a whole text writes. -/
def ofChars? (s : List Char) : Option Numeral :=
  let (negative, s) := splitSign s
  let whole := s.takeWhile Char.isDigit
  let (fraction, rest) := match s.dropWhile Char.isDigit with
    | '.' :: after => (after.takeWhile Char.isDigit, after.dropWhile Char.isDigit)
    | rest => ([], rest)
  if whole.isEmpty && fraction.isEmpty then none
  else (scale? rest).map fun exponent => ⟨negative, whole, fraction, exponent⟩

/-- The float nearest to `coefficient * 10 ^ exponent`, where the coefficient has `size` digits.
A coefficient whose last digit lies far outside the floats is settled without its power of ten. -/
def nearest (coefficient size : Nat) (exponent : Int) : Float :=
  if coefficient = 0 || size + exponent < -330 then 0.0
  else if size + exponent > 310 then 1.0 / 0.0
  else Float.ofScientific coefficient (decide (exponent < 0)) exponent.natAbs

/-- The float nearest to the numeral, infinite when it is too large. -/
def toFloat (n : Numeral) : Float :=
  let digits := (n.whole ++ n.fraction).dropWhile (· == '0')
  let magnitude :=
    nearest (Text.decimalValue digits) digits.length (n.exponent - n.fraction.length)
  if n.negative then -magnitude else magnitude

end Numeral

/-- The finite number that a whole text writes. -/
def readFinite? (s : List Char) : Option Float :=
  (Numeral.ofChars? s).bind fun n => if n.toFloat.isFinite then some n.toFloat else none

end Worksheet.Number
