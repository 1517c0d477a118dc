import Worksheet.Value.Basic
import Worksheet.Number.Numeral

/-!
# Values as numbers and as truth values

Arithmetic takes a truth value as one or zero, nothing as zero and a text as the numeral it writes.
Logical functions take a number as true unless it is zero, and a text only if it is one of the two
truth words.
-/

namespace Worksheet.Value

/-- The truth value that a text names, in any case. -/
def truthOfWord? (s : String) : Option Bool :=
  if Text.asciiEq s (truthWord true) then some true
  else if Text.asciiEq s (truthWord false) then some false
  else none

/-- The number that arithmetic takes the value for. -/
def toNumber? : Value → Option Float
  | empty => some 0.0
  | number n => some n
  | text s => Number.readFinite? (Text.trimChars s.toList)
  | boolean b => some (if b then 1.0 else 0.0)
  | error _ => none

/-- The truth value that logical functions take the value for, or the error they give. -/
def toBool : Value → Except CellError Bool
  | empty => .ok false
  | number n => .ok (n != 0.0)
  | text s =>
    match truthOfWord? s with
    | some b => .ok b
    | none => .error .badValue
  | boolean b => .ok b
  | error e => .error e

end Worksheet.Value
