import Worksheet.Value.Coercion
import Worksheet.Text.Casing

/-!
# The order of values

Two texts, or a text and nothing, are compared by their lower case forms, code point by code point.
Two values that both pass for numbers are compared as numbers, where a NaN counts as equal to all.
What remains is ordered by kind: numbers, then texts, truth values and errors.
-/

namespace Worksheet

/-- The order of two numbers; a NaN is on a level with every number. -/
def compareNumbers (x y : Float) : Ordering :=
  if x < y then .lt else if y < x then .gt else .eq

namespace Value

/-- The place of the kind of value among the kinds. -/
def rank : Value → Nat
  | empty => 0
  | number _ => 0
  | text _ => 1
  | boolean _ => 2
  | error _ => 3

/-- The order of two texts, case set aside. -/
def compareTexts (s t : String) : Ordering :=
  compareOfLessAndEq (Text.lower s) (Text.lower t)

/-- The order of two values that are not both texts. -/
def compareMixed (a b : Value) : Ordering :=
  match a.toNumber?, b.toNumber? with
  | some x, some y => compareNumbers x y
  | _, _ => compare a.rank b.rank

/-- The order that the comparison operators go by. -/
def order : Value → Value → Ordering
  | text s, text t => compareTexts s t
  | text s, empty => compareTexts s ""
  | empty, text t => compareTexts "" t
  | a, b => compareMixed a b

end Value

end Worksheet
