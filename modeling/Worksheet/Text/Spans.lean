/-!
# Sets of characters given as spans of code points

`Spans` is a list of closed intervals of code points, the form in which the properties of the
character standard are published.  A character belongs to the set when its code point lies in one
of the intervals (`Spans.has`).
-/

namespace Worksheet.Text

/-- The code points from the first to the second number of each pair, both included. -/
abbrev Spans := List (Nat × Nat)

namespace Spans

/-- Does one of the spans hold the character? -/
def has (spans : Spans) (c : Char) : Bool :=
  spans.any fun span => span.1 ≤ c.toNat && c.toNat ≤ span.2

end Spans

end Worksheet.Text
