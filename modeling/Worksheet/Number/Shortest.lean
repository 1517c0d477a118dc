import Worksheet.Number.Binary

/-!
# The shortest decimal that reads back

The reals that round to `m * 2 ^ q` form an interval, closed exactly when `m` is even.  `shortest`
takes the coarsest decimal grid that has a point in this interval, and on it the point nearest to
the value.  All comparisons are between natural numbers: both sides are brought to a common scale.
-/

namespace Worksheet.Number

/-- Which of two equally near decimals is written. -/
inductive Tie where
  | up
  | even
deriving DecidableEq, Repr

/-- A decimal `d₁.d₂…dₙ * 10 ^ lead`, given by its digits and the exponent of the first of them. -/
structure Decimal where
  digits : List Char
  lead : Int
deriving DecidableEq, Repr

/-- The interval of the reals that round to a number, in units of a quarter of its last bit. -/
structure Rounding where
  low : Nat
  value : Nat
  high : Nat
  /-- The unit is `2 ^ unit`. -/
  unit : Int
  /-- Do the two ends themselves round to the number? -/
  closed : Bool
deriving DecidableEq, Repr

namespace Rounding

/-- The interval of `m * 2 ^ q`.  Below a power of two the neighbour is only half as far away. -/
def ofFinite (m : Nat) (q : Int) : Rounding where
  low := if m = Binary.hiddenBit ∧ q ≠ Binary.leastExponent then 4 * m - 1 else 4 * m - 2
  value := 4 * m
  high := 4 * m + 2
  unit := q - 2
  closed := m % 2 == 0

/-- What a point of the grid `10 ^ k` is multiplied by to be compared with the interval. -/
def gridScale (r : Rounding) (k : Int) : Nat :=
  Nat.pow 10 k.toNat * Nat.pow 2 (-r.unit).toNat

/-- What the interval is multiplied by to be compared with a point of the grid `10 ^ k`. -/
def unitScale (r : Rounding) (k : Int) : Nat :=
  Nat.pow 2 r.unit.toNat * Nat.pow 10 (-k).toNat

/-- Does `c * 10 ^ k` round to the number? -/
def holds (r : Rounding) (k : Int) (c : Nat) : Bool :=
  let point := c * r.gridScale k
  let low := r.low * r.unitScale k
  let high := r.high * r.unitScale k
  if r.closed then low ≤ point && point ≤ high else low < point && point < high

/-- Of the two neighbours of the value on the grid `10 ^ k`, the nearest that rounds to it. -/
def onGrid (tie : Tie) (r : Rounding) (k : Int) : Option Nat :=
  let value := r.value * r.unitScale k
  let below := value / r.gridScale k
  let above := below + 1
  if r.holds k below then
    if r.holds k above then
      let down := value - below * r.gridScale k
      let up := above * r.gridScale k - value
      if down < up then some below
      else if up < down then some above
      else match tie with
        | .up => some above
        | .even => if below % 2 = 0 then some below else some above
    else some below
  else if r.holds k above then some above
  else none

/-- The exponent of the first decimal digit of the value. -/
def lead (r : Rounding) : Int :=
  let numerator := r.value * Nat.pow 2 r.unit.toNat
  let denominator := Nat.pow 2 (-r.unit).toNat
  if denominator ≤ numerator then
    (Nat.toDigits 10 (numerator / denominator)).length - 1
  else
    -((Nat.toDigits 10 ((denominator - 1) / numerator)).length : Int)

/-- The coarsest grid with a point in the interval: one significant digit, two, … seventeen. -/
def shortest (tie : Tie) (r : Rounding) : Decimal :=
  let lead := r.lead
  let found := (List.range 17).findSome? fun (n : Nat) =>
    (r.onGrid tie (lead - n)).map fun c => (c, lead - n)
  let (c, k) := found.getD (0, 0)
  let digits := Nat.toDigits 10 c
  ⟨(digits.reverse.dropWhile (· == '0')).reverse, k + (digits.length - 1 : Nat)⟩

end Rounding

/-- The shortest decimal that reads back as `m * 2 ^ q`; zero has the one digit `0`. -/
def shortest (tie : Tie) (m : Nat) (q : Int) : Decimal :=
  if m = 0 then ⟨['0'], 0⟩ else (Rounding.ofFinite m q).shortest tie

end Worksheet.Number
