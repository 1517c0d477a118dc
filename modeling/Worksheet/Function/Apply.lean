import Worksheet.Function.Basic
import Worksheet.Value.Coercion
import Worksheet.Text.Casing

/-!
# What functions give

A function is applied to the values of its arguments, the cells of a range one by one.  The
aggregates see the numbers among them and nothing else, but an error among the values is their
result.  The other functions coerce their arguments, and no function gives an infinity or a NaN that
its arguments did not hold.
-/

namespace Worksheet.Function

/-- The result of a computation that may fail. -/
def valueOf : Except CellError Value → Value
  | .ok v => v
  | .error e => .error e

/-! ### Aggregates -/

/-- The result of `f` on the numbers among the values, unless there is an error among them. -/
def aggregate (f : List Float → Value) (args : List Value) : Value :=
  match Value.firstError? args with
  | some e => .error e
  | none => f (args.filterMap Value.number?)

/-- The sum from left to right; of no numbers it is negative zero. -/
def total (numbers : List Float) : Value :=
  .ofFinite (numbers.foldl (· + ·) (-0.0))

/-- The sum divided by the number of summands. -/
def mean (ifEmpty : EmptyAverage) (numbers : List Float) : Value :=
  if numbers.isEmpty then
    match ifEmpty with
    | .zero => .number 0.0
    | .divisionByZero => .error .divisionByZero
  else .ofFinite (numbers.foldl (· + ·) 0.0 / numbers.length.toFloat)

/-- The lesser of two numbers, NaN being passed over. -/
def lesser (x y : Float) : Float :=
  if x.isNaN then y else if y.isNaN then x else if y < x then y else x

/-- The greater of two numbers, NaN being passed over. -/
def greater (x y : Float) : Float :=
  if x.isNaN then y else if y.isNaN then x else if x < y then y else x

/-- The numbers combined from left to right; of no numbers it is zero. -/
def combine (f : Float → Float → Float) : List Float → Value
  | [] => .number 0.0
  | n :: rest => .number (rest.foldl f n)

/-! ### Numbers -/

/-- The number that an argument is taken for. -/
def numberOf : Option Value → Except CellError Float
  | none => .error .badValue
  | some (.error e) => .error e
  | some v =>
    match v.toNumber? with
    | some n => .ok n
    | none => .error .badValue

/-- Raises by repeated squaring: `power` times `base` to the `n`. -/
def powerFrom (power base : Float) (n : Nat) : Float :=
  let power := if n % 2 = 1 then power * base else power
  if n / 2 = 0 then power else powerFrom power (base * base) (n / 2)
termination_by n
decreasing_by omega

/-- Ten to the `n`; beyond twenty-two it may differ from the nearest float. -/
def powerOfTen (n : Nat) : Float :=
  powerFrom 1.0 10.0 n

/-- The number of places to round to: the whole part of the argument, at most 308 either way. -/
def places (x : Float) : Int :=
  if x.isNaN then 0
  else
    let n := Nat.min x.abs.toUInt64.toNat 308
    if x < 0.0 then -(n : Int) else n

/-- Rounds to so many places after the point, or before it if negative; halves go away from zero.
A number too large to be scaled has no places to round. -/
def roundTo (n : Float) : Int → Value
  | .ofNat digits =>
    let factor := powerOfTen digits
    let scaled := n * factor
    if scaled.isFinite then .ofFinite (scaled.round / factor) else .number n
  | .negSucc digits =>
    let factor := powerOfTen (digits + 1)
    .ofFinite ((n / factor).round * factor)

/-- The first argument rounded to the places that the second one says, or to none. -/
def rounded (args : List Value) : Except CellError Value := do
  let n ← numberOf args[0]?
  match args[1]? with
  | none => return roundTo n 0
  | some v =>
    let digits ← numberOf (some v)
    return roundTo n (places digits)

/-- The square root; a negative number has none. -/
def root (n : Float) : Value :=
  if n < 0.0 then .error .badValue else .number n.sqrt

/-- The first argument to the power of the second; zero has no negative powers. -/
def power (args : List Value) : Except CellError Value := do
  let base ← numberOf args[0]?
  let exponent ← numberOf args[1]?
  if base == 0.0 && exponent < 0.0 then throw .divisionByZero
  return .ofFinite (base.pow exponent)

/-! ### Truth values -/

/-- The second argument if the first is true, else the third; a missing third one is false. -/
def choose (args : List Value) : Except CellError Value :=
  match args with
  | [] => .error .badValue
  | condition :: branches => do
    let chosen ← condition.toBool
    if chosen then return branches[0]?.getD (.error .badValue)
    else return branches[1]?.getD (.boolean false)

/-- All arguments, at least one, folded as truth values. -/
def foldTruths (f : Bool → Bool → Bool) (start : Bool) (args : List Value) :
    Except CellError Value :=
  if args.isEmpty then .error .badValue
  else do
    let bools ← args.mapM Value.toBool
    return .boolean (bools.foldl f start)

/-- The truth value opposite to that of the first argument. -/
def negation : List Value → Except CellError Value
  | [] => .error .badValue
  | v :: _ => do return .boolean (!(← v.toBool))

/-! ### Texts -/

/-- The texts of all values, one after the other. -/
def joined (args : List Value) : Value :=
  match Value.firstError? args with
  | some e => .error e
  | none => .text (String.join (args.map Value.display))

/-- The text of the first argument, changed by `f`. -/
def onText (f : String → String) : List Value → Value
  | [] => .error .badValue
  | .error e :: _ => .error e
  | v :: _ => .text (f v.display)

/-- What the function gives for the values of its arguments. -/
def apply (ifEmpty : EmptyAverage) : Function → List Value → Value
  | sum, args => aggregate total args
  | average, args => aggregate (mean ifEmpty) args
  | count, args => aggregate (fun numbers => .number numbers.length.toFloat) args
  | min, args => aggregate (combine lesser) args
  | max, args => aggregate (combine greater) args
  | abs, args => valueOf ((numberOf args[0]?).map fun n => .number n.abs)
  | round, args => valueOf (rounded args)
  | sqrt, args => valueOf ((numberOf args[0]?).map root)
  | pow, args => valueOf (power args)
  | ifElse, args => valueOf (choose args)
  | and, args => valueOf (foldTruths (· && ·) true args)
  | or, args => valueOf (foldTruths (· || ·) false args)
  | not, args => valueOf (negation args)
  | concat, args => joined args
  | upper, args => onText Text.upper args
  | lower, args => onText Text.lower args

end Worksheet.Function
