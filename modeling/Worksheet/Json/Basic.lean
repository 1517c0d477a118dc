import Worksheet.Number.Layout
import Worksheet.Text.Ascii

/-!
# JSON values

JSON as a tree.  Numbers are kept as they are written, so that reading decides what they are taken
for: `natural?` takes a numeral without sign, point and exponent, `float?` any numeral in range.

What the grammar of JSON leaves open is settled as follows.

* A float is written by its shortest digits, in the plain form or with an exponent (`layout`); an
  infinity or a NaN is `null` (`ofFloat`).
* A numeral is read from those digits that fit a word of 64 bits, scaled once by a power of ten, so
  that it may miss the nearest float in the last place; a numeral that is too large is refused
  (`float?`).
* A member that is asked for has to stand exactly once, and the others are passed over (`member?`).
* An escape of half a surrogate pair belongs to the grammar, but its string is no text (`string`).
-/

namespace Worksheet

/-- A JSON value. -/
inductive Json where
  | null
  | bool (b : Bool)
  /-- A number, by its characters. -/
  | number (numeral : List Char)
  /-- A string; nothing if its escapes name half of a surrogate pair, so that it is no text. -/
  | string (text : Option String)
  | array (items : List Json)
  | object (members : List (Option String × Json))
deriving Repr

namespace Json

/-- The string of a text. -/
def text (s : String) : Json :=
  string (some s)

/-- An object with these members, in this order. -/
def record (members : List (String × Json)) : Json :=
  object (members.map fun (key, value) => (some key, value))

/-! ### Numbers -/

/-- Numbers are written without an exponent as long as their first digit stands no further than
fifteen places before the point or five behind it, and keep a point when they are whole; of two
equally near decimals the even one is written. -/
def layout : Number.Layout where
  tie := .even
  positional := fun lead => -5 ≤ lead && lead ≤ 15
  wholePoint := true
  plusSign := true
  signedZero := true

/-- A number; an infinity or a NaN is `null`. -/
def ofFloat (x : Float) : Json :=
  if x.isFinite then number (layout.write x) else null

/-- A whole number. -/
def ofNat (n : Nat) : Json :=
  number (Text.decimalDigits n)

/-- The natural number that a numeral writes, if it is at most `bound`. -/
def natural? (bound : Nat) (numeral : List Char) : Option Nat :=
  if numeral.all Char.isDigit && Text.decimalValue numeral ≤ bound then
    some (Text.decimalValue numeral)
  else none

/-- Adds digits to a significand as long as it fits a word of 64 bits, and gives the number of
digits that were left out. -/
def addDigits (significand : Nat) : List Char → Nat × Nat
  | [] => (significand, 0)
  | d :: rest =>
    let next := 10 * significand + (d.toNat - '0'.toNat)
    if next < UInt64.size then addDigits next rest else (significand, rest.length + 1)

/-- A float divided by ten to the `n`, in steps that floats can hold. -/
def divideByPower (x : Float) (n : Nat) : Float :=
  if n ≤ 308 then x / Float.ofScientific 1 false n
  else if x == 0.0 then x
  else divideByPower (x / Float.ofScientific 1 false 308) (n - 308)
termination_by n

/-- A float times a power of ten, unless it becomes too large. -/
def scale? (x : Float) : Int → Option Float
  | .ofNat n =>
    if x == 0.0 then some x
    else if n ≤ 308 then
      let y := x * Float.ofScientific 1 false n
      if y.isFinite then some y else none
    else none
  | .negSucc n => some (divideByPower x (n + 1))

/-- The characters up to the first one that is no digit, and those after. -/
def splitDigits (s : List Char) : List Char × List Char :=
  (s.takeWhile Char.isDigit, s.dropWhile Char.isDigit)

/-- The exponent at the end of a numeral. -/
def exponentOf : List Char → Int
  | _ :: '-' :: digits => -(Text.decimalValue digits : Int)
  | _ :: '+' :: digits => Text.decimalValue digits
  | _ :: digits => Text.decimalValue digits
  | [] => 0

/-- The size of the number that an unsigned numeral writes: the digits that fit a word, converted
and then scaled once.  With many digits it may be a neighbour of the nearest float. -/
def magnitude? (numeral : List Char) : Option Float :=
  let (whole, rest) := splitDigits numeral
  let (fraction, rest) := match rest with
    | '.' :: after => splitDigits after
    | rest => ([], rest)
  let (significand, dropped) := addDigits 0 whole
  let (significand, dropped') := addDigits significand fraction
  let places := fraction.length - dropped'
  scale? significand.toFloat (dropped - places + exponentOf rest)

/-- The float that a numeral is taken for, unless it is too large. -/
def float? : List Char → Option Float
  | '-' :: numeral => (magnitude? numeral).map fun x => -x
  | numeral => magnitude? numeral

/-! ### Objects -/

/-- The value of the only member with this key. -/
def member? (members : List (Option String × Json)) (key : String) : Option Json :=
  match members.filter fun m => m.1 == some key with
  | [(_, value)] => some value
  | _ => none

/-- Is every key a text? -/
def namesAll (members : List (Option String × Json)) : Bool :=
  members.all fun m => m.1.isSome

/-! ### Plain values -/

mutual

/-- How deep arrays and objects nest. -/
def depth : Json → Nat
  | array items => 1 + depthItems items
  | object members => 1 + depthMembers members
  | _ => 0

/-- How deep arrays and objects nest in some values. -/
def depthItems : List Json → Nat
  | [] => 0
  | item :: rest => Nat.max item.depth (depthItems rest)

/-- How deep arrays and objects nest in the values of some members. -/
def depthMembers : List (Option String × Json) → Nat
  | [] => 0
  | member :: rest => Nat.max (depthMember member) (depthMembers rest)

/-- How deep arrays and objects nest in the value of a member. -/
def depthMember : Option String × Json → Nat
  | (_, value) => value.depth

end

mutual

/-- Are all strings texts and all numbers floats? -/
def isPlain : Json → Bool
  | number numeral => (float? numeral).isSome
  | string text => text.isSome
  | array items => plainItems items
  | object members => plainMembers members
  | _ => true

/-- Are all of these values plain? -/
def plainItems : List Json → Bool
  | [] => true
  | item :: rest => item.isPlain && plainItems rest

/-- Are all of these members plain, keys and values? -/
def plainMembers : List (Option String × Json) → Bool
  | [] => true
  | member :: rest => plainMember member && plainMembers rest

/-- Is the member plain, key and value? -/
def plainMember : Option String × Json → Bool
  | (key, value) => key.isSome && value.isPlain

end

end Json

end Worksheet
