import Worksheet.Number.Shortest

/-!
# Laying out a number

A `Layout` says how the shortest digits of a number are set: where positional notation ends,
whether a whole number keeps a point, how an exponent is signed, and what becomes of the sign of
zero.  The layouts in use stand with the formats they belong to.
-/

namespace Worksheet.Number

/-- The decisions of one number format. -/
structure Layout where
  /-- Which of two equally near decimals is written. -/
  tie : Tie
  /-- Is a number whose first digit has this exponent written without a power of ten? -/
  positional : Int → Bool
  /-- Is a whole number in positional notation followed by `.0`? -/
  wholePoint : Bool
  /-- Does an exponent that is not negative take a plus sign? -/
  plusSign : Bool
  /-- Does negative zero keep its sign? -/
  signedZero : Bool

namespace Layout

/-- The digits around a decimal point, with the zeros that the position needs. -/
def spread (l : Layout) (d : Decimal) : List Char :=
  if d.lead < 0 then
    '0' :: '.' :: List.replicate (-d.lead - 1).toNat '0' ++ d.digits
  else
    let whole := d.lead.toNat + 1
    if d.digits.length ≤ whole then
      d.digits ++ List.replicate (whole - d.digits.length) '0'
        ++ if l.wholePoint then ['.', '0'] else []
    else
      d.digits.take whole ++ '.' :: d.digits.drop whole

/-- The digits with a power of ten. -/
def scientific (l : Layout) (d : Decimal) : List Char :=
  let fraction := d.digits.drop 1
  d.digits.take 1 ++ (if fraction.isEmpty then [] else '.' :: fraction) ++ 'e' ::
    (if d.lead < 0 then ['-'] else if l.plusSign then ['+'] else []) ++
    Nat.toDigits 10 d.lead.natAbs

/-- The decimal, positional or scientific as the layout has it. -/
def body (l : Layout) (d : Decimal) : List Char :=
  if l.positional d.lead then l.spread d else l.scientific d

/-- The characters of a number. -/
def write (l : Layout) (x : Float) : List Char :=
  match Binary.ofFloat x with
  | .nan => ['N', 'a', 'N']
  | .infinite negative => (if negative then ['-'] else []) ++ ['i', 'n', 'f']
  | .finite negative m q =>
    (if negative && (m != 0 || l.signedZero) then ['-'] else []) ++ l.body (shortest l.tie m q)

/-- The text of a number. -/
def text (l : Layout) (x : Float) : String :=
  String.ofList (l.write x)

end Layout

end Worksheet.Number
