/-!
# A floating-point number taken apart

`Binary.ofFloat` reads the sign, the significand and the power of two off the bits of a number, so
that its exact value can be worked on with natural numbers.
-/

namespace Worksheet.Number

/-- A number as its exact value: `finite s m q` is `m * 2 ^ q`, with a minus sign if `s`. -/
inductive Binary where
  | nan
  | infinite (negative : Bool)
  | finite (negative : Bool) (significand : Nat) (exponent : Int)
deriving DecidableEq, Repr

namespace Binary

/-- The least significand of a number with all 53 bits. -/
def hiddenBit : Nat := 0x10000000000000

/-- The power of two that the last bit of the smallest numbers stands for. -/
def leastExponent : Int := -1074

/-- The exact value that the bits of a number write. -/
def ofFloat (x : Float) : Binary :=
  let bits := x.toBits.toNat
  let negative := bits / 0x8000000000000000 == 1
  let power := bits / hiddenBit % 2048
  let fraction := bits % hiddenBit
  if power = 2047 then
    if fraction = 0 then .infinite negative else .nan
  else if power = 0 then
    .finite negative fraction leastExponent
  else
    .finite negative (hiddenBit + fraction) (leastExponent + (power - 1 : Nat))

end Binary

end Worksheet.Number
