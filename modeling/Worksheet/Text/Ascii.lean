/-!
# ASCII letters, digits and case

Column letters, function names, truth words and error sentinels are ASCII by their grammar, so
their case is changed letter by letter and a character outside ASCII is left alone.
-/

namespace Worksheet.Text

/-- The text with its ASCII letters in upper case. -/
def asciiUpper (s : String) : String :=
  String.ofList (s.toList.map Char.toUpper)

/-- Are the two texts equal but for the case of ASCII letters? -/
def asciiEq (s t : String) : Bool :=
  s.toList.map Char.toUpper == t.toList.map Char.toUpper

/-- The number that a run of decimal digits writes, most significant digit first. -/
def decimalValue (digits : List Char) : Nat :=
  digits.foldl (fun n d => 10 * n + (d.toNat - '0'.toNat)) 0

/-- The decimal digits of a number, without leading zeros. -/
def decimalDigits (n : Nat) : List Char :=
  Nat.toDigits 10 n

end Worksheet.Text
