import Worksheet.Grid.Address
import Worksheet.Text.Ascii
import Worksheet.Text.Blank

/-!
# A1 notation

A column is written in bijective base 26 with the letters `A` to `Z` as digits, a row as a decimal
number counted from one.  Reading accepts a `$` in front of either part, any case of the letters and
leading zeros; `AddressError` says what can be wrong with a text.
-/

namespace Worksheet

/-- Why a text is no address. -/
inductive AddressError where
  | empty
  | noLetters
  | badLetter (c : Char)
  | columnBeyond (letters : String)
  | noColumn (text : String)
  | noRow (text : String)
  | badRow (text : String)
  | rowZero (text : String)
  | rowBeyond (row : Nat)
deriving DecidableEq, Repr

namespace AddressError

/-- What the error says to the user. -/
def message : AddressError → String
  | empty => "Invalid cell address: empty address"
  | noLetters => "Invalid cell address: empty column letters"
  | badLetter c => "Invalid cell address: invalid column letter '" ++ c.toString ++ "'"
  | columnBeyond letters => "Column " ++ letters ++ " out of bounds (max: XFD)"
  | noColumn text => "Invalid cell address: no column letters in '" ++ text ++ "'"
  | noRow text => "Invalid cell address: no row number in '" ++ text ++ "'"
  | badRow text => "Invalid cell address: invalid row number in '" ++ text ++ "'"
  | rowZero text => "Invalid cell address: row number must be >= 1 in '" ++ text ++ "'"
  | rowBeyond row =>
    "Row index " ++ toString row ++ " out of bounds (max: " ++ toString (rowLimit - 1) ++ ")"

end AddressError

namespace Column

/-- The letter with this rank, `A` being the first. -/
def letter (n : Nat) : Char :=
  Char.ofNat ('A'.toNat + n)

/-- The rank of a letter, counted from one. -/
def rank (c : Char) : Nat :=
  c.toUpper.toNat - 'A'.toNat + 1

/-- The letters of the column with this number, counted from zero. -/
def letters (n : Nat) : List Char :=
  if n < 26 then [letter n] else letters (n / 26 - 1) ++ [letter (n % 26)]
termination_by n
decreasing_by omega

/-- The name of a column. -/
def name (col : UInt16) : String :=
  String.ofList (letters col.toNat)

/-- The value that letters add to the value of those before them, in bijective base 26.  A column
beyond the sheet is refused at the first letter that leaves it; `whole` is what the error shows. -/
def readFrom (whole : List Char) (value : Nat) : List Char → Except AddressError Nat
  | [] => .ok value
  | c :: rest =>
    if !c.isAlpha then .error (.badLetter c)
    else if colLimit < value * 26 + rank c then
      .error (.columnBeyond (String.ofList (whole.map Char.toUpper)))
    else readFrom whole (value * 26 + rank c) rest

/-- The column that the letters name. -/
def read (letters : List Char) : Except AddressError UInt16 :=
  if letters.isEmpty then .error .noLetters
  else (readFrom letters 0 letters).map fun value => (value - 1).toUInt16

/-- The column that a text of letters names. -/
def ofName (letters : String) : Except AddressError UInt16 :=
  read letters.toList

end Column

namespace Address

/-- The text without one `$` in front. -/
def dropMark : List Char → List Char
  | '$' :: rest => rest
  | s => s

/-- The characters of an address in A1 notation. -/
def chars (a : Address) : List Char :=
  Column.letters a.col.toNat ++ Text.decimalDigits (a.row.toNat + 1)

/-- The address in A1 notation. -/
def text (a : Address) : String :=
  String.ofList a.chars

instance : ToString Address := ⟨text⟩

/-- The row that digits name; `whole` is what an error shows.  A number of 64 bits or more is no row
number, a smaller one may still lie beyond the sheet. -/
def readRow (whole : String) (digits : List Char) : Except AddressError UInt32 :=
  if digits.isEmpty then .error (.noRow whole)
  else if !digits.all Char.isDigit then .error (.badRow whole)
  else
    let number := Text.decimalValue digits
    if UInt64.size ≤ number then .error (.badRow whole)
    else if number = 0 then .error (.rowZero whole)
    else if rowLimit < number then .error (.rowBeyond (number - 1))
    else .ok (number - 1).toUInt32

/-- The address that characters without blanks around them write. -/
def readTrimmed (s : List Char) : Except AddressError Address :=
  if s.isEmpty then .error .empty
  else
    let s' := dropMark s
    let letters := s'.takeWhile Char.isAlpha
    if letters.isEmpty then .error (.noColumn (String.ofList s))
    else do
      let col ← Column.read letters
      let row ← readRow (String.ofList s) (dropMark (s'.dropWhile Char.isAlpha))
      return ⟨row, col⟩

/-- The address that a text writes in A1 notation; blanks around it do not count. -/
def ofText (s : String) : Except AddressError Address :=
  readTrimmed (Text.trimChars s.toList)

/-- Has the text the form of an address: letters and digits, each with at most one `$` in front? -/
def hasForm (s : List Char) : Bool :=
  let s' := dropMark s
  let digits := dropMark (s'.dropWhile Char.isAlpha)
  !(s'.takeWhile Char.isAlpha).isEmpty && !digits.isEmpty && digits.all Char.isDigit

end Address

end Worksheet
