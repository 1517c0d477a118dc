import Worksheet.Grid.A1

/-!
# Rectangular ranges

A range is given by its top left and its bottom right cell.  `Range.spanning` makes one from any two
opposite corners, `Range.walk` goes through its cells row by row.  Counts are machine words, as wide
as the sheet's own numbers.
-/

namespace Worksheet

/-- The cells between two corners, both included. -/
structure Range where
  first : Address
  last : Address
  row_le : first.row ≤ last.row
  col_le : first.col ≤ last.col
deriving DecidableEq, Repr

namespace Range

/-- The smallest range with both cells in it. -/
def spanning (a b : Address) : Range where
  first := ⟨if a.row ≤ b.row then a.row else b.row, if a.col ≤ b.col then a.col else b.col⟩
  last := ⟨if a.row ≤ b.row then b.row else a.row, if a.col ≤ b.col then b.col else a.col⟩
  row_le := by
    dsimp only
    split
    · assumption
    · exact UInt32.le_of_lt (UInt32.not_le.1 ‹_›)
  col_le := by
    dsimp only
    split
    · assumption
    · exact UInt16.le_of_lt (UInt16.not_le.1 ‹_›)

/-- The range that is one cell. -/
def single (a : Address) : Range where
  first := a
  last := a
  row_le := UInt32.le_refl _
  col_le := UInt16.le_refl _

/-- Is the cell in the range? -/
def contains (r : Range) (a : Address) : Bool :=
  r.first.row ≤ a.row && a.row ≤ r.last.row && r.first.col ≤ a.col && a.col ≤ r.last.col

theorem contains_iff {r : Range} {a : Address} :
    r.contains a = true ↔
      (r.first.row ≤ a.row ∧ a.row ≤ r.last.row) ∧ r.first.col ≤ a.col ∧ a.col ≤ r.last.col := by
  simp only [contains, Bool.and_eq_true, decide_eq_true_eq, and_assoc]

/-- The number of rows. -/
def rows (r : Range) : UInt32 :=
  r.last.row - r.first.row + 1

/-- The number of columns. -/
def cols (r : Range) : UInt16 :=
  r.last.col - r.first.col + 1

/-- The number of cells. -/
def count (r : Range) : UInt64 :=
  r.rows.toUInt64 * r.cols.toUInt64

/-- The characters of the range in A1 notation, its two corners around a colon. -/
def chars (r : Range) : List Char :=
  r.first.chars ++ ':' :: r.last.chars

/-- The range in A1 notation. -/
def text (r : Range) : String :=
  String.ofList r.chars

instance : ToString Range := ⟨text⟩

/-! ### Going through the cells -/

/-- A walk through the cells of a range: the cell it stands on and how many are still to come. -/
structure Walk where
  range : Range
  row : UInt32
  col : UInt16
  left : UInt64

/-- The walk that has not yet begun. -/
def walk (r : Range) : Walk :=
  ⟨r, r.first.row, r.first.col, r.count⟩

namespace Walk

/-- The cell under the walk, and the walk after it. -/
def next? (w : Walk) : Option (Address × Walk) :=
  if w.left = 0 then none
  else
    let after :=
      if w.col = w.range.last.col then
        { w with left := w.left - 1, col := w.range.first.col, row := w.row + 1 }
      else
        { w with left := w.left - 1, col := w.col + 1 }
    some (⟨w.row, w.col⟩, after)

/-- The next cells, at most `n` of them, put behind those already passed, and the walk after. -/
def advance (passed : Array Address) (w : Walk) : Nat → Array Address × Walk
  | 0 => (passed, w)
  | n + 1 =>
    match w.next? with
    | none => (passed, w)
    | some (a, w') => advance (passed.push a) w' n

/-- The next cells, at most `n` of them, and the walk after. -/
def take (w : Walk) (n : Nat) : List Address × Walk :=
  let (passed, w') := w.advance #[] n
  (passed.toList, w')

end Walk

/-- All cells of the range, row by row. -/
def cells (r : Range) : List Address :=
  (r.walk.take r.count.toNat).1

end Range

/-- Why a text is no range. -/
inductive RangeError where
  /-- The text is one address, and a wrong one. -/
  | address (cause : AddressError)
  /-- One of the two corners is wrong. -/
  | corner (text : String) (cause : AddressError)
deriving DecidableEq, Repr

namespace RangeError

/-- What the error says to the user. -/
def message : RangeError → String
  | address cause => cause.message
  | corner text cause => "Invalid cell range: '" ++ text ++ "': " ++ cause.message

end RangeError

namespace Range

/-- The range that a text writes: two addresses around the first colon, or one cell alone. -/
def ofText (s : String) : Except RangeError Range :=
  let s := Text.trimChars s.toList
  match s.dropWhile (· != ':') with
  | [] => ((Address.readTrimmed s).map single).mapError .address
  | _ :: after =>
    let corner (part : List Char) : Except RangeError Address :=
      (Address.readTrimmed (Text.trimChars part)).mapError (.corner (String.ofList s))
    do
      let a ← corner (s.takeWhile (· != ':'))
      let b ← corner after
      return spanning a b

end Range

end Worksheet
