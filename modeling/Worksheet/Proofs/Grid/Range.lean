import Worksheet.Grid.Range
import Worksheet.Proofs.Except

/-!
# The size of ranges

An address that is read lies on the sheet (`onSheet_of_readTrimmed`), so the cells of a range that
is read are no more than those of the sheet and their count does not overflow
(`toNat_count_le`).
-/

namespace Worksheet

/-! ### Addresses that are read -/

theorem Column.readFrom_le {whole letters : List Char} {value v : Nat} (hvalue : value ≤ colLimit)
    (h : readFrom whole value letters = .ok v) : v ≤ colLimit := by
  induction letters generalizing value with
  | nil =>
    rw [readFrom] at h
    cases h
    exact hvalue
  | cons c rest ih =>
    rw [readFrom] at h
    split at h
    · cases h
    · split at h
      · cases h
      · next hle => exact ih (Nat.le_of_not_lt hle) h

theorem Column.toNat_read_lt {letters : List Char} {col : UInt16} (h : read letters = .ok col) :
    col.toNat < colLimit := by
  unfold read at h
  split at h
  · cases h
  · obtain ⟨value, hvalue, rfl⟩ := map_eq_ok.1 h
    have hle := readFrom_le (Nat.zero_le colLimit) hvalue
    have hmod : (value - 1).toUInt16.toNat ≤ value - 1 := Nat.mod_le _ _
    simp only [colLimit] at hle ⊢
    omega

theorem Address.toNat_readRow_lt {whole : String} {digits : List Char} {row : UInt32}
    (h : readRow whole digits = .ok row) : row.toNat < rowLimit := by
  unfold readRow at h
  dsimp only at h
  split at h
  · cases h
  split at h
  · cases h
  split at h
  · cases h
  split at h
  · cases h
  split at h
  · cases h
  · next hzero hle =>
    cases h
    have hmod : (Text.decimalValue digits - 1).toUInt32.toNat ≤ Text.decimalValue digits - 1 :=
      Nat.mod_le _ _
    omega

theorem Address.onSheet_of_readTrimmed {s : List Char} {a : Address}
    (h : readTrimmed s = .ok a) : a.OnSheet := by
  unfold readTrimmed at h
  dsimp only at h
  split at h
  · cases h
  split at h
  · cases h
  · obtain ⟨col, hcol, h⟩ := bind_eq_ok.1 h
    obtain ⟨row, hrow, h⟩ := bind_eq_ok.1 h
    cases h
    exact ⟨toNat_readRow_lt hrow, Column.toNat_read_lt hcol⟩

namespace Range

/-! ### The number of cells -/

section OnSheet

variable {r : Range} (hlast : r.last.OnSheet)
include hlast

theorem toNat_rows_le : r.rows.toNat ≤ rowLimit := by
  have hle : r.rows.toNat ≤ (r.last.row - r.first.row).toNat + 1 := by
    rw [rows, UInt32.toNat_add]
    exact Nat.mod_le _ _
  have hsub := UInt32.toNat_sub_of_le r.last.row r.first.row r.row_le
  have hrow := hlast.1
  omega

theorem toNat_cols_le : r.cols.toNat ≤ colLimit := by
  have hle : r.cols.toNat ≤ (r.last.col - r.first.col).toNat + 1 := by
    rw [cols, UInt16.toNat_add]
    exact Nat.mod_le _ _
  have hsub := UInt16.toNat_sub_of_le r.last.col r.first.col r.col_le
  have hcol := hlast.2
  omega

theorem toNat_count_le : r.count.toNat ≤ rowLimit * colLimit := by
  rw [count, UInt64.toNat_mul, UInt32.toNat_toUInt64, UInt16.toNat_toUInt64]
  exact Nat.le_trans (Nat.mod_le _ _) (Nat.mul_le_mul (toNat_rows_le hlast) (toNat_cols_le hlast))

end OnSheet

theorem onSheet_first_spanning {a b : Address} (ha : a.OnSheet) (hb : b.OnSheet) :
    (spanning a b).first.OnSheet := by
  constructor
  · unfold spanning
    dsimp only
    split
    · exact ha.1
    · exact hb.1
  · unfold spanning
    dsimp only
    split
    · exact ha.2
    · exact hb.2

theorem onSheet_last_spanning {a b : Address} (ha : a.OnSheet) (hb : b.OnSheet) :
    (spanning a b).last.OnSheet := by
  constructor
  · unfold spanning
    dsimp only
    split
    · exact hb.1
    · exact ha.1
  · unfold spanning
    dsimp only
    split
    · exact hb.2
    · exact ha.2

/-! ### The walk through the cells -/

theorem Walk.left_next? {w w' : Walk} {a : Address} (h : w.next? = some (a, w')) :
    w.left.toNat = w'.left.toNat + 1 := by
  unfold next? at h
  split at h
  · cases h
  · next hleft =>
    have hone : 1 ≤ w.left := by
      rw [UInt64.le_iff_toNat_le]
      have hne : w.left.toNat ≠ 0 := fun h0 => hleft (UInt64.toNat_inj.1 h0)
      exact Nat.one_le_iff_ne_zero.2 hne
    have hsub := UInt64.toNat_sub_of_le w.left 1 hone
    have hpos : 1 ≤ w.left.toNat := UInt64.le_iff_toNat_le.1 hone
    have hleft' : w'.left = w.left - 1 := by
      simp only [Option.some.injEq, Prod.mk.injEq] at h
      rw [← h.2]
      split
      · rfl
      · rfl
    rw [hleft', hsub]
    exact (Nat.sub_add_cancel hpos).symm

/-- A walk passes as many cells as are asked for and still to come. -/
theorem Walk.size_advance (passed : Array Address) (w : Walk) (n : Nat) :
    (w.advance passed n).1.size = passed.size + min n w.left.toNat := by
  induction n generalizing passed w with
  | zero => simp [advance]
  | succ n ih =>
    rw [advance]
    split
    · next hnext =>
      have hleft : w.left = 0 := by
        by_cases h : w.left = 0
        · exact h
        · simp [next?, h] at hnext
      simp [hleft]
    · next a w' hnext =>
      have hleft := left_next? hnext
      rw [ih, Array.size_push]
      omega

theorem length_cells (r : Range) : r.cells.length = r.count.toNat := by
  have hsize := Walk.size_advance #[] r.walk r.count.toNat
  rw [cells, Walk.take]
  dsimp only
  rw [Array.length_toList, hsize, walk]
  simp

end Range

end Worksheet
