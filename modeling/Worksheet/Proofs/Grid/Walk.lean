import Worksheet.Proofs.Grid.Notation

/-!
# Walks through ranges

The cells of a range are counted row by row from zero, and `nth` is the cell with a number.  A walk
that has passed `k` cells stands on the cell with the number `k` (`Walk.At`): this is what one step
keeps (`Walk.At.next?`), so a walk passes the cells in the order of their numbers, each once
(`cells_eq_map_nth`), as long as the rows and the columns can be counted in their words (`Fits`).
If there is a row below the range, then no step overflows (`Walk.At.counts`).
-/

namespace Worksheet

/-- Row by row, and within a row from left to right: this is the order of the places. -/
theorem Address.before_iff_index_lt {a b : Address} :
    a.row < b.row ∨ a.row = b.row ∧ a.col < b.col ↔ a.index < b.index := by
  have ha := a.col.toNat_lt
  have hb := b.col.toNat_lt
  rw [UInt32.lt_iff_toNat_lt, ← UInt32.toNat_inj, UInt16.lt_iff_toNat_lt, index, index]
  omega

namespace Range

/-! ### Corners -/

section Corners

variable (a b : Address)

theorem toNat_first_row_spanning :
    (spanning a b).first.row.toNat = min a.row.toNat b.row.toNat := by
  simp only [spanning, UInt32.le_iff_toNat_le]
  split
  · exact (Nat.min_eq_left ‹_›).symm
  · exact (Nat.min_eq_right (Nat.le_of_not_le ‹_›)).symm

theorem toNat_first_col_spanning :
    (spanning a b).first.col.toNat = min a.col.toNat b.col.toNat := by
  simp only [spanning, UInt16.le_iff_toNat_le]
  split
  · exact (Nat.min_eq_left ‹_›).symm
  · exact (Nat.min_eq_right (Nat.le_of_not_le ‹_›)).symm

theorem toNat_last_row_spanning :
    (spanning a b).last.row.toNat = max a.row.toNat b.row.toNat := by
  simp only [spanning, UInt32.le_iff_toNat_le]
  split
  · exact (Nat.max_eq_right ‹_›).symm
  · exact (Nat.max_eq_left (Nat.le_of_not_le ‹_›)).symm

theorem toNat_last_col_spanning :
    (spanning a b).last.col.toNat = max a.col.toNat b.col.toNat := by
  simp only [spanning, UInt16.le_iff_toNat_le]
  split
  · exact (Nat.max_eq_right ‹_›).symm
  · exact (Nat.max_eq_left (Nat.le_of_not_le ‹_›)).symm

theorem eq_of_corners {r r' : Range} (hfirst : r.first = r'.first) (hlast : r.last = r'.last) :
    r = r' := by
  obtain ⟨first, last, hrow, hcol⟩ := r
  subst hfirst hlast
  rfl

/-- Two corners span the same range in either order. -/
theorem spanning_comm : spanning a b = spanning b a := by
  refine eq_of_corners (Address.index_inj ?_) (Address.index_inj ?_)
  · rw [Address.index, Address.index, toNat_first_row_spanning, toNat_first_row_spanning,
      toNat_first_col_spanning, toNat_first_col_spanning, Nat.min_comm, Nat.min_comm a.col.toNat]
  · rw [Address.index, Address.index, toNat_last_row_spanning, toNat_last_row_spanning,
      toNat_last_col_spanning, toNat_last_col_spanning, Nat.max_comm, Nat.max_comm a.col.toNat]

end Corners

/-! ### Cells by number -/

/-- The number of rows, counted without bound. -/
def height (r : Range) : Nat :=
  r.last.row.toNat - r.first.row.toNat + 1

/-- The number of columns, counted without bound. -/
def width (r : Range) : Nat :=
  r.last.col.toNat - r.first.col.toNat + 1

/-- The cell with this number, counted row by row from zero. -/
def nth (r : Range) (k : Nat) : Address :=
  ⟨(r.first.row.toNat + k / r.width).toUInt32, (r.first.col.toNat + k % r.width).toUInt16⟩

section Number

variable {r : Range}

theorem width_pos : 0 < r.width := Nat.succ_pos _

theorem first_add_height : r.first.row.toNat + r.height = r.last.row.toNat + 1 := by
  have hle : r.first.row.toNat ≤ r.last.row.toNat := UInt32.le_iff_toNat_le.1 r.row_le
  rw [height]
  omega

theorem first_add_width : r.first.col.toNat + r.width = r.last.col.toNat + 1 := by
  have hle : r.first.col.toNat ≤ r.last.col.toNat := UInt16.le_iff_toNat_le.1 r.col_le
  rw [width]
  omega

theorem toNat_row_nth {k : Nat} (hk : k < r.height * r.width) :
    (r.nth k).row.toNat = r.first.row.toNat + k / r.width := by
  have hdiv : k / r.width < r.height := Nat.div_lt_of_lt_mul (by rwa [Nat.mul_comm])
  have hsum := r.first_add_height
  have hlast := r.last.row.toNat_lt
  exact Nat.mod_eq_of_lt (by omega)

theorem toNat_col_nth (k : Nat) : (r.nth k).col.toNat = r.first.col.toNat + k % r.width := by
  have hmod := Nat.mod_lt k r.width_pos
  have hsum := r.first_add_width
  have hlast := r.last.col.toNat_lt
  exact Nat.mod_eq_of_lt (by omega)

/-- A cell is in the range if and only if it has a number below the count. -/
theorem exists_nth_iff {a : Address} :
    (∃ k < r.height * r.width, r.nth k = a) ↔ r.contains a = true := by
  rw [contains_iff]
  simp only [UInt32.le_iff_toNat_le, UInt16.le_iff_toNat_le]
  have hheight := r.first_add_height
  have hwidth := r.first_add_width
  constructor
  · rintro ⟨k, hk, rfl⟩
    have hdiv : k / r.width < r.height := Nat.div_lt_of_lt_mul (by rwa [Nat.mul_comm])
    have hmod := Nat.mod_lt k r.width_pos
    rw [toNat_row_nth hk, toNat_col_nth]
    generalize k / r.width = i at hdiv ⊢
    omega
  · rintro ⟨⟨hrow, hrow'⟩, hcol, hcol'⟩
    obtain ⟨i, hi⟩ := Nat.exists_eq_add_of_le hrow
    obtain ⟨j, hj⟩ := Nat.exists_eq_add_of_le hcol
    have hjlt : j < r.width := by omega
    have hnumber : r.width * i + j < r.height * r.width := by
      calc r.width * i + j < r.width * i + r.width := Nat.add_lt_add_left hjlt _
        _ = r.width * (i + 1) := (Nat.mul_succ _ _).symm
        _ ≤ r.width * r.height := Nat.mul_le_mul_left _ (by omega)
        _ = r.height * r.width := Nat.mul_comm _ _
    refine ⟨r.width * i + j, hnumber, Address.index_inj ?_⟩
    rw [Address.index, toNat_row_nth hnumber, toNat_col_nth, Nat.mul_add_div r.width_pos,
      Nat.div_eq_of_lt hjlt, Nat.mul_add_mod, Nat.mod_eq_of_lt hjlt, Nat.add_zero, ← hi, ← hj,
      Address.index]

/-- Numbers go up row by row, and within a row from left to right. -/
theorem nth_lt_nth {k l : Nat} (hkl : k < l) (hl : l < r.height * r.width) :
    (r.nth k).row < (r.nth l).row ∨
      (r.nth k).row = (r.nth l).row ∧ (r.nth k).col < (r.nth l).col := by
  rw [UInt32.lt_iff_toNat_lt, ← UInt32.toNat_inj, UInt16.lt_iff_toNat_lt,
    toNat_row_nth (hkl.trans hl), toNat_row_nth hl, toNat_col_nth, toNat_col_nth]
  rcases Nat.lt_or_eq_of_le (Nat.div_le_div_right (c := r.width) hkl.le) with hdiv | hdiv
  · exact Or.inl (Nat.add_lt_add_left hdiv _)
  · have hk := Nat.div_add_mod k r.width
    have hl := Nat.div_add_mod l r.width
    rw [hdiv] at hk
    exact Or.inr ⟨by rw [hdiv], by omega⟩

/-- Behind the last cell of a row comes the first cell of the next one. -/
theorem nth_succ_of_last {k : Nat} (hcol : (r.nth k).col = r.last.col) :
    (r.nth (k + 1)).col = r.first.col ∧ (k + 1 < r.height * r.width →
      (r.nth (k + 1)).row.toNat = (r.nth k).row.toNat + 1) := by
  have hsum := r.first_add_width
  have hdivmod := Nat.div_add_mod k r.width
  rw [← UInt16.toNat_inj, toNat_col_nth] at hcol
  have hnext : (k + 1) / r.width = k / r.width + 1 ∧ (k + 1) % r.width = 0 :=
    (Nat.div_mod_unique r.width_pos).2 ⟨by rw [Nat.mul_succ]; omega, r.width_pos⟩
  refine ⟨?_, fun hk => ?_⟩
  · rw [← UInt16.toNat_inj, toNat_col_nth, hnext.2]
    rfl
  · rw [toNat_row_nth hk, toNat_row_nth (Nat.lt_of_succ_lt hk), hnext.1]
    exact (Nat.add_assoc _ _ _).symm

/-- Behind any other cell comes its neighbour in the row. -/
theorem nth_succ_of_ne {k : Nat} (hcol : (r.nth k).col ≠ r.last.col) :
    (r.nth (k + 1)).col.toNat = (r.nth k).col.toNat + 1 ∧ (k + 1 < r.height * r.width →
      (r.nth (k + 1)).row = (r.nth k).row) := by
  have hsum := r.first_add_width
  have hdivmod := Nat.div_add_mod k r.width
  have hmod := Nat.mod_lt k r.width_pos
  rw [ne_eq, ← UInt16.toNat_inj, toNat_col_nth] at hcol
  have hnext : (k + 1) / r.width = k / r.width ∧ (k + 1) % r.width = k % r.width + 1 :=
    (Nat.div_mod_unique r.width_pos).2 ⟨by omega, by omega⟩
  refine ⟨?_, fun hk => ?_⟩
  · rw [toNat_col_nth, toNat_col_nth, hnext.2]
    exact (Nat.add_assoc _ _ _).symm
  · rw [← UInt32.toNat_inj, toNat_row_nth hk, toNat_row_nth (Nat.lt_of_succ_lt hk), hnext.1]

end Number

/-! ### Counting in words -/

/-- The rows and the columns can be counted in words of their size. -/
structure Fits (r : Range) : Prop where
  height : r.height < 2 ^ 32
  width : r.width < 2 ^ 16

section Fits

variable {r : Range} (hr : r.Fits)
include hr

theorem toNat_rows : r.rows.toNat = r.height := by
  rw [rows, UInt32.toNat_add, UInt32.toNat_sub_of_le _ _ r.row_le]
  exact Nat.mod_eq_of_lt hr.height

theorem toNat_cols : r.cols.toNat = r.width := by
  rw [cols, UInt16.toNat_add, UInt16.toNat_sub_of_le _ _ r.col_le]
  exact Nat.mod_eq_of_lt hr.width

theorem toNat_count : r.count.toNat = r.height * r.width := by
  have hlt : r.height * r.width < 2 ^ 32 * 2 ^ 16 := Nat.mul_lt_mul'' hr.height hr.width
  rw [count, UInt64.toNat_mul, UInt32.toNat_toUInt64, UInt16.toNat_toUInt64, toNat_rows hr,
    toNat_cols hr]
  exact Nat.mod_eq_of_lt (Nat.lt_trans hlt (by decide))

end Fits

/-- All rows or all columns are counted as none. -/
theorem toNat_count_of_not_fits {r : Range} (hr : ¬ r.Fits) : r.count.toNat = 0 := by
  have hheight := r.first_add_height
  have hwidth := r.first_add_width
  have hrow := r.last.row.toNat_lt
  have hcol := r.last.col.toNat_lt
  rw [count, UInt64.toNat_mul, UInt32.toNat_toUInt64, UInt16.toNat_toUInt64]
  by_cases hall : r.height = 2 ^ 32
  · have hrows : r.rows.toNat = r.height % 2 ^ 32 := by
      rw [rows, UInt32.toNat_add, UInt32.toNat_sub_of_le _ _ r.row_le]
      rfl
    rw [hrows, hall, Nat.mod_self, Nat.zero_mul, Nat.zero_mod]
  · have hall' : r.width = 2 ^ 16 := by
      by_contra hne
      exact hr ⟨by omega, by omega⟩
    have hcols : r.cols.toNat = r.width % 2 ^ 16 := by
      rw [cols, UInt16.toNat_add, UInt16.toNat_sub_of_le _ _ r.col_le]
      rfl
    rw [hcols, hall', Nat.mod_self, Nat.mul_zero, Nat.zero_mod]

/-! ### One step -/

namespace Walk

variable {r : Range}

/-- The walk has passed `k` cells of the range.  If there are more, it stands on the one with the
number `k`; behind the last row it may not stand anywhere. -/
structure At (r : Range) (k : Nat) (w : Walk) : Prop where
  range : w.range = r
  row : k < r.height * r.width → w.row = (r.nth k).row
  col : w.col = (r.nth k).col
  left : w.left.toNat + k = r.height * r.width

theorem at_walk (hr : r.Fits) : At r 0 r.walk where
  range := rfl
  row h := by
    rw [← UInt32.toNat_inj, toNat_row_nth h, Nat.zero_div, Nat.add_zero]
    rfl
  col := by
    rw [← UInt16.toNat_inj, toNat_col_nth, Nat.zero_mod, Nat.add_zero]
    rfl
  left := toNat_count hr

section Step

variable {k : Nat} {w : Walk} (h : At r k w)
include h

theorem At.next?_of_end (hk : k = r.height * r.width) : w.next? = none := by
  have hleft := h.left
  have hzero : w.left = 0 := UInt64.toNat_inj.1 (by rw [UInt64.toNat_zero]; omega)
  rw [next?, if_pos hzero]

/-- **One step** of a walk passes the cell under it and goes on to the next number. -/
theorem At.next? (hk : k < r.height * r.width) :
    ∃ w', w.next? = some (r.nth k, w') ∧ At r (k + 1) w' := by
  obtain ⟨hrange, hrow, hcol, hleft⟩ := h
  have hone : 1 ≤ w.left := by
    rw [UInt64.le_iff_toNat_le, UInt64.toNat_one]
    omega
  have hne : w.left ≠ 0 := by
    intro hzero
    rw [hzero] at hone
    exact absurd hone (by decide)
  have hleft' : (w.left - 1).toNat + (k + 1) = r.height * r.width := by
    rw [UInt64.toNat_sub_of_le _ _ hone, UInt64.toNat_one]
    rw [UInt64.le_iff_toNat_le, UInt64.toNat_one] at hone
    omega
  have hcell : (⟨w.row, w.col⟩ : Address) = r.nth k := by rw [hrow hk, hcol]
  rw [Walk.next?, if_neg hne, hcell]
  refine ⟨_, rfl, ?_⟩
  by_cases hend : w.col = w.range.last.col
  · rw [if_pos hend]
    have hlast : (r.nth k).col = r.last.col := by rw [← hcol, hend, hrange]
    obtain ⟨hcol', hrow'⟩ := nth_succ_of_last hlast
    refine ⟨hrange, fun hk' => ?_, ?_, hleft'⟩
    · rw [← UInt32.toNat_inj, UInt32.toNat_add, UInt32.toNat_one, hrow hk, ← hrow' hk']
      exact Nat.mod_eq_of_lt (UInt32.toNat_lt _)
    · rw [hcol', ← hrange]
  · rw [if_neg hend]
    have hlast : (r.nth k).col ≠ r.last.col := by rwa [← hcol, ← hrange]
    obtain ⟨hcol', hrow'⟩ := nth_succ_of_ne hlast
    refine ⟨hrange, fun hk' => (hrow hk).trans (hrow' hk').symm, ?_, hleft'⟩
    rw [← UInt16.toNat_inj, UInt16.toNat_add, UInt16.toNat_one, hcol, ← hcol']
    exact Nat.mod_eq_of_lt (UInt16.toNat_lt _)

/-! ### Whole walks -/

/-- **Some steps** of a walk pass the cells with the next numbers, as far as there are any. -/
theorem At.advance (n : Nat) (passed : Array Address) :
    ∃ w', w.advance passed n =
        (passed ++ ((List.range' k (min n (r.height * r.width - k))).map r.nth).toArray, w') ∧
      At r (k + min n (r.height * r.width - k)) w' := by
  induction n generalizing k w passed with
  | zero => exact ⟨w, by simp [Walk.advance], by simpa using h⟩
  | succ n ih =>
    have hle := h.left
    rcases Nat.lt_or_eq_of_le (show k ≤ r.height * r.width by omega) with hk | hk
    · obtain ⟨w', hnext, hat⟩ := h.next? hk
      obtain ⟨w'', hadvance, hat'⟩ := ih hat (passed.push (r.nth k))
      have hmin : min (n + 1) (r.height * r.width - k) =
          min n (r.height * r.width - (k + 1)) + 1 := by omega
      refine ⟨w'', ?_, ?_⟩
      · rw [Walk.advance, hnext, hmin, List.range'_succ]
        dsimp only
        rw [hadvance]
        simp
      · rwa [hmin, Nat.add_comm _ 1, ← Nat.add_assoc]
    · refine ⟨w, ?_, by rwa [show r.height * r.width - k = 0 by omega, Nat.min_zero]⟩
      rw [Walk.advance, h.next?_of_end hk, show r.height * r.width - k = 0 by omega]
      simp

end Step

end Walk

section Fits

variable {r : Range} (hr : r.Fits)
include hr

theorem take_walk (k : Nat) :
    ∃ w, r.walk.take k = ((List.range (min k (r.height * r.width))).map r.nth, w) ∧
      Walk.At r (min k (r.height * r.width)) w := by
  obtain ⟨w, hadvance, hat⟩ := (Walk.at_walk hr).advance k #[]
  rw [Nat.sub_zero, Nat.zero_add] at hat
  refine ⟨w, ?_, hat⟩
  rw [Walk.take, hadvance, Nat.sub_zero, List.range_eq_range']
  simp

/-- **The cells of a range are those with the numbers below the count, in this order.** -/
theorem cells_eq_map_nth : r.cells = (List.range (r.height * r.width)).map r.nth := by
  obtain ⟨w, htake, -⟩ := take_walk hr (r.height * r.width)
  rw [cells, toNat_count hr, htake, Nat.min_self]

theorem mem_cells_iff {a : Address} : a ∈ r.cells ↔ r.contains a = true := by
  rw [cells_eq_map_nth hr, ← exists_nth_iff, List.mem_map]
  simp only [List.mem_range]

/-- After some steps the first cells have been passed and the others are still to come. -/
theorem take_walk_eq (k : Nat) : (r.walk.take k).1 = r.cells.take k ∧
    (r.walk.take k).2.left.toNat = r.count.toNat - k := by
  obtain ⟨w, htake, hat⟩ := take_walk hr k
  have hleft := hat.left
  rw [htake, cells_eq_map_nth hr, ← List.map_take, List.take_range, toNat_count hr]
  refine ⟨rfl, ?_⟩
  dsimp only
  omega

end Fits

/-! ### The order of the cells -/

/-- **Cells come in strictly increasing order, row by row**, whatever the range. -/
theorem pairwise_cells (r : Range) :
    r.cells.Pairwise fun a b => a.row < b.row ∨ a.row = b.row ∧ a.col < b.col := by
  by_cases hr : r.Fits
  · rw [cells_eq_map_nth hr, List.pairwise_map]
    refine List.pairwise_lt_range.imp_of_mem fun _ hl hkl => ?_
    exact nth_lt_nth hkl (List.mem_range.1 hl)
  · have hnil : r.cells = [] := by
      rw [← List.length_eq_zero_iff, length_cells, toNat_count_of_not_fits hr]
    rw [hnil]
    exact List.Pairwise.nil

theorem nodup_cells (r : Range) : r.cells.Nodup := by
  refine r.pairwise_cells.imp fun h => ?_
  rintro rfl
  exact Nat.lt_irrefl _ (Address.before_iff_index_lt.1 h)

/-! ### Steps without overflow -/

/-- From `w` to `w'` words count as numbers do, none of them overflows. -/
structure Walk.Counts (w w' : Walk) : Prop where
  left : w'.left.toNat + 1 = w.left.toNat
  row : w'.row.toNat = if w.col = w.range.last.col then w.row.toNat + 1 else w.row.toNat
  col : w'.col.toNat =
    if w.col = w.range.last.col then w.range.first.col.toNat else w.col.toNat + 1

/-- No step of a walk overflows if there is a row below the range. -/
theorem Walk.At.counts {r : Range} {k : Nat} {w w' : Walk} (h : At r k w)
    (hbelow : r.last.row.toNat + 1 < 2 ^ 32) {a : Address} (hnext : w.next? = some (a, w')) :
    Counts w w' := by
  have hleft := left_next? hnext
  have hk : k < r.height * r.width := by
    have htotal := h.left
    omega
  -- the walk stands on a cell of the range, so rows and columns go up to the last one
  have hcell := contains_iff.1 (exists_nth_iff.1 ⟨k, hk, rfl⟩)
  rw [← h.row hk, ← h.col, ← h.range] at hcell
  obtain ⟨⟨-, hrow⟩, -, hcol⟩ := hcell
  rw [← h.range] at hbelow
  unfold Walk.next? at hnext
  split at hnext
  · cases hnext
  cases hnext
  by_cases hend : w.col = w.range.last.col
  · rw [if_pos hend] at hleft ⊢
    refine ⟨hleft.symm, ?_, by rw [if_pos hend]⟩
    have hrow' := UInt32.le_iff_toNat_le.1 hrow
    rw [if_pos hend, UInt32.toNat_add]
    exact Nat.mod_eq_of_lt (by rw [UInt32.toNat_one]; omega)
  · rw [if_neg hend] at hleft ⊢
    refine ⟨hleft.symm, by rw [if_neg hend], ?_⟩
    have hcol' := UInt16.lt_iff_toNat_lt.1 (UInt16.lt_of_le_of_ne hcol hend)
    have hlast := w.range.last.col.toNat_lt
    rw [if_neg hend, UInt16.toNat_add]
    exact Nat.mod_eq_of_lt (by rw [UInt16.toNat_one]; omega)

/-! ### Ranges between two corners -/

/-- `r` is the range between two cells, and going through it counts without overflow and comes to
each of its cells once, row by row. -/
structure Between (p q : Address) (r : Range) : Prop where
  swap : spanning q p = r
  /-- The range is the smallest rectangle with both cells in it. -/
  contains_iff : ∀ a, r.contains a = true ↔
    (min p.row.toNat q.row.toNat ≤ a.row.toNat ∧ a.row.toNat ≤ max p.row.toNat q.row.toNat) ∧
      min p.col.toNat q.col.toNat ≤ a.col.toNat ∧ a.col.toNat ≤ max p.col.toNat q.col.toNat
  mem_cells : ∀ a, a ∈ r.cells ↔ r.contains a = true
  nodup : r.cells.Nodup
  /-- Cells come row by row, and within a row from left to right. -/
  sorted : r.cells.Pairwise fun a b => a.row < b.row ∨ a.row = b.row ∧ a.col < b.col
  count : r.count.toNat = r.cells.length
  /-- Rows, columns and cells are counted without overflow. -/
  rows : r.rows.toNat + min p.row.toNat q.row.toNat = max p.row.toNat q.row.toNat + 1
  cols : r.cols.toNat + min p.col.toNat q.col.toNat = max p.col.toNat q.col.toNat + 1
  product : r.count.toNat = r.rows.toNat * r.cols.toNat
  /-- After some steps the first cells have been passed and the others are still to come. -/
  take : ∀ k, (r.walk.take k).1 = r.cells.take k ∧
    (r.walk.take k).2.left.toNat = r.count.toNat - k
  /-- No step overflows. -/
  counts : ∀ k a w, (r.walk.take k).2.next? = some (a, w) → Walk.Counts (r.walk.take k).2 w
  /-- On the sheet the range is read back from its text. -/
  ofText_text : p.OnSheet → q.OnSheet → ofText r.text = .ok r

/-- **Going through a range is exact**, between any two corners that leave a row below them and do
not take all columns. -/
theorem between_spanning {p q : Address} (hp : p.row.toNat < 4294967295)
    (hq : q.row.toNat < 4294967295)
    (hcols : max p.col.toNat q.col.toNat - min p.col.toNat q.col.toNat + 1 < 65536) :
    Between p q (spanning p q) := by
  have hfirstrow := toNat_first_row_spanning p q
  have hlastrow := toNat_last_row_spanning p q
  have hfirstcol := toNat_first_col_spanning p q
  have hlastcol := toNat_last_col_spanning p q
  have hbelow : (spanning p q).last.row.toNat + 1 < 2 ^ 32 := by omega
  have hr : (spanning p q).Fits := by
    constructor
    · rw [height]
      omega
    · rwa [width, hlastcol, hfirstcol]
  exact {
    swap := spanning_comm q p
    contains_iff := fun a => by
      rw [Range.contains_iff, UInt32.le_iff_toNat_le, UInt32.le_iff_toNat_le,
        UInt16.le_iff_toNat_le, UInt16.le_iff_toNat_le, hfirstrow, hlastrow, hfirstcol, hlastcol]
    mem_cells := fun a => mem_cells_iff hr
    nodup := nodup_cells _
    sorted := pairwise_cells _
    count := (length_cells _).symm
    rows := by
      rw [toNat_rows hr, Nat.add_comm, ← hfirstrow, ← hlastrow, first_add_height]
    cols := by
      rw [toNat_cols hr, Nat.add_comm, ← hfirstcol, ← hlastcol, first_add_width]
    product := by rw [toNat_count hr, toNat_rows hr, toNat_cols hr]
    take := take_walk_eq hr
    counts := fun k a w hnext => by
      obtain ⟨w', htake, hat⟩ := take_walk hr k
      rw [htake] at hnext ⊢
      exact hat.counts hbelow hnext
    ofText_text := fun hp hq =>
      Range.ofText_text (onSheet_first_spanning hp hq) (onSheet_last_spanning hp hq) }

/-- Between the last cell of a sheet and the one two columns to the left and a row above there are
six cells. -/
theorem between_spanning_of_last :
    (spanning ⟨1048575, 16381⟩ ⟨1048574, 16383⟩).cells.length = 6 ∧
      ofText (text (spanning ⟨1048575, 16381⟩ ⟨1048574, 16383⟩)) =
        .ok (spanning ⟨1048575, 16381⟩ ⟨1048574, 16383⟩) := by
  have h := between_spanning (p := ⟨1048575, 16381⟩) (q := ⟨1048574, 16383⟩) (by decide) (by decide)
    (by decide)
  exact ⟨h.count.symm.trans (by decide), h.ofText_text (by decide) (by decide)⟩

end Range

end Worksheet
