import Worksheet.Proofs.Grid.Range
import Worksheet.Proofs.Text.Runs

/-!
# How addresses are spelled

`Address.WrittenAs` says which characters name an address of the sheet: letters that count the
column in bijective base 26 and digits that count the row, both from one, and a `$` in front of
either part or not.  What is read as an address is spelled like this
(`Address.writtenAs_of_readTrimmed`).
-/

namespace Worksheet

/-! ### Columns -/

namespace Column

/-- The number that letters of either case count in bijective base 26. -/
def value (letters : List Char) : Nat :=
  letters.foldl (fun n c => n * 26 + rank c) 0

theorem foldl_of_readFrom {whole letters : List Char} {n v : Nat}
    (h : readFrom whole n letters = .ok v) :
    v = letters.foldl (fun n c => n * 26 + rank c) n ∧ ∀ c ∈ letters, c.isAlpha = true := by
  induction letters generalizing n with
  | nil =>
    rw [readFrom] at h
    cases h
    exact ⟨rfl, List.forall_mem_nil _⟩
  | cons c rest ih =>
    rw [readFrom] at h
    split at h
    · cases h
    next hc =>
    split at h
    · cases h
    · obtain ⟨hvalue, hrest⟩ := ih h
      exact ⟨hvalue, List.forall_mem_cons.2 ⟨by simpa using hc, hrest⟩⟩

/-- Letters count at least to one. -/
theorem value_pos {letters : List Char} (h : letters ≠ []) : 0 < value letters := by
  obtain ⟨front, c, rfl⟩ := List.eq_nil_or_concat letters |>.resolve_left h
  rw [value, List.concat_eq_append, List.foldl_concat, rank]
  omega

/-- The letters of a column that is read count it from one. -/
theorem value_of_read {letters : List Char} {col : UInt16} (h : read letters = .ok col) :
    letters ≠ [] ∧ (∀ c ∈ letters, c.isAlpha = true) ∧ value letters = col.toNat + 1 := by
  unfold read at h
  split at h
  · cases h
  next hempty =>
  have hne : letters ≠ [] := by simpa using hempty
  obtain ⟨v, hv, rfl⟩ := map_eq_ok.1 h
  have hle := readFrom_le (Nat.zero_le colLimit) hv
  obtain ⟨rfl, halpha⟩ := foldl_of_readFrom hv
  have hpos := value_pos hne
  refine ⟨hne, halpha, ?_⟩
  rw [value] at hpos ⊢
  rw [Nat.toUInt16_eq, UInt16.toNat_ofNat_of_lt' (by simp only [colLimit, UInt16.size] at *; omega)]
  omega

end Column

/-! ### Addresses -/

namespace Address

/-- The digits of a row that is read count it from one. -/
theorem decimalValue_of_readRow {whole : String} {digits : List Char} {row : UInt32}
    (h : readRow whole digits = .ok row) :
    digits ≠ [] ∧ (∀ c ∈ digits, c.isDigit = true) ∧
      Text.decimalValue digits = row.toNat + 1 := by
  unfold readRow at h
  dsimp only at h
  split at h
  · cases h
  next hempty =>
  split at h
  · cases h
  next hdigits =>
  split at h
  · cases h
  split at h
  · cases h
  next hzero =>
  split at h
  · cases h
  next hlimit =>
  cases h
  refine ⟨by simpa using hempty, by simpa using hdigits, ?_⟩
  simp only [rowLimit] at hlimit
  rw [Nat.toUInt32_eq, UInt32.toNat_ofNat_of_lt' (by simp only [UInt32.size]; omega)]
  omega

/-- One `$`, or none. -/
def IsMark (s : List Char) : Prop :=
  s = [] ∨ s = ['$']

/-- The characters name the address. -/
inductive WrittenAs : Address → List Char → Prop where
  | intro {a : Address} {mark letters mark' digits : List Char} (hmark : IsMark mark)
      (hmark' : IsMark mark') (hne : letters ≠ []) (hletters : ∀ c ∈ letters, c.isAlpha = true)
      (hcol : Column.value letters = a.col.toNat + 1) (hne' : digits ≠ [])
      (hdigits : ∀ c ∈ digits, c.isDigit = true)
      (hrow : Text.decimalValue digits = a.row.toNat + 1) (ha : a.OnSheet) :
      WrittenAs a (mark ++ letters ++ (mark' ++ digits))

theorem WrittenAs.onSheet {a : Address} {s : List Char} (h : a.WrittenAs s) : a.OnSheet := by
  cases h with
  | intro _ _ _ _ _ _ _ _ ha => exact ha

theorem exists_isMark (s : List Char) : ∃ mark, IsMark mark ∧ s = mark ++ dropMark s := by
  unfold dropMark
  split
  · exact ⟨['$'], Or.inr rfl, rfl⟩
  · exact ⟨[], Or.inl rfl, rfl⟩

/-- **What is read as an address names it.** -/
theorem writtenAs_of_readTrimmed {s : List Char} {a : Address} (h : readTrimmed s = .ok a) :
    a.WrittenAs s := by
  have ha := onSheet_of_readTrimmed h
  unfold readTrimmed at h
  dsimp only at h
  split at h
  · cases h
  split at h
  · cases h
  · obtain ⟨col, hcol, h⟩ := bind_eq_ok.1 h
    obtain ⟨row, hrow, h⟩ := bind_eq_ok.1 h
    cases h
    obtain ⟨mark, hmark, hs⟩ := exists_isMark s
    obtain ⟨mark', hmark', hrest⟩ := exists_isMark ((dropMark s).dropWhile Char.isAlpha)
    obtain ⟨hne, hletters, hcolumn⟩ := Column.value_of_read hcol
    obtain ⟨hne', hdigits, hnumber⟩ := decimalValue_of_readRow hrow
    have hsplit : s = mark ++ (dropMark s).takeWhile Char.isAlpha ++
        (mark' ++ dropMark ((dropMark s).dropWhile Char.isAlpha)) := by
      rw [← hrest, List.append_assoc, List.takeWhile_append_dropWhile, ← hs]
    rw [hsplit]
    exact .intro hmark hmark' hne hletters hcolumn hne' hdigits hnumber ha

end Address

end Worksheet
