import Worksheet.Grid.Range
import Worksheet.Proofs.Text.Runs

/-!
# A1 notation is read back

The letters of a column name the column (`Column.read_letters`), so what an address or a range on
the sheet is written as is read as that address (`Address.readTrimmed_chars`) or range.
-/

namespace Worksheet

/-! ### Columns -/

namespace Column

theorem isAlpha_letter {n : Nat} (hn : n < 26) : (letter n).isAlpha = true := by
  have h : ∀ n < 26, (letter n).isAlpha = true := by decide
  exact h n hn

theorem rank_letter {n : Nat} (hn : n < 26) : rank (letter n) = n + 1 := by
  have h : ∀ n < 26, rank (letter n) = n + 1 := by decide
  exact h n hn

theorem isAlpha_of_mem_letters {n : Nat} {c : Char} (h : c ∈ letters n) : c.isAlpha = true := by
  fun_induction letters n with
  | case1 n hn =>
    rw [List.mem_singleton.1 h]
    exact isAlpha_letter hn
  | case2 n hn ih =>
    rcases List.mem_append.1 h with h | h
    · exact ih h
    · rw [List.mem_singleton.1 h]
      exact isAlpha_letter (Nat.mod_lt n (by decide))

theorem letters_ne_nil (n : Nat) : letters n ≠ [] := by
  rw [letters]
  split
  · exact List.cons_ne_nil _ _
  · exact List.append_ne_nil_of_right_ne_nil _ (List.cons_ne_nil _ _)

theorem readFrom_append (whole : List Char) (value : Nat) (s t : List Char) :
    readFrom whole value (s ++ t) = readFrom whole value s >>= fun v => readFrom whole v t := by
  induction s generalizing value with
  | nil => rfl
  | cons c s ih =>
    rw [List.cons_append, readFrom, readFrom, ih]
    split
    · rfl
    · split
      · rfl
      · rfl

theorem readFrom_letter (whole : List Char) {value n : Nat} (hn : n < 26)
    (hcol : value * 26 + n < colLimit) :
    readFrom whole value [letter n] = .ok (value * 26 + n + 1) := by
  rw [readFrom, isAlpha_letter hn, rank_letter hn, if_neg (by decide), ← Nat.add_assoc,
    if_neg (Nat.not_lt.2 hcol), readFrom]

theorem readFrom_letters (whole : List Char) {n : Nat} (hn : n < colLimit) :
    readFrom whole 0 (letters n) = .ok (n + 1) := by
  fun_induction letters n with
  | case1 n hlt =>
    rw [readFrom_letter whole hlt (by omega)]
    simp
  | case2 n hge ih =>
    have hhead : n / 26 - 1 + 1 = n / 26 := by omega
    have hn' : n / 26 * 26 + n % 26 = n := Nat.div_add_mod' n 26
    rw [readFrom_append, ih (by omega), hhead]
    show readFrom whole (n / 26) [letter (n % 26)] = .ok (n + 1)
    rw [readFrom_letter whole (Nat.mod_lt n (by decide)) (by omega), hn']

/-- **The letters of a column name it.** -/
theorem read_letters {col : UInt16} (hcol : col.toNat < colLimit) :
    read (letters col.toNat) = .ok col := by
  rw [read, if_neg (by simpa using letters_ne_nil col.toNat), readFrom_letters _ hcol]
  show Except.ok (col.toNat + 1 - 1).toUInt16 = Except.ok col
  rw [Nat.add_sub_cancel, Nat.toUInt16_eq, UInt16.ofNat_toNat]

end Column

/-! ### Addresses -/

namespace Address

/-- The digits of the row, counted from one. -/
def digits (a : Address) : List Char :=
  Text.decimalDigits (a.row.toNat + 1)

theorem isDigit_of_mem_digits {a : Address} {c : Char} (h : c ∈ a.digits) : c.isDigit = true :=
  Text.isDigit_of_mem_decimalDigits h

theorem digits_ne_nil (a : Address) : a.digits ≠ [] := Nat.toDigits_ne_nil

theorem chars_ne_nil (a : Address) : a.chars ≠ [] :=
  List.append_ne_nil_of_right_ne_nil _ a.digits_ne_nil

theorem dropMark_eq_self {s : List Char} (h : s.head? ≠ some '$') : dropMark s = s := by
  unfold dropMark
  split
  · exact absurd rfl h
  · rfl

theorem not_isAlpha_of_isDigit {c : Char} (h : c.isDigit = true) : c.isAlpha = false := by
  have hc := Text.toNat_lt_of_isAlphanum (c := c) (by simp [Char.isAlphanum, h])
  exact Text.forall_ascii (P := fun c => c.isDigit = true → c.isAlpha = false) (by decide) hc h

theorem head?_digits (a : Address) : ∃ c, a.digits.head? = some c ∧ c.isDigit = true := by
  obtain ⟨c, rest, h⟩ := List.exists_cons_of_ne_nil a.digits_ne_nil
  exact ⟨c, by rw [h]; rfl, isDigit_of_mem_digits (a := a) (by simp [h])⟩

theorem stops_digits (a : Address) : Text.Stops Char.isAlpha a.digits := by
  obtain ⟨c, hc, hdigit⟩ := a.head?_digits
  intro d hd
  rw [hc] at hd
  cases hd
  exact not_isAlpha_of_isDigit hdigit

/-- Neither part of a written address has a mark. -/
theorem dropMark_chars (a : Address) : dropMark a.chars = a.chars := by
  refine dropMark_eq_self fun h => ?_
  obtain ⟨c, rest, hc⟩ := List.exists_cons_of_ne_nil (Column.letters_ne_nil a.col.toNat)
  rw [chars, hc] at h
  cases h
  exact absurd (Column.isAlpha_of_mem_letters (n := a.col.toNat) (c := '$') (by simp [hc]))
    (by decide)

theorem dropMark_digits (a : Address) : dropMark a.digits = a.digits := by
  refine dropMark_eq_self fun h => ?_
  obtain ⟨c, hc, hdigit⟩ := a.head?_digits
  rw [hc] at h
  cases h
  exact absurd hdigit (by decide)

theorem takeWhile_chars (a : Address) :
    a.chars.takeWhile Char.isAlpha = Column.letters a.col.toNat :=
  Text.takeWhile_run (fun _ h => Column.isAlpha_of_mem_letters h) a.stops_digits

theorem dropWhile_chars (a : Address) : a.chars.dropWhile Char.isAlpha = a.digits :=
  Text.dropWhile_run (fun _ h => Column.isAlpha_of_mem_letters h) a.stops_digits

theorem readRow_digits (whole : String) {a : Address} (ha : a.OnSheet) :
    readRow whole a.digits = .ok a.row := by
  have hrow := ha.1
  have hvalue : Text.decimalValue a.digits = a.row.toNat + 1 := Text.decimalValue_decimalDigits _
  have hsize : ¬ UInt64.size ≤ a.row.toNat + 1 := by
    have := a.row.toNat_lt
    simp only [UInt64.size]
    omega
  have hall : a.digits.all Char.isDigit = true :=
    List.all_eq_true.2 fun c hc => isDigit_of_mem_digits hc
  unfold readRow
  rw [if_neg (by simpa using a.digits_ne_nil), hall, if_neg (by decide)]
  dsimp only
  rw [hvalue, if_neg hsize, if_neg (Nat.succ_ne_zero _), if_neg (Nat.not_lt.2 hrow),
    Nat.add_sub_cancel, Nat.toUInt32_eq, UInt32.ofNat_toNat]

/-- **An address on the sheet is read back.** -/
theorem readTrimmed_chars {a : Address} (ha : a.OnSheet) : readTrimmed a.chars = .ok a := by
  have hletters := Column.letters_ne_nil a.col.toNat
  unfold readTrimmed
  rw [if_neg (by simpa using a.chars_ne_nil)]
  dsimp only
  rw [dropMark_chars, takeWhile_chars, if_neg (by simpa using hletters), dropWhile_chars,
    dropMark_digits, Column.read_letters ha.2, readRow_digits _ ha]
  rfl

theorem hasForm_chars (a : Address) : hasForm a.chars = true := by
  have hall : a.digits.all Char.isDigit = true :=
    List.all_eq_true.2 fun c hc => isDigit_of_mem_digits hc
  unfold hasForm
  dsimp only
  rw [dropMark_chars, takeWhile_chars, dropWhile_chars, dropMark_digits, hall]
  simp [Column.letters_ne_nil, digits_ne_nil]

end Address

/-! ### Ranges -/

/-- A range is spanned by its own corners. -/
theorem Range.spanning_corners (r : Range) : spanning r.first r.last = r := by
  obtain ⟨first, last, hrow, hcol⟩ := r
  simp [spanning, hrow, hcol]

end Worksheet
