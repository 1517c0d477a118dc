import Worksheet.Proofs.Formula.Printing
import Worksheet.Proofs.Formula.Size
import Worksheet.Proofs.Grid.AddressMap
import Worksheet.Proofs.Grid.Walk
import Worksheet.Sheet.Write

/-!
# Counting without overflow

The cells that a formula reads are counted in machine words.  `count?` takes the same steps but
gives up at the first one that overflows: it has an answer if and only if the rows and the columns
of every range fit their words and the cells of all references together fit theirs
(`Expr.computes_count?`).  In a formula shorter than a gigabyte they do.  There the count is exact
and never less than the number of cells covered, so a formula that covers too many is never accepted
(`Expr.counted_of_ofText`).
-/

namespace Worksheet

/-! ### Words -/

namespace Word

variable {w : Nat}

/-- The sum of two words, unless it overflows. -/
def add? (x y : BitVec w) : Option (BitVec w) :=
  if x.uaddOverflow y then none else some (x + y)

/-- The difference of two words, unless it is negative. -/
def sub? (x y : BitVec w) : Option (BitVec w) :=
  if x.usubOverflow y then none else some (x - y)

/-- The product of two words, unless it overflows. -/
def mul? (x y : BitVec w) : Option (BitVec w) :=
  if x.umulOverflow y then none else some (x * y)

/-- The computation has an answer if and only if `P` holds and the number `n` fits the word, and
then the answer is `n`. -/
def Computes (x? : Option (BitVec w)) (P : Prop) (n : Nat) : Prop :=
  ∀ x, x? = some x ↔ P ∧ x.toNat = n

theorem exists_toNat_eq {n : Nat} (h : n < 2 ^ w) : ∃ x : BitVec w, x.toNat = n :=
  ⟨BitVec.ofNat w n, Nat.mod_eq_of_lt h⟩

theorem computes_some (x : BitVec w) : Computes (some x) True x.toNat := by
  intro y
  rw [Option.some.injEq, ← BitVec.toNat_inj, true_and, eq_comm]

/-- A word that is given up where it overflows is the number that it would be without bound. -/
theorem ite_eq_some_iff {overflows : Bool} {x z : BitVec w} {n : Nat}
    (hover : overflows = true ↔ 2 ^ w ≤ n) (hx : x.toNat = n % 2 ^ w) :
    (if overflows then none else some x) = some z ↔ z.toNat = n := by
  have hz := z.isLt
  by_cases h : n < 2 ^ w
  · rw [if_neg fun htrue => absurd (hover.1 htrue) (Nat.not_le.2 h), Option.some.injEq, eq_comm,
      ← BitVec.toNat_inj, hx, Nat.mod_eq_of_lt h]
  · rw [if_pos (hover.2 (Nat.le_of_not_lt h))]
    exact ⟨nofun, fun heq => absurd (heq ▸ hz) h⟩

section Operations

variable {x y z : BitVec w}

theorem add?_eq_some_iff : add? x y = some z ↔ z.toNat = x.toNat + y.toNat :=
  ite_eq_some_iff (by simp [BitVec.uaddOverflow]) (BitVec.toNat_add x y)

theorem mul?_eq_some_iff : mul? x y = some z ↔ z.toNat = x.toNat * y.toNat :=
  ite_eq_some_iff (by simp [BitVec.umulOverflow]) (BitVec.toNat_mul x y)

theorem sub?_eq_some_iff : sub? x y = some z ↔ z.toNat + y.toNat = x.toNat := by
  rw [sub?, BitVec.usubOverflow]
  by_cases h : y.toNat ≤ x.toNat
  · rw [if_neg (by simpa using h), Option.some.injEq, eq_comm, ← BitVec.toNat_inj,
      BitVec.toNat_sub_of_le h]
    omega
  · rw [if_pos (by simpa using h)]
    exact ⟨nofun, fun heq => absurd (heq ▸ Nat.le_add_left _ _) h⟩

end Operations

section Computes

variable {x? y? : Option (BitVec w)} {P Q : Prop} {m n : Nat}

theorem Computes.of_iff (hx : Computes x? P n) (h : P ↔ Q) : Computes x? Q n := fun x => by
  rw [hx x, h]

/-- A sum has an answer if and only if both parts have one and they fit together. -/
theorem Computes.add (hx : Computes x? P m) (hy : Computes y? Q n) :
    Computes (do add? (← x?) (← y?)) (P ∧ Q) (m + n) := by
  intro z
  have hz := z.isLt
  simp only [Option.bind_eq_bind, Option.bind_eq_some_iff, hx _, hy _, add?_eq_some_iff]
  constructor
  · rintro ⟨x, ⟨hP, hxm⟩, y, ⟨hQ, hyn⟩, hsum⟩
    exact ⟨⟨hP, hQ⟩, by omega⟩
  · rintro ⟨⟨hP, hQ⟩, hsum⟩
    -- neither part is greater than the sum, so both fit
    obtain ⟨x, hxm⟩ := exists_toNat_eq (w := w) (n := m) (by omega)
    obtain ⟨y, hyn⟩ := exists_toNat_eq (w := w) (n := n) (by omega)
    exact ⟨x, ⟨hP, hxm⟩, y, ⟨hQ, hyn⟩, by omega⟩

end Computes

/-- How many words there are from one to another, both included, unless a step of counting them
overflows. -/
def span? (first last : BitVec w) : Option (BitVec w) := do
  add? (← sub? last first) 1

theorem span?_eq_some_iff (hw : 0 < w) {first last n : BitVec w} :
    span? first last = some n ↔
      first.toNat ≤ last.toNat ∧ n.toNat = last.toNat - first.toNat + 1 := by
  have hlast := last.isLt
  have hone : (1 : BitVec w).toNat = 1 := BitVec.toNat_one hw
  simp only [span?, Option.bind_eq_bind, Option.bind_eq_some_iff, sub?_eq_some_iff,
    add?_eq_some_iff, hone]
  constructor
  · rintro ⟨d, hd, hn⟩
    omega
  · rintro ⟨hle, hn⟩
    obtain ⟨d, hd⟩ := exists_toNat_eq (w := w) (n := last.toNat - first.toNat) (by omega)
    exact ⟨d, by omega, by omega⟩

end Word

/-! ### Ranges -/

namespace Range

/-- The number of rows, unless a step of counting them overflows. -/
def rows? (r : Range) : Option (BitVec 32) :=
  Word.span? r.first.row.toBitVec r.last.row.toBitVec

/-- The number of columns, unless a step of counting them overflows. -/
def cols? (r : Range) : Option (BitVec 16) :=
  Word.span? r.first.col.toBitVec r.last.col.toBitVec

/-- The number of cells, unless a step of counting them overflows. -/
def count? (r : Range) : Option (BitVec 64) := do
  Word.mul? ((← r.rows?).setWidth 64) ((← r.cols?).setWidth 64)

variable {r : Range}

theorem rows?_eq_some_iff {n : BitVec 32} : r.rows? = some n ↔ n.toNat = r.height := by
  rw [rows?, Word.span?_eq_some_iff (by decide)]
  exact and_iff_right (UInt32.le_iff_toNat_le.1 r.row_le)

theorem cols?_eq_some_iff {n : BitVec 16} : r.cols? = some n ↔ n.toNat = r.width := by
  rw [cols?, Word.span?_eq_some_iff (by decide)]
  exact and_iff_right (UInt16.le_iff_toNat_le.1 r.col_le)

/-- **Counting the cells of a range has an answer** if and only if rows and columns fit their words,
and the answer is the number of cells. -/
theorem computes_count? (r : Range) : Word.Computes r.count? r.Fits (r.height * r.width) := by
  intro n
  simp only [count?, Option.bind_eq_bind, Option.bind_eq_some_iff, Word.mul?_eq_some_iff,
    rows?_eq_some_iff, cols?_eq_some_iff]
  constructor
  · rintro ⟨rows, hrows, cols, hcols, hn⟩
    rw [BitVec.toNat_setWidth_of_le (by decide), BitVec.toNat_setWidth_of_le (by decide), hrows,
      hcols] at hn
    exact ⟨⟨hrows ▸ rows.isLt, hcols ▸ cols.isLt⟩, hn⟩
  · rintro ⟨hr, hn⟩
    obtain ⟨rows, hrows⟩ := Word.exists_toNat_eq hr.height
    obtain ⟨cols, hcols⟩ := Word.exists_toNat_eq hr.width
    refine ⟨rows, hrows, cols, hcols, ?_⟩
    rwa [BitVec.toNat_setWidth_of_le (by decide), BitVec.toNat_setWidth_of_le (by decide), hrows,
      hcols]

/-- All columns at once cannot be counted. -/
example : (spanning ⟨0, 0⟩ ⟨0, 65535⟩).count? = none := by decide

theorem fits_of_onSheet (h : r.last.OnSheet) : r.Fits := by
  obtain ⟨hrow, hcol⟩ := h
  rw [rowLimit] at hrow
  rw [colLimit] at hcol
  constructor
  · rw [height]
    omega
  · rw [width]
    omega

end Range

/-! ### Expressions -/

namespace Expr

mutual

/-- The number of cells read, unless a step of counting them overflows. -/
def count? : Expr → Option (BitVec 64)
  | literal _ => some 0
  | cell _ => some 1
  | range r => r.count?
  | binary _ left right => do Word.add? (← left.count?) (← right.count?)
  | call _ args => sumCounts? (some 0) args

/-- The numbers of cells read by some expressions added to a sum one by one, unless a step
overflows. -/
def sumCounts? (sum : Option (BitVec 64)) : List Expr → Option (BitVec 64)
  | [] => sum
  | arg :: rest => sumCounts? (do Word.add? (← sum) (← arg.count?)) rest

end

/-- The rows and the columns of all ranges in the expression fit their words. -/
def RangesFit (e : Expr) : Prop :=
  ∀ r, range r ∈ e.parts → r.Fits

theorem rangesFit_range {r : Range} : (range r).RangesFit ↔ r.Fits := by
  simp [RangesFit, parts]

theorem rangesFit_binary {op : Operator} {left right : Expr} :
    (binary op left right).RangesFit ↔ left.RangesFit ∧ right.RangesFit := by
  simp [RangesFit, mem_parts_binary, or_imp, forall_and]

theorem rangesFit_call {name : String} {args : List Expr} :
    (call name args).RangesFit ↔ ∀ arg ∈ args, arg.RangesFit := by
  simp only [RangesFit, mem_parts_call, reduceCtorEq, false_or]
  exact ⟨fun h arg harg r hr => h r ⟨arg, harg, hr⟩, fun h r ⟨arg, harg, hr⟩ => h arg harg r hr⟩

theorem computes_sumCounts? {args : List Expr}
    (hargs : ∀ arg ∈ args, Word.Computes arg.count? arg.RangesFit arg.cellCount)
    {sum : Option (BitVec 64)} {P : Prop} {n : Nat} (hsum : Word.Computes sum P n) :
    Word.Computes (sumCounts? sum args) (P ∧ ∀ arg ∈ args, arg.RangesFit)
      (n + cellCounts args) := by
  -- what has been added up so far takes the place of the sum
  induction args generalizing sum P n with
  | nil => exact hsum.of_iff (by simp)
  | cons arg rest ih =>
    obtain ⟨harg, hrest⟩ := List.forall_mem_cons.1 hargs
    rw [sumCounts?, cellCounts, ← Nat.add_assoc]
    refine (ih hrest (hsum.add harg)).of_iff ?_
    rw [List.forall_mem_cons, and_assoc]

/-- **Counting has an answer** if and only if all ranges fit and all cells together do, and the
answer is the number of cells. -/
theorem computes_count? (e : Expr) : Word.Computes e.count? e.RangesFit e.cellCount := by
  induction e using induction with
  | literal v => exact (Word.computes_some 0).of_iff (by simp [RangesFit, parts])
  | cell a => exact (Word.computes_some 1).of_iff (by simp [RangesFit, parts])
  | range r =>
    intro n
    rw [count?, r.computes_count? n, rangesFit_range, cellCount]
    exact and_congr_right fun hr => by rw [Range.toNat_count hr]
  | binary op left right ihleft ihright => exact (ihleft.add ihright).of_iff rangesFit_binary.symm
  | call name args ih =>
    have hzero : Word.Computes (some 0) True 0 := Word.computes_some (0 : BitVec 64)
    have hsum := computes_sumCounts? ih hzero
    rw [Nat.zero_add] at hsum
    exact hsum.of_iff (by rw [true_and, rangesFit_call])

/-! ### Cells covered -/

/-- The expression names the cell, or a range with the cell in it. -/
def Covers (e : Expr) (a : Address) : Prop :=
  cell a ∈ e.parts ∨ ∃ r, range r ∈ e.parts ∧ r.contains a = true

section Covers

variable {e : Expr} (he : e.RangesFit)
include he

theorem mem_dependencies_iff_covers {a : Address} : a ∈ e.dependencies ↔ e.Covers a := by
  rw [mem_dependencies, mem_reads_iff]
  constructor
  · rintro ⟨part, hpart, rfl | ⟨r, rfl, ha⟩⟩
    · exact Or.inl hpart
    · exact Or.inr ⟨r, hpart, (Range.mem_cells_iff (he r hpart)).1 ha⟩
  · rintro (hcell | ⟨r, hr, ha⟩)
    · exact ⟨_, hcell, Or.inl rfl⟩
    · exact ⟨_, hr, Or.inr ⟨r, rfl, (Range.mem_cells_iff (he r hr)).2 ha⟩⟩

theorem size_dependencies_eq : e.dependencies.size = {a | e.Covers a}.ncard := by
  have hsize : e.dependencies.size = {a | a ∈ e.dependencies}.ncard :=
    AddressMap.size_eq_ncard e.dependencies.inner
  simpa only [mem_dependencies_iff_covers he] using hsize

end Covers

/-! ### Formulas -/

theorem rangesFit_of_ofText {source : String} {e : Expr} (h : ofText source = .ok e) :
    e.RangesFit := fun _ hr =>
  Range.fits_of_onSheet ((writable_of_ofText h).1.of_mem_parts hr).2

/-- How the count of a formula stands to the cells that the formula covers. -/
structure Counted (source : String) (e : Expr) : Prop where
  /-- No step of the count overflows. -/
  count?_eq : e.count? = some e.referencedCount.toBitVec
  /-- Rows and columns are counted as they are, and so is their product. -/
  ranges : ∀ r, range r ∈ e.parts → r.rows.toNat = r.height ∧ r.cols.toNat = r.width ∧
    r.count.toNat = r.height * r.width
  /-- The count is the number of references, with every cell of a range. -/
  toNat_eq : e.referencedCount.toNat = e.reads.length
  /-- The dependencies are the cells covered, however references overlap. -/
  size_eq : e.dependencies.size = {a | e.Covers a}.ncard
  size_le : e.dependencies.size ≤ e.referencedCount.toNat
  /-- A formula that covers more cells than are allowed is refused for it. -/
  accept_eq : ∀ o : Options, source.utf8ByteSize ≤ o.maxFormulaLength →
    o.maxReferencedCells.toNat < {a | e.Covers a}.ncard → o.accept source = .error .badReference

/-- **The count of a formula is a bound for the cells that it covers**, and it does not overflow in
a formula shorter than a gigabyte. -/
theorem counted_of_ofText {source : String} {e : Expr} (h : ofText source = .ok e)
    (hsource : source.utf8ByteSize < 2 ^ 30) : Counted source e := by
  have hfit := rangesFit_of_ofText h
  have hcount := toNat_referencedCount_of_ofText h hsource
  have hsize := size_dependencies_eq hfit
  have hle : e.dependencies.size ≤ e.referencedCount.toNat :=
    hcount ▸ e.size_dependencies_le
  refine ⟨(computes_count? e _).2 ⟨hfit, hcount⟩, fun r hr => ?_,
    hcount.trans (length_reads e).symm, hsize, hle, fun o hlength hmany => ?_⟩
  · exact ⟨Range.toNat_rows (hfit r hr), Range.toNat_cols (hfit r hr),
      Range.toNat_count (hfit r hr)⟩
  · have hover : o.maxReferencedCells < e.referencedCount := by
      rw [UInt64.lt_iff_toNat_lt]
      omega
    unfold Options.accept
    rw [if_neg (Nat.not_lt.2 hlength), h]
    exact if_pos hover

/-- Two ranges that meet in one cell. -/
def overlap : Expr :=
  .call "SUM" [.range (.spanning ⟨0, 0⟩ ⟨1, 1⟩), .range (.spanning ⟨1, 1⟩ ⟨2, 2⟩)]

/-- Two ranges of four cells that meet in one of them count as eight cells and cover seven. -/
theorem counted_of_ofText_of_overlap :
    ofText "=SUM(A1:B2,C3:B2)" = .ok overlap ∧ overlap.count? = some 8 ∧
      {a | overlap.Covers a}.ncard = 7 ∧
      Options.accept { maxReferencedCells := 6 } "=SUM(A1:B2,C3:B2)" = .error .badReference := by
  have hread : ofText "=SUM(A1:B2,C3:B2)" = .ok overlap := by cbv
  have h := counted_of_ofText hread (by decide)
  have hcells : {a | overlap.Covers a}.ncard = 7 := h.size_eq.symm.trans (by decide)
  exact ⟨hread, h.count?_eq, hcells, h.accept_eq _ (by decide) (by rw [hcells]; decide)⟩

end Expr

end Worksheet
