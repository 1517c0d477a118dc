import Mathlib.Algebra.Group.Nat.Defs
import Worksheet.Proofs.Formula.Sound
import Worksheet.Proofs.Formula.WellFormed

/-!
# How much a formula reads

`cellCount` is the number of cells that an expression reads, counted without bound.  It is that of
the tokens (`Derives.cellCount_eq`), and a text has no more tokens than characters, so for texts
shorter than a gigabyte the count in machine words is exact (`toNat_referencedCount_of_ofText`).
`width` bounds how many values come together at any place of an expression, and it is bounded by
the text as well (`width_le_of_ofText`).
-/

namespace Worksheet

namespace Expr

mutual

/-- The number of cells read, every cell of a range counted. -/
def cellCount : Expr → Nat
  | literal _ => 0
  | cell _ => 1
  | range r => r.count.toNat
  | binary _ left right => left.cellCount + right.cellCount
  | call _ args => cellCounts args

/-- The number of cells read by some expressions together. -/
def cellCounts : List Expr → Nat
  | [] => 0
  | arg :: rest => arg.cellCount + cellCounts rest

end

mutual

theorem length_reads (e : Expr) : e.reads.length = e.cellCount := by
  match e with
  | .literal v => rfl
  | .cell a => rfl
  | .range r => exact Range.length_cells r
  | .binary op left right =>
    rw [reads, List.length_append, length_reads left, length_reads right, cellCount]
  | .call f args => rw [reads, length_readsAll args, cellCount]

theorem length_readsAll (args : List Expr) : (readsAll args).length = cellCounts args := by
  match args with
  | [] => rfl
  | arg :: rest =>
    rw [readsAll, List.length_append, length_reads arg, length_readsAll rest, cellCounts]

end

mutual

theorem toNat_referencedCount (e : Expr) : e.referencedCount.toNat = e.cellCount % 2 ^ 64 := by
  match e with
  | .literal v => rfl
  | .cell a => rfl
  | .range r =>
    rw [referencedCount, cellCount]
    exact (Nat.mod_eq_of_lt r.count.toNat_lt).symm
  | .binary op left right =>
    rw [referencedCount, UInt64.toNat_add, toNat_referencedCount left, toNat_referencedCount right,
      cellCount, ← Nat.add_mod]
  | .call f args => rw [referencedCount, toNat_referencedCounts args, cellCount]

theorem toNat_referencedCounts (args : List Expr) :
    (referencedCounts args).toNat = cellCounts args % 2 ^ 64 := by
  match args with
  | [] => rfl
  | arg :: rest =>
    rw [referencedCounts, UInt64.toNat_add, toNat_referencedCount arg, toNat_referencedCounts rest,
      cellCounts, ← Nat.add_mod]

end

mutual

/-- A bound for how many values the expression gives, and for how many any function in it is
given. -/
def width : Expr → Nat
  | literal _ => 1
  | cell _ => 1
  | range r => r.count.toNat
  | binary _ left right => 1 + left.width + right.width
  | call _ args => 1 + widths args

/-- A bound for how many values the expressions give together. -/
def widths : List Expr → Nat
  | [] => 0
  | arg :: rest => arg.width + widths rest

end

theorem width_le_widths {arg : Expr} {args : List Expr} (h : arg ∈ args) :
    arg.width ≤ widths args := by
  induction args with
  | nil => cases h
  | cons first rest ih =>
    rw [widths]
    rcases List.mem_cons.1 h with rfl | h
    · exact Nat.le_add_right _ _
    · exact Nat.le_add_left_of_le (ih h)

theorem size_dependencies_le (e : Expr) : e.dependencies.size ≤ e.cellCount := by
  rw [← length_reads]
  exact Std.ExtTreeSet.size_ofList_le

end Expr

/-! ### Tokens -/

namespace Token

/-- The number of cells that the token stands for. -/
def cellCount : Token → Nat
  | cell _ => 1
  | range r => r.count.toNat
  | _ => 0

/-- The number of cells that the tokens stand for together. -/
def cellCounts : List Token → Nat
  | [] => 0
  | t :: ts => t.cellCount + cellCounts ts

theorem cellCounts_append (ts us : List Token) :
    cellCounts (ts ++ us) = cellCounts ts + cellCounts us := by
  induction ts with
  | nil => exact (Nat.zero_add _).symm
  | cons t ts ih => rw [List.cons_append, cellCounts, cellCounts, ih, Nat.add_assoc]

theorem cellCounts_le {tokens : List Token} {n : Nat} (h : ∀ t ∈ tokens, t.cellCount ≤ n) :
    cellCounts tokens ≤ tokens.length * n := by
  induction tokens with
  | nil => simp [cellCounts]
  | cons t ts ih =>
    have ht := h t List.mem_cons_self
    have hts := ih fun u hu => h u (List.mem_cons_of_mem t hu)
    rw [cellCounts, List.length_cons, Nat.add_mul]
    omega

end Token

/-- The number of cells that a phrase reads. -/
def Phrase.cellCount : Phrase → Nat
  | expression _ e => e.cellCount
  | arguments args => Expr.cellCounts args

/-- A phrase reads the cells that its tokens stand for. -/
theorem Derives.cellCount_eq {phrase : Phrase} {n : Nat} {ts : List Token}
    (h : Derives phrase n ts) : phrase.cellCount = Token.cellCounts ts := by
  induction h with
  | number x => rfl
  | text s => rfl
  | boolean b => rfl
  | cell a => rfl
  | range r => rfl
  | emptyCall f => rfl
  | tighter _ ih => exact ih
  | brackets _ ih =>
    rw [Token.cellCounts, Token.cellCounts_append, ← ih]
    exact (Nat.zero_add _).symm
  | sign _ _ ih =>
    rw [Token.cellCounts, ← ih]
    rfl
  | call f _ ih =>
    rw [Token.cellCounts, Token.cellCounts, Token.cellCounts_append, ← ih]
    simp [Phrase.cellCount, Expr.cellCount, Token.cellCount, Token.cellCounts]
  | binary _ _ ihleft ihright =>
    rw [Token.cellCounts_append, Token.cellCounts, ← ihleft, ← ihright]
    simp [Phrase.cellCount, Expr.cellCount, Token.cellCount]
  | lastArgument _ ih => exact ih
  | argument _ _ ih ihothers =>
    rw [Token.cellCounts_append, Token.cellCounts, ← ih, ← ihothers]
    simp [Phrase.cellCount, Expr.cellCounts, Token.cellCount]

/-- A bound for how many values come together in a phrase. -/
def Phrase.width : Phrase → Nat
  | expression _ e => e.width
  | arguments args => Expr.widths args

/-- Two values for every token, for a sign stands for an operation on zero, and one for every cell
that is read. -/
theorem Derives.width_le {phrase : Phrase} {n : Nat} {ts : List Token}
    (h : Derives phrase n ts) : phrase.width ≤ 2 * ts.length + Token.cellCounts ts := by
  induction h with
  | number x | text s | boolean b | cell a =>
    simp [Phrase.width, Expr.width, Token.cellCounts, Token.cellCount]
  | range r =>
    simp only [Phrase.width, Expr.width, Token.cellCounts, Token.cellCount]
    omega
  | emptyCall f =>
    simp [Phrase.width, Expr.width, Expr.widths, Token.cellCounts, Token.cellCount]
  | tighter _ ih => exact ih
  | brackets _ ih =>
    simp only [Phrase.width, Token.cellCounts, Token.cellCount, Token.cellCounts_append,
      List.length_cons, List.length_append] at ih ⊢
    omega
  | sign _ _ ih =>
    simp only [Phrase.width, Expr.width, Expr.zero, Token.cellCounts, Token.cellCount,
      List.length_cons] at ih ⊢
    omega
  | call f _ ih =>
    simp only [Phrase.width, Expr.width, Token.cellCounts, Token.cellCount,
      Token.cellCounts_append, List.length_cons, List.length_append] at ih ⊢
    omega
  | binary _ _ ihleft ihright =>
    simp only [Phrase.width, Expr.width, Token.cellCounts, Token.cellCount,
      Token.cellCounts_append, List.length_cons, List.length_append] at ihleft ihright ⊢
    omega
  | lastArgument _ ih => exact ih
  | argument _ _ ih ihothers =>
    simp only [Phrase.width, Expr.widths, Token.cellCounts, Token.cellCount,
      Token.cellCounts_append, List.length_cons, List.length_append] at ih ihothers ⊢
    omega

/-! ### Texts -/

namespace Token

/-- No token stands for more cells than a sheet has. -/
def OnSheet (t : Token) : Prop :=
  t.cellCount ≤ rowLimit * colLimit

theorem WellFormed.onSheet {t : Token} (h : t.WellFormed) : t.OnSheet := by
  cases t with
  | cell a => exact Nat.succ_le_of_lt (by decide)
  | range r => exact Range.toNat_count_le h.2
  | _ => exact Nat.zero_le _

/-- Every token takes a character at least. -/
theorem length_scan_le {position : Nat} {s : List Char} {tokens : List Token}
    (h : scan position s = .ok tokens) : tokens.length ≤ s.length := by
  fun_induction scan position s generalizing tokens with
  | case1 position =>
    cases h
    exact Nat.le_refl _
  | case2 position c rest hblank ih => exact Nat.le_succ_of_le (ih h)
  | case3 position c rest hblank ih =>
    obtain ⟨⟨token, n⟩, hlexeme, h⟩ := bind_eq_ok.1 h
    obtain ⟨others, hothers, h⟩ := bind_eq_ok.1 h
    cases h
    have hlength := ih n hothers
    rw [List.length_drop] at hlength
    rw [List.length_cons, List.length_cons]
    omega

end Token

namespace Text

theorem length_toList_le (s : String) : s.toList.length ≤ s.utf8ByteSize := by
  have hlist : ∀ l : List Char, l.length ≤ (String.ofList l).utf8ByteSize := by
    intro l
    induction l with
    | nil => exact Nat.zero_le _
    | cons c rest ih =>
      have hc := c.utf8Size_pos
      rw [String.ofList_cons, String.utf8ByteSize_append, String.utf8ByteSize_singleton,
        List.length_cons]
      omega
  simpa using hlist s.toList

end Text

namespace Expr

theorem formulaBody_sublist (s : List Char) : (formulaBody s).Sublist s := by
  have htrim := Text.trimChars_sublist s
  unfold formulaBody
  split
  · next rest hrest =>
    rw [hrest] at htrim
    exact (List.sublist_cons_self _ _).trans htrim
  · exact htrim

/-- An expression has no more tokens than its text has bytes, none of which stands for more cells
than a sheet has. -/
theorem exists_tokens_of_ofText {s : String} {e : Expr} (h : ofText s = .ok e) :
    ∃ tokens n, Derives (.expression Tier.all e) n tokens ∧ tokens.length ≤ s.utf8ByteSize ∧
      Token.cellCounts tokens ≤ s.utf8ByteSize * (rowLimit * colLimit) := by
  obtain ⟨tokens, hscan, h⟩ := bind_eq_ok.1 h
  obtain ⟨n, hderives⟩ := derives_of_ofTokens h
  have hscanned := Token.length_scan_le hscan
  have hbody := (formulaBody_sublist s.toList).length_le
  have hbytes := Text.length_toList_le s
  have hlength : tokens.length ≤ s.utf8ByteSize := by omega
  have hsheet : ∀ t ∈ tokens, t.OnSheet := fun t ht =>
    (Token.wellFormed_of_scan hscan t ht).onSheet
  exact ⟨tokens, n, hderives, hlength,
    (Token.cellCounts_le hsheet).trans (Nat.mul_le_mul_right _ hlength)⟩

theorem cellCount_le_of_ofText {s : String} {e : Expr} (h : ofText s = .ok e) :
    e.cellCount ≤ s.utf8ByteSize * (rowLimit * colLimit) := by
  obtain ⟨tokens, n, hderives, -, hcells⟩ := exists_tokens_of_ofText h
  exact hderives.cellCount_eq.trans_le hcells

theorem width_le_of_ofText {s : String} {e : Expr} (h : ofText s = .ok e) :
    e.width ≤ s.utf8ByteSize * (2 + rowLimit * colLimit) := by
  obtain ⟨tokens, n, hderives, hlength, hcells⟩ := exists_tokens_of_ofText h
  have hwidth : e.width ≤ 2 * tokens.length + Token.cellCounts tokens := hderives.width_le
  rw [Nat.mul_add]
  omega

/-- **The count of a formula shorter than a gigabyte does not overflow.** -/
theorem toNat_referencedCount_of_ofText {s : String} {e : Expr} (h : ofText s = .ok e)
    (hs : s.utf8ByteSize < 2 ^ 30) : e.referencedCount.toNat = e.cellCount := by
  have hle := cellCount_le_of_ofText h
  rw [toNat_referencedCount]
  refine Nat.mod_eq_of_lt ?_
  simp only [rowLimit, colLimit] at hle
  omega

end Expr

end Worksheet
