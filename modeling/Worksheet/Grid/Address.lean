import Std.Data.ExtTreeSet

/-!
# Cell addresses

A cell is named by its row and its column, both counted from zero.  Addresses are ordered row by
row, which is the order of their `index`; the order is lawful, so addresses can be the keys of
ordered maps and sets.
-/

namespace Worksheet

/-- The number of rows of a sheet. -/
def rowLimit : Nat := 1048576

/-- The number of columns of a sheet. -/
def colLimit : Nat := 16384

/-- A cell, by row and column.  Every pair of words is an address, also beyond the sheet. -/
structure Address where
  row : UInt32
  col : UInt16
deriving DecidableEq, Repr, Inhabited

namespace Address

/-- The place of the cell when all cells are counted row by row. -/
def index (a : Address) : Nat :=
  a.row.toNat * 65536 + a.col.toNat

theorem index_inj {a b : Address} (h : a.index = b.index) : a = b := by
  obtain ⟨r, c⟩ := a
  obtain ⟨r', c'⟩ := b
  have hc := c.toNat_lt
  have hc' := c'.toNat_lt
  simp only [index] at h
  have h1 : r.toNat = r'.toNat := by omega
  have h2 : c.toNat = c'.toNat := by omega
  rw [UInt32.toNat_inj.1 h1, UInt16.toNat_inj.1 h2]

/-- Row by row, and within a row from left to right. -/
instance : Ord Address := ⟨fun a b => compare a.index b.index⟩

theorem compare_def (a b : Address) : compare a b = compare a.index b.index := rfl

instance : Std.TransOrd Address where
  eq_swap {a b} := by rw [compare_def, compare_def]; exact Std.OrientedCmp.eq_swap
  isLE_trans {a b c} := by
    simp only [compare_def]
    exact Std.TransCmp.isLE_trans

instance : Std.LawfulEqOrd Address where
  eq_of_compare h := index_inj (Nat.compare_eq_eq.1 h)

/-- Does the address lie on the sheet? -/
def OnSheet (a : Address) : Prop :=
  a.row.toNat < rowLimit ∧ a.col.toNat < colLimit

instance (a : Address) : Decidable a.OnSheet :=
  inferInstanceAs (Decidable (_ ∧ _))

end Address

/-- A set of cells, listed row by row. -/
abbrev AddressSet := Std.ExtTreeSet Address

namespace AddressSet

/-- The first cell of a set, row by row. -/
def first? (s : AddressSet) : Option Address :=
  s.atIdx? 0

theorem first?_eq_min? (s : AddressSet) : first? s = s.min? := by
  obtain ⟨⟨⟨q⟩⟩⟩ := s
  induction q using Quotient.inductionOn with
  | _ m =>
    show m.inner.keyAtIdx? 0 = m.inner.minKey?
    rw [Std.DTreeMap.Internal.Impl.keyAtIdx?_eq_getElem? m.wf.balanced,
      Std.DTreeMap.Internal.Impl.minKey?_eq_head?_keys m.wf,
      Std.DTreeMap.Internal.Impl.keys_eq_keys]
    cases m.inner.toListModel <;> rfl

end AddressSet

/-- Values kept by cell, listed row by row. -/
abbrev AddressMap (β : Type) := Std.ExtTreeMap Address β

end Worksheet
