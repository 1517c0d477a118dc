import Mathlib.Data.Prod.Lex
import Mathlib.Order.Monotone.Basic
import Mathlib.Algebra.Order.Ring.Int
import Mathlib.Data.Nat.Cast.Order.Basic
import Worksheet.Value.Order

/-!
# The order of numbers

Numbers other than NaN have places on a line (`place`), and comparing numbers is comparing their
places (`compareNumbers_eq_compare`); a NaN is on a level with every number.  So the order can be
turned round, and on numbers that are not NaN it is transitive.
-/

namespace Worksheet

open Float.Model Float.Model.UnpackedFloat

namespace Number

/-- The place of a number on the line.  First comes the sign, with the infinities further out, then
the exponent and the significand, which on the negative side count backwards. -/
def place : UnpackedFloat → ℤ ×ₗ ℤ ×ₗ ℤ
  | .infinity .negative => toLex (-2, toLex (0, 0))
  | .finite .negative m e _ => toLex (-1, toLex (-e, -m))
  | .finite .positive m e _ => toLex (1, toLex (e, m))
  | .infinity .positive => toLex (2, toLex (0, 0))
  | _ => toLex (0, toLex (0, 0))

theorem compare_neg (a b : ℤ) : compare (-a) (-b) = (compare a b).swap := by
  rw [← cmp_eq_compare, ← cmp_eq_compare, cmp_swap]
  exact StrictAnti.cmp_map_eq (f := fun x : ℤ => -x) (fun _ _ h => neg_lt_neg h) a b

theorem compare_natCast (m n : ℕ) : compare (m : ℤ) n = compare m n := by
  rw [← cmp_eq_compare, ← cmp_eq_compare]
  exact Nat.strictMono_cast.cmp_map_eq m n

/-- Two numbers that are not NaN are compared by their places. -/
theorem compare_eq_some {u v : UnpackedFloat} (hu : u.isNaN = false) (hv : v.isNaN = false) :
    u.compare v = some (compare (place u) (place v)) := by
  cases u with
  | notANumber => cases hu
  | infinity s =>
    cases v with
    | notANumber => cases hv
    | infinity s' => cases s <;> cases s' <;> rfl
    | zero s' => cases s <;> rfl
    | finite s' m' e' h' => cases s <;> cases s' <;> rfl
  | zero s =>
    cases v with
    | notANumber => cases hv
    | infinity s' => cases s' <;> rfl
    | zero s' => rfl
    | finite s' m' e' h' => cases s' <;> rfl
  | finite s m e h =>
    cases v with
    | notANumber => cases hv
    | infinity s' => cases s <;> cases s' <;> rfl
    | zero s' => cases s <;> rfl
    | finite s' m' e' h' =>
      match s, s' with
      | .positive, .negative => rfl
      | .negative, .positive => rfl
      | .positive, .positive =>
        show some ((compare e e').then (compare m m')) =
          some ((compare e e').then (compare (m : ℤ) m'))
        rw [compare_natCast]
      | .negative, .negative =>
        show some ((compare e e').then (compare m m')).swap =
          some ((compare (-e) (-e')).then (compare (-m : ℤ) (-m')))
        rw [compare_neg, compare_neg, compare_natCast, Ordering.swap_then]

theorem compare_eq_none {u v : UnpackedFloat} (h : u.isNaN = true ∨ v.isNaN = true) :
    u.compare v = none := by
  cases u with
  | notANumber => rfl
  | infinity s | zero s | finite s m e hm =>
    cases v with
    | notANumber => rfl
    | infinity s' | zero s' | finite s' m' e' hm' => rcases h with h | h <;> cases h

theorem lt_iff {x y : Float} :
    x < y ↔ x.toModel.unpack.compare y.toModel.unpack = some .lt := by
  show decide (Float.Model.lt x.toModel y.toModel = true) = true ↔ _
  rw [decide_eq_true_eq]
  exact beq_iff_eq

end Number

open Number

theorem compareNumbers_of_isNaN {x y : Float} (h : x.isNaN = true ∨ y.isNaN = true) :
    compareNumbers x y = .eq := by
  unfold compareNumbers
  rw [if_neg, if_neg]
  · rw [lt_iff, compare_eq_none h.symm]
    exact nofun
  · rw [lt_iff, compare_eq_none h]
    exact nofun

/-- **Comparing numbers is comparing their places**, unless one of them is NaN. -/
theorem compareNumbers_eq_compare {x y : Float} (hx : x.isNaN = false) (hy : y.isNaN = false) :
    compareNumbers x y = compare (place x.toModel.unpack) (place y.toModel.unpack) := by
  have hless : x < y ↔ compare (place x.toModel.unpack) (place y.toModel.unpack) = .lt := by
    rw [lt_iff, compare_eq_some hx hy, Option.some.injEq]
  have hmore : y < x ↔ compare (place x.toModel.unpack) (place y.toModel.unpack) = .gt := by
    rw [lt_iff, compare_eq_some hy hx, Option.some.injEq, Std.OrientedCmp.gt_iff_lt]
  unfold compareNumbers
  simp only [hless, hmore]
  cases compare (place x.toModel.unpack) (place y.toModel.unpack) <;> rfl

theorem compareNumbers_swap (x y : Float) : compareNumbers y x = (compareNumbers x y).swap := by
  by_cases h : x.isNaN = true ∨ y.isNaN = true
  · rw [compareNumbers_of_isNaN h, compareNumbers_of_isNaN h.symm]
    rfl
  · rw [not_or, Bool.not_eq_true, Bool.not_eq_true] at h
    rw [compareNumbers_eq_compare h.1 h.2, compareNumbers_eq_compare h.2 h.1]
    exact Std.OrientedCmp.eq_swap

/-- Along a line, two steps up go as far as the first of them that rises. -/
theorem compare_eq_then {α : Type} {cmp : α → α → Ordering} [Std.TransCmp cmp] {a b c : α}
    (hab : (cmp a b).isLE = true) (hbc : (cmp b c).isLE = true) :
    cmp a c = (cmp a b).then (cmp b c) := by
  cases h : cmp a b with
  | lt => exact Std.TransCmp.lt_of_lt_of_isLE h hbc
  | eq => exact Std.TransCmp.congr_left h
  | gt =>
    rw [h] at hab
    cases hab

theorem compareNumbers_eq_then {x y z : Float} (hx : x.isNaN = false) (hy : y.isNaN = false)
    (hz : z.isNaN = false) (hxy : (compareNumbers x y).isLE = true)
    (hyz : (compareNumbers y z).isLE = true) :
    compareNumbers x z = (compareNumbers x y).then (compareNumbers y z) := by
  rw [compareNumbers_eq_compare hx hy] at hxy ⊢
  rw [compareNumbers_eq_compare hy hz] at hyz ⊢
  rw [compareNumbers_eq_compare hx hz]
  exact compare_eq_then hxy hyz

end Worksheet
