import Mathlib
import Worksheet.Text.Ascii
import Worksheet.Text.Blank

/-!
# Runs of characters

What `takeWhile` and `dropWhile` make of a run that something else follows, the value of a run of
digits, and facts about ASCII letters that are checked on all code points below 128.
-/

namespace Worksheet.Text

/-! ### A run and what follows it -/

section Run

variable {α : Type} {p : α → Bool} {run rest : List α}

/-- What follows does not go on with the run. -/
def Stops (p : α → Bool) (rest : List α) : Prop :=
  ∀ a, rest.head? = some a → p a = false

theorem stops_nil : Stops p [] := fun _ h => nomatch h

theorem stops_cons {a : α} (h : p a = false) : Stops p (a :: rest) := by
  rintro b ⟨⟩
  exact h

theorem stops_of_all (h : ∀ a ∈ rest, p a = false) : Stops p rest :=
  fun a ha => h a (List.mem_of_head? ha)

theorem Stops.append {more : List α} (h : Stops p rest) (hne : rest ≠ []) :
    Stops p (rest ++ more) := by
  obtain ⟨a, as, rfl⟩ := List.exists_cons_of_ne_nil hne
  exact stops_cons (h a rfl)

theorem takeWhile_run (hrun : ∀ a ∈ run, p a = true) (hrest : Stops p rest) :
    (run ++ rest).takeWhile p = run := by
  rw [List.takeWhile_append_of_pos hrun]
  cases rest with
  | nil => simp
  | cons a rest => simp [hrest a rfl]

theorem dropWhile_run (hrun : ∀ a ∈ run, p a = true) (hrest : Stops p rest) :
    (run ++ rest).dropWhile p = rest := by
  rw [List.dropWhile_append_of_pos hrun]
  cases rest with
  | nil => rfl
  | cons a rest => simp [hrest a rfl]

theorem length_takeWhile_add_dropWhile (p : α → Bool) (s : List α) :
    (s.takeWhile p).length + (s.dropWhile p).length = s.length := by
  rw [← List.length_append, List.takeWhile_append_dropWhile]

/-- A run that ends within the front of a text is a run of the front. -/
theorem takeWhile_append_of_le
    (h : ((run ++ rest).takeWhile p).length ≤ run.length) :
    (run ++ rest).takeWhile p = run.takeWhile p ∧
      (run ++ rest).dropWhile p = run.dropWhile p ++ rest := by
  induction run with
  | nil =>
    have hnil : rest.takeWhile p = [] := List.length_eq_zero_iff.1 (Nat.le_zero.1 h)
    have hrest : rest.takeWhile p ++ rest.dropWhile p = rest := List.takeWhile_append_dropWhile
    rw [hnil, List.nil_append] at hrest
    exact ⟨hnil, hrest⟩
  | cons a run ih =>
    rw [List.cons_append] at h ⊢
    cases ha : p a with
    | false => simp [ha]
    | true =>
      rw [List.takeWhile_cons_of_pos ha, List.length_cons, List.length_cons] at h
      obtain ⟨htake, hdrop⟩ := ih (Nat.le_of_succ_le_succ h)
      rw [List.takeWhile_cons_of_pos ha, List.takeWhile_cons_of_pos ha,
        List.dropWhile_cons_of_pos ha, List.dropWhile_cons_of_pos ha, htake, hdrop]
      exact ⟨rfl, rfl⟩

end Run

theorem byteLength_cons (c : Char) (s : List Char) :
    byteLength (c :: s) = c.utf8Size + byteLength s := rfl

theorem byteLength_append (s t : List Char) :
    byteLength (s ++ t) = byteLength s + byteLength t := by
  induction s with
  | nil => exact (Nat.zero_add _).symm
  | cons c s ih => rw [List.cons_append, byteLength_cons, byteLength_cons, ih, Nat.add_assoc]

/-- Trimming does nothing where neither end is blank. -/
theorem trimChars_eq_self {s : List Char} (hfront : Stops isBlank s)
    (hback : Stops isBlank s.reverse) : trimChars s = s := by
  have hnil : ∀ c ∈ ([] : List Char), isBlank c = true := by simp
  have hfront' : s.dropWhile isBlank = s := dropWhile_run hnil hfront
  have hback' : s.reverse.dropWhile isBlank = s.reverse := dropWhile_run hnil hback
  rw [trimChars, trimEnd, hfront', hback', List.reverse_reverse]

theorem trimChars_sublist (s : List Char) : (trimChars s).Sublist s :=
  (List.rdropWhile_prefix isBlank _).sublist.trans (List.dropWhile_sublist isBlank)

/-- What is trimmed begins with no blank. -/
theorem stops_trimChars (s : List Char) : Stops isBlank (trimChars s) := by
  have hprefix : trimChars s <+: s.dropWhile isBlank := List.rdropWhile_prefix isBlank _
  intro c hc
  obtain ⟨more, hmore⟩ := hprefix
  have hhead : (s.dropWhile isBlank).head? = some c := by
    rw [← hmore, List.head?_append, hc, Option.some_or]
  have hstop := List.head?_dropWhile_not isBlank s
  rw [hhead] at hstop
  simpa using hstop

/-- What is trimmed ends with no blank. -/
theorem stops_reverse_trimChars (s : List Char) : Stops isBlank (trimChars s).reverse := by
  intro c hc
  have hstop := List.head?_dropWhile_not isBlank (s.dropWhile isBlank).reverse
  rw [trimChars, trimEnd, List.reverse_reverse] at hc
  rw [hc] at hstop
  simpa using hstop

theorem trimChars_trimChars (s : List Char) : trimChars (trimChars s) = trimChars s :=
  trimChars_eq_self (stops_trimChars s) (stops_reverse_trimChars s)

/-! ### Digits -/

theorem decimalValue_eq (digits : List Char) :
    decimalValue digits = Nat.ofDigitChars 10 digits 0 := rfl

theorem decimalValue_append (s t : List Char) :
    decimalValue (s ++ t) = 10 ^ t.length * decimalValue s + decimalValue t := by
  rw [decimalValue_eq, decimalValue_eq, decimalValue_eq, Nat.ofDigitChars_append,
    Nat.ofDigitChars_eq_ofDigitChars_zero]

theorem decimalValue_replicate (n : Nat) : decimalValue (List.replicate n '0') = 0 := by
  rw [decimalValue_eq, Nat.ofDigitChars_replicate_zero, Nat.mul_zero]

theorem decimalValue_decimalDigits (n : Nat) : decimalValue (decimalDigits n) = n :=
  Nat.ofDigitChars_toDigits (by decide) (by decide)

theorem isDigit_of_mem_decimalDigits {n : Nat} {c : Char} (h : c ∈ decimalDigits n) :
    c.isDigit = true :=
  Nat.isDigit_of_mem_toDigits (by decide) (by decide) h

theorem lt_pow_length_decimalDigits (n : Nat) : n < 10 ^ (decimalDigits n).length :=
  (Nat.length_toDigits_le_iff (by decide) Nat.length_toDigits_pos).1 (Nat.le_refl _)

theorem pow_length_decimalDigits_le {n : Nat} (hn : 0 < n) :
    10 ^ ((decimalDigits n).length - 1) ≤ n := by
  unfold decimalDigits
  rcases Nat.eq_zero_or_pos ((Nat.toDigits 10 n).length - 1) with hzero | hmore
  · rw [hzero]
    exact hn
  · refine Nat.le_of_not_lt fun hlt => ?_
    have hle := (Nat.length_toDigits_le_iff (by decide) hmore).2 hlt
    omega

/-! ### ASCII characters -/

/-- What holds for the first 128 code points holds for all ASCII characters. -/
theorem forall_ascii {P : Char → Prop} (h : ∀ n < 128, P (Char.ofNat n)) {c : Char}
    (hc : c.toNat < 128) : P c := by
  have hn := h c.toNat hc
  rwa [Char.ofNat_toNat] at hn

theorem toNat_lt_of_isAlphanum {c : Char} (h : c.isAlphanum = true) : c.toNat < 128 := by
  simp only [Char.isAlphanum, Char.isAlpha, Char.isUpper, Char.isLower, Char.isDigit,
    UInt32.le_iff_toNat_le, ge_iff_le, Bool.or_eq_true, Bool.and_eq_true, decide_eq_true_eq,
    Char.toNat_val, Char.reduceToNat] at h
  omega

theorem toUpper_eq_self {c : Char} (h : 128 ≤ c.toNat) : c.toUpper = c := by
  refine dif_neg fun hlower => ?_
  have hle := hlower.2
  rw [UInt32.le_iff_toNat_le, Char.toNat_val, Char.toNat_val] at hle
  exact absurd (Nat.le_trans h hle) (by decide)

theorem toUpper_toUpper (c : Char) : c.toUpper.toUpper = c.toUpper := by
  by_cases hc : c.toNat < 128
  · exact forall_ascii (P := fun c => c.toUpper.toUpper = c.toUpper) (by decide) hc
  · rw [toUpper_eq_self (Nat.le_of_not_lt hc), toUpper_eq_self (Nat.le_of_not_lt hc)]

theorem asciiUpper_asciiUpper (s : String) : asciiUpper (asciiUpper s) = asciiUpper s := by
  unfold asciiUpper
  rw [String.toList_ofList, List.map_map]
  exact congrArg String.ofList (List.map_congr_left fun c _ => toUpper_toUpper c)

end Worksheet.Text
