import Worksheet.Proofs.Text.Runs
import Worksheet.Text.Casing

/-!
# What changes of case leave alone

No letter comes before `A` among the characters, so a character before it stands in a text in upper
or in lower case only where it stood in the text (`mem_of_mem_upper`, `mem_of_mem_lower`).
-/

namespace Worksheet.Text

/-! ### One character -/

theorem le_of_runImage? {runs : List CaseRun} (hruns : ∀ run ∈ runs, 0x41 ≤ run.image) {n m : ℕ}
    (h : runImage? runs n = some m) : 0x41 ≤ m := by
  obtain ⟨run, hrun, h⟩ := List.exists_of_findSome?_eq_some h
  obtain ⟨-, h⟩ := Option.ite_none_right_eq_some.1 h
  obtain rfl := Option.some.inj h
  exact Nat.le_add_right_of_le (hruns run hrun)

theorem le_getD_runImage? {runs : List CaseRun} (hruns : ∀ run ∈ runs, 0x41 ≤ run.image) {n : ℕ}
    (hn : 0x41 ≤ n) : 0x41 ≤ (runImage? runs n).getD n := by
  cases h : runImage? runs n with
  | none => exact hn
  | some m => exact le_of_runImage? hruns h

/-- The character of a large code point is itself large, unless there is none. -/
theorem ofNat_ne {c : Char} (hc : c.toNat < 0x41) (hpos : 0 < c.toNat) {n : ℕ} (hn : 0x41 ≤ n) :
    Char.ofNat n ≠ c := by
  rintro rfl
  by_cases hvalid : n.isValidChar
  · rw [Char.toNat_ofNat, if_pos hvalid] at hc
    omega
  · rw [Char.toNat_ofNat, if_neg hvalid] at hpos
    omega

theorem image_upperRuns : ∀ run ∈ upperRuns, 0x41 ≤ run.image := by decide +kernel

theorem image_lowerRuns : ∀ run ∈ lowerRuns, 0x41 ≤ run.image := by decide +kernel

theorem letters_upperSpellings : ∀ spelling ∈ upperSpellings, ∀ n ∈ spelling.2, 0x41 ≤ n := by
  decide +kernel

variable {c d : Char} (hc : c.toNat < 0x41) (hpos : 0 < c.toNat)
include hc hpos

theorem eq_of_mem_upperChar (h : c ∈ upperChar d) : c = d := by
  unfold upperChar at h
  split at h
  · next hascii =>
    obtain rfl := List.mem_singleton.1 h
    revert hc
    exact forall_ascii (P := fun d => d.toUpper.toNat < 0x41 → d.toUpper = d) (by decide) hascii
  · next hlarge =>
    split at h
    · next letters hlookup =>
      obtain ⟨front, back, hsplit, -⟩ := List.lookup_eq_some_iff.1 hlookup
      obtain ⟨n, hn, rfl⟩ := List.mem_map.1 h
      have hmem : (d.toNat, letters) ∈ upperSpellings := by simp [hsplit]
      exact absurd rfl (ofNat_ne hc hpos (letters_upperSpellings _ hmem n hn))
    · obtain rfl := List.mem_singleton.1 h
      exact absurd rfl (ofNat_ne hc hpos (le_getD_runImage? image_upperRuns (by omega)))

theorem eq_of_mem_lowerChar (h : c ∈ lowerChar d) : c = d := by
  unfold lowerChar at h
  split at h
  · next hascii =>
    obtain rfl := List.mem_singleton.1 h
    revert hc
    exact forall_ascii (P := fun d => d.toLower.toNat < 0x41 → d.toLower = d) (by decide) hascii
  · next hlarge =>
    split at h
    · rcases List.mem_cons.1 h with rfl | h
      · exact absurd hc (by decide)
      · obtain rfl := List.mem_singleton.1 h
        exact absurd hc (by decide)
    · obtain rfl := List.mem_singleton.1 h
      exact absurd rfl (ofNat_ne hc hpos (le_getD_runImage? image_lowerRuns (by omega)))

/-! ### Texts -/

theorem mem_of_mem_upper {s : String} (h : c ∈ (upper s).toList) : c ∈ s.toList := by
  rw [upper, String.toList_ofList] at h
  obtain ⟨d, hd, h⟩ := List.mem_flatMap.1 h
  rwa [eq_of_mem_upperChar hc hpos h]

theorem mem_of_mem_lowerAfter {before s : List Char} (h : c ∈ lowerAfter before s) : c ∈ s := by
  induction s generalizing before with
  | nil => exact h
  | cons d rest ih =>
    rw [lowerAfter] at h
    rcases List.mem_append.1 h with h | h
    · split at h
      · have hsigma : c = 'ς' ∨ c = 'σ' := by
          rw [List.mem_singleton] at h
          split at h
          · exact Or.inl h
          · exact Or.inr h
        rcases hsigma with rfl | rfl
        · exact absurd hc (by decide)
        · exact absurd hc (by decide)
      · rw [eq_of_mem_lowerChar hc hpos h]
        exact List.mem_cons_self
    · exact List.mem_cons_of_mem d (ih h)

theorem mem_of_mem_lower {s : String} (h : c ∈ (lower s).toList) : c ∈ s.toList := by
  rw [lower, String.toList_ofList] at h
  exact mem_of_mem_lowerAfter hc hpos h

end Worksheet.Text
