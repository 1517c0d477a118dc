import Worksheet.Number.Numeral
import Worksheet.Proofs.Text.Runs

/-!
# Plain numerals

A plain numeral is a run of digits, or two of them around a point; it has neither a sign nor a power
of ten.
-/

namespace Worksheet.Number

/-- The text is a plain numeral with these digits in front of and behind its point. -/
inductive Plain : List Char → List Char → List Char → Prop where
  | whole {w : List Char} (hw : ∀ c ∈ w, c.isDigit = true) (hne : w ≠ []) : Plain w [] w
  | point {w f : List Char} (hw : ∀ c ∈ w, c.isDigit = true) (hne : w ≠ [])
      (hf : ∀ c ∈ f, c.isDigit = true) : Plain w f (w ++ '.' :: f)

variable {w f s : List Char}

/-- A plain numeral begins with a digit. -/
theorem Plain.exists_cons (h : Plain w f s) : ∃ c cs, s = c :: cs ∧ c.isDigit = true := by
  obtain ⟨hw, hne⟩ | ⟨hw, hne, -⟩ := h
  · obtain ⟨c, cs, rfl⟩ := List.exists_cons_of_ne_nil hne
    exact ⟨c, cs, rfl, hw c List.mem_cons_self⟩
  · obtain ⟨c, cs, rfl⟩ := List.exists_cons_of_ne_nil hne
    exact ⟨c, _, rfl, hw c List.mem_cons_self⟩

theorem Plain.isDigit (h : Plain w f s) : ∀ c ∈ w ++ f, c.isDigit = true := by
  obtain ⟨hw, -⟩ | ⟨hw, -, hf⟩ := h
  · rwa [List.append_nil]
  · exact List.forall_mem_append.2 ⟨hw, hf⟩

theorem splitSign_of_isDigit {c : Char} (h : c.isDigit = true) (cs : List Char) :
    splitSign (c :: cs) = (false, c :: cs) := by
  unfold splitSign
  split
  · next heq =>
    obtain ⟨rfl, -⟩ := List.cons.inj heq
    exact absurd h (by decide)
  · next heq =>
    obtain ⟨rfl, -⟩ := List.cons.inj heq
    exact absurd h (by decide)
  · rfl

/-- A plain numeral is read as its two runs of digits. -/
theorem Plain.ofChars? (h : Plain w f s) : Numeral.ofChars? s = some ⟨false, w, f, 0⟩ := by
  have hnil : Text.Stops Char.isDigit [] := Text.stops_nil
  obtain ⟨c, cs, hcons, hc⟩ := h.exists_cons
  have hsign : splitSign s = (false, s) := hcons ▸ splitSign_of_isDigit hc cs
  unfold Numeral.ofChars?
  rw [hsign]
  obtain ⟨hw, hne⟩ | ⟨hw, hne, hf⟩ := h
  · have htake : w.takeWhile Char.isDigit = w := by simpa using Text.takeWhile_run hw hnil
    have hdrop : w.dropWhile Char.isDigit = [] := by simpa using Text.dropWhile_run hw hnil
    simp only [htake, hdrop]
    rw [if_neg (by simpa using hne)]
    rfl
  · have hpoint : Text.Stops Char.isDigit ('.' :: f) := Text.stops_cons (by decide)
    have htake : f.takeWhile Char.isDigit = f := by simpa using Text.takeWhile_run hf hnil
    have hdrop : f.dropWhile Char.isDigit = [] := by simpa using Text.dropWhile_run hf hnil
    simp only [Text.takeWhile_run hw hpoint, Text.dropWhile_run hw hpoint, htake, hdrop]
    rw [if_neg (by simp [hne])]
    rfl

/-- The characters that could go on with a plain numeral. -/
def goesOn (c : Char) : Bool :=
  c.isDigit || c = '.' || c = 'e' || c = 'E'

theorem not_isDigit_of_not_goesOn {c : Char} (h : goesOn c = false) : c.isDigit = false := by
  unfold goesOn at h
  simp only [Bool.or_eq_false_iff] at h
  exact h.1.1.1

end Worksheet.Number
