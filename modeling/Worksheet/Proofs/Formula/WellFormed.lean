import Worksheet.Proofs.Formula.Spelling

/-!
# What the tokens of a text can be

No text gives tokens that could not be written again: numbers are finite and have no sign, addresses
and the corners of ranges lie on the sheet, names are words in upper case (`wellFormed_of_scan`).
-/

namespace Worksheet.Token

/-- Is there a text that the token can be read from? -/
def WellFormed : Token → Prop
  | number x => Number.Unsigned x
  | cell a => a.OnSheet
  | range r => r.first.OnSheet ∧ r.last.OnSheet
  | name f => IsName f
  | _ => True

/-! ### Words -/

/-- The case of a character changes nothing about its place in a word. -/
theorem toUpper_of_isWordChar {c : Char} (h : isWordChar c = true) :
    isWordChar c.toUpper = true ∧ (c.toUpper = '$' → c = '$') ∧
      (startsWord c = true → startsWord c.toUpper = true) := by
  have hc := toNat_lt_of_isWordChar h
  revert h
  exact Text.forall_ascii (P := fun c => isWordChar c = true → isWordChar c.toUpper = true ∧
    (c.toUpper = '$' → c = '$') ∧ (startsWord c = true → startsWord c.toUpper = true))
    (by decide) hc

theorem isName_asciiUpper {c : Char} {cs : List Char} (hc : startsWord c = true)
    (hcs : ∀ d ∈ cs, isWordChar d = true) (hmark : '$' ∉ c :: cs) :
    IsName (Text.asciiUpper (String.ofList (c :: cs))) := by
  have hword : ∀ d ∈ c :: cs, isWordChar d = true :=
    List.forall_mem_cons.2 ⟨isWordChar_of_startsWord hc, hcs⟩
  have hchars : (Text.asciiUpper (String.ofList (c :: cs))).toList =
      c.toUpper :: cs.map Char.toUpper := by
    unfold Text.asciiUpper
    rw [String.toList_ofList, String.toList_ofList, List.map_cons]
  refine ⟨c.toUpper, cs.map Char.toUpper, hchars, ?_, fun d hd => ?_, fun hd => ?_,
    Text.asciiUpper_asciiUpper _⟩
  · exact (toUpper_of_isWordChar (hword c List.mem_cons_self)).2.2 hc
  · obtain ⟨d', hd', rfl⟩ := List.mem_map.1 hd
    exact (toUpper_of_isWordChar (hcs d' hd')).1
  · rw [hchars, ← List.map_cons] at hd
    obtain ⟨d', hd', heq⟩ := List.mem_map.1 hd
    exact hmark ((toUpper_of_isWordChar (hword d' hd')).2.1 heq ▸ hd')

/-! ### All tokens -/

theorem WrittenAs.wellFormed {t : Token} {w : List Char} (h : t.WrittenAs w) : t.WellFormed := by
  cases h with
  | number _ hx => exact hx.unsigned
  | text s => trivial
  | boolean => trivial
  | name hw hmark =>
    obtain ⟨c, cs, rfl, hc, hcs⟩ := hw
    exact isName_asciiUpper hc hcs hmark
  | cell ha => exact ha.onSheet
  | range ha hb hfirst hlast =>
    exact ⟨hfirst ▸ Range.onSheet_first_spanning ha.onSheet hb.onSheet,
      hlast ▸ Range.onSheet_last_spanning ha.onSheet hb.onSheet⟩
  | operator op => trivial
  | leftParen => trivial
  | rightParen => trivial
  | comma => trivial

/-- **What a text is split into can be written.** -/
theorem wellFormed_of_scan {position : Nat} {s : List Char} {tokens : List Token}
    (h : scan position s = .ok tokens) : ∀ t ∈ tokens, t.WellFormed := by
  have hmade := madeOf_of_scan h
  clear h
  induction hmade with
  | blanks => exact List.forall_mem_nil _
  | token _ hw _ ih => exact List.forall_mem_cons.2 ⟨hw.wellFormed, ih⟩

end Worksheet.Token
