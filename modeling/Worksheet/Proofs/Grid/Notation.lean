import Worksheet.Proofs.Grid.A1
import Worksheet.Proofs.Grid.Spelling

/-!
# A1 notation is exact

A text is read as an address if and only if it is one, between blanks (`ofText_eq_ok_iff`), and the
letters of a column are counted without gaps: `Column.letters` and `Column.value` are inverse to each
other.  `Address.Form` is what the scanner of formulas takes for an address; such a text can only
fail to be one because it names a cell beyond the sheet (`Address.notation_exact`).
-/

namespace Worksheet

/-! ### Columns -/

namespace Column

theorem rank_le {c : Char} (h : c.isAlpha = true) : rank c ≤ 26 := by
  have hc := Text.toNat_lt_of_isAlphanum (c := c) (by simp [Char.isAlphanum, h])
  exact Text.forall_ascii (P := fun c => c.isAlpha = true → rank c ≤ 26) (by decide) hc h

/-- The letter with the rank of a letter is this one in upper case. -/
theorem letter_rank {c : Char} (h : c.isAlpha = true) : letter (rank c - 1) = c.toUpper := by
  have hc := Text.toNat_lt_of_isAlphanum (c := c) (by simp [Char.isAlphanum, h])
  exact Text.forall_ascii (P := fun c => c.isAlpha = true → letter (rank c - 1) = c.toUpper)
    (by decide) hc h

theorem value_concat (front : List Char) (c : Char) :
    value (front ++ [c]) = value front * 26 + rank c := by
  rw [value, List.foldl_concat, value]

theorem le_foldl (letters : List Char) (n : Nat) :
    n ≤ letters.foldl (fun n c => n * 26 + rank c) n := by
  induction letters generalizing n with
  | nil => exact Nat.le_refl n
  | cons c rest ih =>
    have hstep : n ≤ n * 26 + rank c := by omega
    exact Nat.le_trans hstep (ih _)

/-- Letters are read as what they count; those beyond the sheet are refused, at whichever letter
that shows. -/
theorem readFrom_of_isAlpha (whole : List Char) {letters : List Char} {n : Nat} (hn : n ≤ colLimit)
    (h : ∀ c ∈ letters, c.isAlpha = true) :
    readFrom whole n letters =
      if colLimit < letters.foldl (fun n c => n * 26 + rank c) n then
        .error (.columnBeyond (String.ofList (whole.map Char.toUpper)))
      else .ok (letters.foldl (fun n c => n * 26 + rank c) n) := by
  induction letters generalizing n with
  | nil =>
    rw [List.foldl_nil, if_neg (Nat.not_lt.2 hn)]
    rfl
  | cons c rest ih =>
    rw [List.forall_mem_cons] at h
    rw [readFrom, h.1, if_neg (by decide), List.foldl_cons]
    split
    · next hlarge => rw [if_pos (Nat.lt_of_lt_of_le hlarge (le_foldl rest _))]
    · next hsmall => exact ih (Nat.not_lt.1 hsmall) h.2

theorem read_of_isAlpha {letters : List Char} (hne : letters ≠ [])
    (h : ∀ c ∈ letters, c.isAlpha = true) :
    read letters =
      if colLimit < value letters then
        .error (.columnBeyond (String.ofList (letters.map Char.toUpper)))
      else .ok (value letters - 1).toUInt16 := by
  rw [read, if_neg (by simpa using hne), readFrom_of_isAlpha letters (Nat.zero_le _) h, ← value]
  split
  · rfl
  · rfl

/-- The letters of a column count it from one. -/
theorem value_letters (n : Nat) : value (letters n) = n + 1 := by
  fun_induction letters n with
  | case1 n hn =>
    show 0 * 26 + rank (letter n) = n + 1
    rw [rank_letter hn, Nat.zero_mul, Nat.zero_add]
  | case2 n hge ih =>
    rw [value_concat, ih, rank_letter (Nat.mod_lt n (by decide))]
    omega

/-- Letters of either case are the letters of the column that they count. -/
theorem letters_value {l : List Char} (hne : l ≠ []) (h : ∀ c ∈ l, c.isAlpha = true) :
    letters (value l - 1) = l.map Char.toUpper := by
  induction l using List.reverseRecOn with
  | nil => exact absurd rfl hne
  | append_singleton front c ih =>
    rw [List.forall_mem_append, List.forall_mem_singleton] at h
    obtain ⟨hfront, hc⟩ := h
    have hle := rank_le hc
    have hpos : 0 < rank c := Nat.succ_pos _
    rw [value_concat, List.map_append, List.map_singleton, ← letter_rank hc, letters]
    rcases List.eq_nil_or_concat front with rfl | hsplit
    · have hnil : value [] = 0 := rfl
      rw [hnil, if_pos (by omega), List.map_nil, List.nil_append]
      congr 2
      omega
    · have hfrontne : front ≠ [] := by
        obtain ⟨_, _, rfl⟩ := hsplit
        simp
      have hvalue := value_pos hfrontne
      have hhead : (value front * 26 + rank c - 1) / 26 - 1 = value front - 1 := by omega
      have hlast : (value front * 26 + rank c - 1) % 26 = rank c - 1 := by omega
      rw [if_neg (by omega), hhead, hlast, ih hfrontne hfront]

/-- The letters of a column are in upper case. -/
theorem map_toUpper_letters (n : Nat) : (letters n).map Char.toUpper = letters n := by
  rw [← letters_value (letters_ne_nil n) fun c hc => isAlpha_of_mem_letters hc, value_letters,
    Nat.add_sub_cancel]

/-- **The name of a column on the sheet is read back, and that of any other one is refused.** -/
theorem ofName_name (col : UInt16) :
    ofName (name col) =
      if col.toNat < colLimit then .ok col else .error (.columnBeyond (name col)) := by
  rw [ofName, name, String.toList_ofList, read_of_isAlpha (letters_ne_nil _)
    fun c hc => isAlpha_of_mem_letters hc, value_letters, map_toUpper_letters]
  by_cases hcol : col.toNat < colLimit
  · rw [if_neg (by omega), if_pos hcol, Nat.add_sub_cancel, Nat.toUInt16_eq, UInt16.ofNat_toNat]
  · rw [if_pos (by omega), if_neg hcol]

/-- **A column has no other name, but for the case of its letters.** -/
theorem name_of_ofName {l : String} {col : UInt16} (h : ofName l = .ok col) :
    name col = Text.asciiUpper l := by
  obtain ⟨hne, halpha, hvalue⟩ := value_of_read h
  rw [name, Text.asciiUpper, ← letters_value hne halpha, hvalue, Nat.add_sub_cancel]

end Column

/-! ### Addresses -/

namespace Address

/-- The characters are letters and digits, in front of each of them one `$` or none. -/
inductive Form (letters digits : List Char) : List Char → Prop where
  | intro {mark mark' : List Char} (hmark : IsMark mark) (hmark' : IsMark mark')
      (hne : letters ≠ []) (hletters : ∀ c ∈ letters, c.isAlpha = true) (hne' : digits ≠ [])
      (hdigits : ∀ c ∈ digits, c.isDigit = true) :
      Form letters digits (mark ++ letters ++ (mark' ++ digits))

section Form

variable {letters digits s : List Char}

theorem dropMark_append {mark : List Char} (hmark : IsMark mark) (h : s.head? ≠ some '$') :
    dropMark (mark ++ s) = s := by
  obtain rfl | rfl := hmark
  · exact dropMark_eq_self h
  · rfl

theorem head?_ne_of_forall {p : Char → Bool} (hp : p '$' = false) (h : ∀ c ∈ s, p c = true)
    (rest : List Char) (hne : s ≠ []) : (s ++ rest).head? ≠ some '$' := by
  obtain ⟨c, cs, rfl⟩ := List.exists_cons_of_ne_nil hne
  rintro ⟨⟩
  rw [h '$' List.mem_cons_self] at hp
  cases hp

theorem stops_mark_digits {mark : List Char} (hmark : IsMark mark)
    (hdigits : ∀ c ∈ digits, c.isDigit = true) : Text.Stops Char.isAlpha (mark ++ digits) := by
  obtain rfl | rfl := hmark
  · exact Text.stops_of_all fun c hc => not_isAlpha_of_isDigit (hdigits c hc)
  · exact Text.stops_cons (by decide)

/-- What is found in a text of this form. -/
theorem Form.parts (h : Form letters digits s) :
    (dropMark s).takeWhile Char.isAlpha = letters ∧
      dropMark ((dropMark s).dropWhile Char.isAlpha) = digits := by
  obtain ⟨hmark, hmark', hne, hletters, hne', hdigits⟩ := h
  have hstops := stops_mark_digits hmark' hdigits
  rw [List.append_assoc, dropMark_append hmark (head?_ne_of_forall rfl hletters _ hne),
    Text.takeWhile_run hletters hstops, Text.dropWhile_run hletters hstops]
  refine ⟨rfl, dropMark_append hmark' ?_⟩
  simpa using head?_ne_of_forall rfl hdigits [] hne'

theorem hasForm_iff : hasForm s = true ↔ ∃ letters digits, Form letters digits s := by
  constructor
  · intro h
    unfold hasForm at h
    simp only [Bool.and_eq_true, Bool.not_eq_true', List.isEmpty_eq_false_iff,
      List.all_eq_true] at h
    obtain ⟨⟨hne, hne'⟩, hdigits⟩ := h
    obtain ⟨mark, hmark, hs⟩ := exists_isMark s
    obtain ⟨mark', hmark', hrest⟩ := exists_isMark ((dropMark s).dropWhile Char.isAlpha)
    have hsplit : s = mark ++ (dropMark s).takeWhile Char.isAlpha ++
        (mark' ++ dropMark ((dropMark s).dropWhile Char.isAlpha)) := by
      rw [← hrest, List.append_assoc, List.takeWhile_append_dropWhile, ← hs]
    refine ⟨(dropMark s).takeWhile Char.isAlpha, dropMark ((dropMark s).dropWhile Char.isAlpha), ?_⟩
    have hform := Form.intro hmark hmark' hne (List.all_eq_true.1 List.all_takeWhile) hne' hdigits
    rwa [← hsplit] at hform
  · rintro ⟨letters, digits, h⟩
    obtain ⟨htake, hdrop⟩ := h.parts
    obtain ⟨-, -, hne, -, hne', hdigits⟩ := h
    unfold hasForm
    simp only [htake, hdrop, Bool.and_eq_true, Bool.not_eq_true', List.isEmpty_eq_false_iff,
      List.all_eq_true]
    exact ⟨⟨hne, hne'⟩, hdigits⟩

/-- No character of such a text is blank. -/
theorem Form.trimChars_eq (h : Form letters digits s) : Text.trimChars s = s := by
  have hblank : ∀ c ∈ s, Text.isBlank c = false := by
    have halnum : ∀ c : Char, c.isAlphanum = true → Text.isBlank c = false := fun c hc =>
      Text.forall_ascii (P := fun c => c.isAlphanum = true → Text.isBlank c = false) (by decide)
        (Text.toNat_lt_of_isAlphanum hc) hc
    have hismark : ∀ {mark : List Char}, IsMark mark → ∀ c ∈ mark, Text.isBlank c = false := by
      rintro mark (rfl | rfl)
      · exact List.forall_mem_nil _
      · exact List.forall_mem_singleton.2 (by decide)
    obtain ⟨hmark, hmark', -, hletters, -, hdigits⟩ := h
    refine List.forall_mem_append.2 ⟨List.forall_mem_append.2 ⟨hismark hmark, fun c hc => ?_⟩,
      List.forall_mem_append.2 ⟨hismark hmark', fun c hc => ?_⟩⟩
    · exact halnum c (by simp [Char.isAlphanum, hletters c hc])
    · exact halnum c (by simp [Char.isAlphanum, hdigits c hc])
  exact Text.trimChars_eq_self (Text.stops_of_all hblank)
    (Text.stops_of_all fun c hc => hblank c (List.mem_reverse.1 hc))

theorem readRow_of_isDigit (whole : String) (hne : digits ≠ [])
    (h : ∀ c ∈ digits, c.isDigit = true) (hpos : Text.decimalValue digits ≠ 0)
    (hle : Text.decimalValue digits ≤ rowLimit) :
    readRow whole digits = .ok (Text.decimalValue digits - 1).toUInt32 := by
  have hsize : ¬ UInt64.size ≤ Text.decimalValue digits := by
    simp only [rowLimit, UInt64.size] at *
    omega
  unfold readRow
  rw [if_neg (by simpa using hne), List.all_eq_true.2 h, if_neg (by decide)]
  dsimp only
  rw [if_neg hsize, if_neg hpos, if_neg (Nat.not_lt.2 hle)]

/-- A text of this form that names a cell of the sheet is read. -/
theorem Form.readTrimmed (h : Form letters digits s) (hcol : Column.value letters ≤ colLimit)
    (hpos : Text.decimalValue digits ≠ 0) (hrow : Text.decimalValue digits ≤ rowLimit) :
    readTrimmed s =
      .ok ⟨(Text.decimalValue digits - 1).toUInt32, (Column.value letters - 1).toUInt16⟩ := by
  obtain ⟨htake, hdrop⟩ := h.parts
  obtain ⟨-, -, hne, hletters, hne', hdigits⟩ := h
  unfold Address.readTrimmed
  dsimp only
  rw [htake, hdrop, if_neg (by simp [hne]), if_neg (by simpa using hne),
    Column.read_of_isAlpha hne hletters, if_neg (Nat.not_lt.2 hcol),
    readRow_of_isDigit _ hne' hdigits hpos hrow]
  rfl

end Form

theorem WrittenAs.form {a : Address} {s : List Char} (h : a.WrittenAs s) :
    ∃ letters digits, Form letters digits s ∧ Column.value letters = a.col.toNat + 1 ∧
      Text.decimalValue digits = a.row.toNat + 1 := by
  obtain ⟨hmark, hmark', hne, hletters, hcol, hne', hdigits, hrow, -⟩ := h
  exact ⟨_, _, .intro hmark hmark' hne hletters hne' hdigits, hcol, hrow⟩

/-- What names an address is read as this one. -/
theorem readTrimmed_of_writtenAs {a : Address} {s : List Char} (h : a.WrittenAs s) :
    readTrimmed s = .ok a := by
  obtain ⟨letters, digits, hform, hcol, hrow⟩ := h.form
  obtain ⟨honrow, honcol⟩ := h.onSheet
  rw [hform.readTrimmed (by omega) (by omega) (by omega), hcol, hrow, Nat.add_sub_cancel,
    Nat.add_sub_cancel, Nat.toUInt32_eq, UInt32.ofNat_toNat, Nat.toUInt16_eq, UInt16.ofNat_toNat]

/-- **What is read as an address is what names it, between blanks.** -/
theorem ofText_eq_ok_iff {s : String} {a : Address} :
    ofText s = .ok a ↔ a.WrittenAs (Text.trimChars s.toList) :=
  ⟨writtenAs_of_readTrimmed, readTrimmed_of_writtenAs⟩

theorem ofText_text {a : Address} (ha : a.OnSheet) : ofText a.text = .ok a := by
  rw [ofText, text, String.toList_ofList]
  obtain ⟨letters, digits, hform⟩ := hasForm_iff.1 (hasForm_chars a)
  rw [hform.trimChars_eq, readTrimmed_chars ha]

/-- **A1 notation is exact**: the texts that name an address are those that are read, up to blanks
around them, and names of addresses and of columns are read back.  What the scanner of formulas
takes for an address is every text without blanks around it that is read, and of the others only
those that name a cell beyond the sheet. -/
theorem notation_exact :
    (∀ s a, ofText s = .ok a ↔ a.WrittenAs (Text.trimChars s.toList)) ∧
    (∀ a : Address, a.OnSheet → ofText a.text = .ok a) ∧
    (∀ col, Column.ofName (Column.name col) =
      if col.toNat < colLimit then .ok col else .error (.columnBeyond (Column.name col))) ∧
    (∀ l col, Column.ofName l = .ok col → Column.name col = Text.asciiUpper l) ∧
    (∀ s a, Text.trim s = s → ofText s = .ok a → hasForm s.toList = true) ∧
    (∀ s, hasForm s.toList = true → ∃ letters digits, Form letters digits s.toList ∧
      ∀ e, ofText s = .error e → colLimit < Column.value letters ∨
        Text.decimalValue digits = 0 ∨ rowLimit < Text.decimalValue digits) := by
  refine ⟨fun s a => ofText_eq_ok_iff, fun a => ofText_text, Column.ofName_name,
    fun l col => Column.name_of_ofName, fun s a hs h => ?_, fun s h => ?_⟩
  · have htrim : Text.trimChars s.toList = s.toList := by
      conv_rhs => rw [← hs]
      rw [Text.trim, String.toList_ofList]
    obtain ⟨letters, digits, hform, -, -⟩ := (htrim ▸ ofText_eq_ok_iff.1 h).form
    exact hasForm_iff.2 ⟨letters, digits, hform⟩
  · obtain ⟨letters, digits, hform⟩ := hasForm_iff.1 h
    refine ⟨letters, digits, hform, fun e he => ?_⟩
    by_contra! hinside
    obtain ⟨hcol, hpos, hrow⟩ := hinside
    rw [ofText, hform.trimChars_eq, hform.readTrimmed hcol hpos hrow] at he
    cases he

/-- The last cell of a sheet, with marks, small letters and leading zeros; the cell below it has the
form of an address and is none. -/
theorem notation_exact_of_last :
    ofText " $xfd$001048576" = .ok ⟨1048575, 16383⟩ ∧
      ofText (text ⟨1048575, 16383⟩) = .ok ⟨1048575, 16383⟩ ∧
      Column.name 16383 = Text.asciiUpper "xfd" ∧ hasForm "$xfd$001048576".toList = true ∧
      (∃ letters digits, Form letters digits "XFD1048577".toList ∧
        (colLimit < Column.value letters ∨
          Text.decimalValue digits = 0 ∨ rowLimit < Text.decimalValue digits)) := by
  obtain ⟨hread, hback, -, hname, hhas, hform⟩ := notation_exact
  have hmark : IsMark ['$'] := Or.inr rfl
  have hcol : Column.value ['x', 'f', 'd'] = (16383 : UInt16).toNat + 1 := by decide +kernel
  have hrow : Text.decimalValue ['0', '0', '1', '0', '4', '8', '5', '7', '6'] =
      (1048575 : UInt32).toNat + 1 := by decide +kernel
  have hwritten : WrittenAs ⟨1048575, 16383⟩ (['$'] ++ ['x', 'f', 'd'] ++
      (['$'] ++ ['0', '0', '1', '0', '4', '8', '5', '7', '6'])) :=
    .intro hmark hmark (by decide) (List.all_eq_true.1 (by decide)) hcol (by decide)
      (List.all_eq_true.1 (by decide)) hrow (by decide)
  have hplain : ofText "$xfd$001048576" = .ok ⟨1048575, 16383⟩ := (hread _ _).2 hwritten
  have hbelow : ofText "XFD1048577" = .error (.rowBeyond 1048576) := by decide +kernel
  obtain ⟨letters, digits, hletters, hbeyond⟩ := hform "XFD1048577" (by decide)
  exact ⟨(hread _ _).2 hwritten, hback _ (by decide), hname "xfd" _ (by decide +kernel),
    hhas _ _ (by decide +kernel) hplain, letters, digits, hletters, hbeyond _ hbelow⟩

end Address

/-! ### Ranges -/

theorem Address.trimChars_chars (a : Address) : Text.trimChars a.chars = a.chars := by
  obtain ⟨letters, digits, hform⟩ := hasForm_iff.1 (hasForm_chars a)
  exact hform.trimChars_eq

theorem Range.trimChars_chars (r : Range) : Text.trimChars r.chars = r.chars := by
  have hfront := Text.stops_trimChars r.first.chars
  have hback := Text.stops_reverse_trimChars r.last.chars
  rw [Address.trimChars_chars] at hfront hback
  refine Text.trimChars_eq_self (hfront.append r.first.chars_ne_nil) ?_
  rw [chars, List.reverse_append, List.reverse_cons, List.append_assoc]
  exact hback.append (by simp [Address.chars_ne_nil])

/-- **A range on the sheet is read back from its text.** -/
theorem Range.ofText_text {r : Range} (hfirst : r.first.OnSheet) (hlast : r.last.OnSheet) :
    ofText r.text = .ok r := by
  have hrun : ∀ c ∈ r.first.chars, (c != ':') = true := by
    intro c hc
    rw [bne_iff_ne]
    rintro rfl
    rcases List.mem_append.1 hc with hc | hc
    · exact absurd (Column.isAlpha_of_mem_letters hc) (by decide)
    · exact absurd (Address.isDigit_of_mem_digits (a := r.first) hc) (by decide)
  have hstops : Text.Stops (fun c => c != ':') (':' :: r.last.chars) :=
    Text.stops_cons (by decide)
  have hchars : r.chars = r.first.chars ++ ':' :: r.last.chars := rfl
  rw [ofText, text, String.toList_ofList, trimChars_chars]
  dsimp only
  rw [hchars, Text.takeWhile_run hrun hstops, Text.dropWhile_run hrun hstops]
  dsimp only
  rw [Address.trimChars_chars, Address.trimChars_chars, Address.readTrimmed_chars hfirst,
    Address.readTrimmed_chars hlast]
  exact congrArg Except.ok r.spanning_corners

end Worksheet
