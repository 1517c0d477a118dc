import Worksheet.Formula.Lexer
import Worksheet.Proofs.Except
import Worksheet.Proofs.Grid.A1
import Worksheet.Proofs.Number.Plain

/-!
# What tokens are written as

`Spells w t rest` says that in front of `rest` the characters `w` are the token `t`.  There is a
lemma for each kind of token; what has to follow the characters is what may stop them from being
read as a longer token, or as a different one.
-/

namespace Worksheet.Token

/-- At every position, these characters are these tokens. -/
def Scans (s : List Char) (ts : List Token) : Prop :=
  ∀ position, scan position s = .ok ts

/-- In front of `rest`, the characters `w` are the token `t`. -/
def Spells (w : List Char) (t : Token) (rest : List Char) : Prop :=
  ∃ c cs, w = c :: cs ∧ Text.isBlank c = false ∧
    ∀ position, lexeme position c (cs ++ rest) = .ok (t, w.length)

theorem scans_nil : Scans [] [] := fun position => by rw [scan]

theorem Spells.scans {w rest : List Char} {t : Token} {ts : List Token} (h : Spells w t rest)
    (hrest : Scans rest ts) : Scans (w ++ rest) (t :: ts) := by
  obtain ⟨c, cs, rfl, hblank, hlexeme⟩ := h
  intro position
  rw [List.cons_append, scan, hblank, if_neg Bool.false_ne_true, hlexeme]
  show (scan _ ((cs ++ rest).drop cs.length) >>= _) = _
  rw [List.drop_left, hrest]
  rfl

/-! ### Ends of operands -/

/-- The characters that an operator begins with. -/
def operatorMarks : List Char :=
  ['+', '-', '*', '/', '%', '=', '<', '>']

/-- The characters that may follow an operand in a written formula. -/
def delimiters : List Char :=
  ')' :: ',' :: operatorMarks

/-- An operand may end in front of these characters. -/
def Delimited (rest : List Char) : Prop :=
  ∀ c, rest.head? = some c → c ∈ delimiters

theorem delimited_nil : Delimited [] := fun _ h => nomatch h

theorem delimited_cons {c : Char} {rest : List Char} (h : c ∈ delimiters) :
    Delimited (c :: rest) := by
  rintro d ⟨⟩
  exact h

theorem Delimited.stops {p : Char → Bool} {rest : List Char} (h : Delimited rest)
    (hp : delimiters.any p = false) : Text.Stops p rest :=
  fun c hc => Bool.eq_false_iff.2 (List.any_eq_false.1 hp c (h c hc))

theorem Delimited.head_ne {c : Char} {rest : List Char} (h : Delimited rest)
    (hc : c ∉ delimiters) : rest.head? ≠ some c :=
  fun heq => hc (h c heq)

/-! ### Brackets, commas and operators -/

theorem spells_leftParen (rest : List Char) : Spells ['('] .leftParen rest :=
  ⟨'(', [], rfl, by decide, fun _ => rfl⟩

theorem spells_rightParen (rest : List Char) : Spells [')'] .rightParen rest :=
  ⟨')', [], rfl, by decide, fun _ => rfl⟩

theorem spells_comma (rest : List Char) : Spells [','] .comma rest :=
  ⟨',', [], rfl, by decide, fun _ => rfl⟩

/-- An operator ends where no other operator could go on with it. -/
theorem spells_operator (op : Operator) {rest : List Char} (hequal : rest.head? ≠ some '=')
    (hgreater : rest.head? ≠ some '>') : Spells op.chars (.operator op) rest := by
  have hfirst : ∃ c cs, op.chars = c :: cs ∧ Text.isBlank c = false ∧
      operatorLexeme? c (cs ++ rest) = some (op, cs.length) := by
    cases op with
    | arithmetic op => cases op <;> exact ⟨_, _, rfl, by decide, rfl⟩
    | relation op =>
      cases op with
      | less =>
        refine ⟨_, _, rfl, by decide, ?_⟩
        rw [List.nil_append, operatorLexeme?]
        · rfl
        · rintro r rfl
          exact hequal rfl
        · rintro r rfl
          exact hgreater rfl
      | greater =>
        refine ⟨_, _, rfl, by decide, ?_⟩
        rw [List.nil_append, operatorLexeme?]
        · rfl
        · rintro r rfl
          exact hequal rfl
      | _ => exact ⟨_, _, rfl, by decide, rfl⟩
  obtain ⟨c, cs, hchars, hblank, hop⟩ := hfirst
  refine ⟨c, cs, hchars, hblank, fun position => ?_⟩
  rw [lexeme, hop, hchars, List.length_cons, Nat.add_comm]

/-! ### Literals -/

theorem operatorLexeme?_eq_none {c : Char} (h : c ∉ operatorMarks) (rest : List Char) :
    operatorLexeme? c rest = none := by
  unfold operatorLexeme?
  split
  all_goals first
    | rfl
    | exact absurd (by decide) h

theorem spells_text (s : String) {rest : List Char} (hrest : rest.head? ≠ some '"') :
    Spells (TextLiteral.write s.toList) (.text s) rest := by
  refine ⟨'"', TextLiteral.body s.toList ++ ['"'], rfl, by decide, fun position => ?_⟩
  have hread := TextLiteral.read_body s.toList hrest
  rw [List.append_assoc, List.singleton_append, lexeme, operatorLexeme?_eq_none (by decide)]
  dsimp only
  rw [if_neg (by decide), if_neg (by decide), if_neg (by decide), if_pos rfl, hread]
  simp [TextLiteral.write, Nat.add_comm]

/-- Only a point looks at what follows it. -/
theorem startsNumeral_of_ne {c : Char} (hc : c ≠ '.') (rest : List Char) :
    startsNumeral (c :: rest) = c.isDigit := by
  unfold startsNumeral
  split
  · next heq => exact absurd (List.cons.inj heq).1 hc
  · next heq => rw [(List.cons.inj heq).1]
  · next heq => cases heq

theorem startsNumeral_of_isDigit {c : Char} (h : c.isDigit = true) (rest : List Char) :
    startsNumeral (c :: rest) = true := by
  rw [startsNumeral_of_ne, h]
  rintro rfl
  exact absurd h (by decide)

/-- A numeral begins with a digit or a point. -/
theorem head?_numeral_ne {c d : Char} {rest : List Char} (h : startsNumeral (c :: rest) = true)
    (hd : d.isDigit = false) (hpoint : d ≠ '.') (n : Nat) :
    ((c :: rest).take n).head? ≠ some d := by
  cases n with
  | zero => simp
  | succ n =>
    rw [List.take_succ_cons, List.head?_cons]
    rintro ⟨⟩
    rw [startsNumeral_of_ne hpoint, hd] at h
    cases h

/-- A digit is neither blank nor does it begin another kind of token. -/
theorem not_mem_of_isDigit {c : Char} (h : c.isDigit = true) :
    Text.isBlank c = false ∧ c ∉ operatorMarks ∧ c ≠ '(' ∧ c ≠ ')' ∧ c ≠ ',' ∧ c ≠ '"' := by
  have hc := Text.toNat_lt_of_isAlphanum (c := c) (by simp [Char.isAlphanum, h])
  revert h
  exact Text.forall_ascii (P := fun c => c.isDigit = true → Text.isBlank c = false ∧
    c ∉ operatorMarks ∧ c ≠ '(' ∧ c ≠ ')' ∧ c ≠ ',' ∧ c ≠ '"')
    (by decide) hc

theorem scaleLength_eq_zero {rest : List Char} (h : Text.Stops Number.goesOn rest) :
    scaleLength rest = 0 := by
  cases rest with
  | nil => rfl
  | cons c rest =>
    have hc := h c rfl
    unfold Number.goesOn at hc
    simp only [Bool.or_eq_false_iff, decide_eq_false_iff_not] at hc
    unfold scaleLength
    exact if_neg (by simp [hc])

/-! ### Words -/

/-- A letter or an underscore begins a word and nothing else. -/
theorem not_mem_of_startsWord {c : Char} (h : startsWord c = true) :
    Text.isBlank c = false ∧ c.isDigit = false ∧ c ∉ operatorMarks ∧
      c ≠ '(' ∧ c ≠ ')' ∧ c ≠ ',' ∧ c ≠ '"' ∧ c ≠ '.' := by
  have hc : c.toNat < 128 := by
    simp only [startsWord, Bool.or_eq_true, decide_eq_true_eq] at h
    rcases h with (h | rfl) | rfl
    · exact Text.toNat_lt_of_isAlphanum (by simp [Char.isAlphanum, h])
    · decide
    · decide
  revert h
  exact Text.forall_ascii (P := fun c => startsWord c = true → Text.isBlank c = false ∧
    c.isDigit = false ∧ c ∉ operatorMarks ∧
    c ≠ '(' ∧ c ≠ ')' ∧ c ≠ ',' ∧ c ≠ '"' ∧ c ≠ '.') (by decide) hc

theorem startsNumeral_of_startsWord {c : Char} (h : startsWord c = true) (rest : List Char) :
    startsNumeral (c :: rest) = false := by
  obtain ⟨-, hdigit, -, -, -, -, -, hpoint⟩ := not_mem_of_startsWord h
  rw [startsNumeral_of_ne hpoint, hdigit]

theorem spells_of_wordLexeme {c : Char} {cs rest : List Char} {t : Token} (more : List Char)
    (hc : startsWord c = true) (hcs : ∀ d ∈ cs, isWordChar d = true)
    (hmore : Text.Stops isWordChar (more ++ rest))
    (hword : ∀ position, wordLexeme position (c :: cs) (more ++ rest) =
      .ok (t, (c :: cs ++ more).length)) :
    Spells (c :: cs ++ more) t rest := by
  obtain ⟨hblank, -, hoperator, hleft, hright, hcomma, hquote, -⟩ := not_mem_of_startsWord hc
  refine ⟨c, cs ++ more, rfl, hblank, fun position => ?_⟩
  rw [List.append_assoc, lexeme, operatorLexeme?_eq_none hoperator]
  dsimp only
  rw [if_neg hleft, if_neg hright, if_neg hcomma, if_neg hquote,
    if_neg (by rw [startsNumeral_of_startsWord hc]; decide), if_pos hc,
    Text.takeWhile_run hcs hmore, Text.dropWhile_run hcs hmore, hword]

theorem toNat_lt_of_isWordChar {c : Char} (h : isWordChar c = true) : c.toNat < 128 := by
  unfold isWordChar at h
  simp only [Bool.or_eq_true, decide_eq_true_eq] at h
  rcases h with ((h | rfl) | rfl) | rfl
  · exact Text.toNat_lt_of_isAlphanum h
  · decide
  · decide
  · decide

theorem isWordChar_of_isAlphanum {c : Char} (h : c.isAlphanum = true) : isWordChar c = true := by
  unfold isWordChar
  rw [h]
  rfl

theorem isWordChar_of_startsWord {c : Char} (h : startsWord c = true) : isWordChar c = true := by
  unfold startsWord at h
  unfold isWordChar Char.isAlphanum
  simp only [Bool.or_eq_true, decide_eq_true_eq] at h
  rcases h with (h | h) | h
  · simp [h]
  · simp [h]
  · simp [h]

theorem isWordChar_of_mem_chars {a : Address} {c : Char} (h : c ∈ a.chars) :
    isWordChar c = true := by
  refine isWordChar_of_isAlphanum ?_
  unfold Char.isAlphanum
  rcases List.mem_append.1 h with h | h
  · rw [Column.isAlpha_of_mem_letters h, Bool.true_or]
  · rw [Address.isDigit_of_mem_digits h, Bool.or_true]

theorem not_isBlank_of_isWordChar {c : Char} (h : isWordChar c = true) :
    Text.isBlank c = false := by
  have hc := toNat_lt_of_isWordChar h
  revert h
  exact Text.forall_ascii (P := fun c => isWordChar c = true → Text.isBlank c = false)
    (by decide) hc

theorem stops_reverse_address (a : Address) : Text.Stops Text.isBlank a.chars.reverse :=
  Text.stops_of_all fun _ hc =>
    not_isBlank_of_isWordChar (isWordChar_of_mem_chars (List.mem_reverse.1 hc))

/-- A written address begins with a letter. -/
theorem exists_cons_chars (a : Address) :
    ∃ c cs, a.chars = c :: cs ∧ startsWord c = true ∧ ∀ d ∈ cs, isWordChar d = true := by
  obtain ⟨c, cs, hletters⟩ := List.exists_cons_of_ne_nil (Column.letters_ne_nil a.col.toNat)
  have hchars : a.chars = c :: (cs ++ a.digits) := by
    rw [Address.chars, hletters]
    rfl
  have hc := Column.isAlpha_of_mem_letters (n := a.col.toNat) (c := c) (by simp [hletters])
  refine ⟨c, cs ++ a.digits, hchars, ?_, fun d hd => ?_⟩
  · unfold startsWord
    rw [hc]
    rfl
  · exact isWordChar_of_mem_chars (a := a) (by simp [hchars, hd])

theorem wordAddress_chars {a : Address} (ha : a.OnSheet) (position : Nat) :
    wordAddress position a.chars = .ok a := by
  rw [wordAddress, Address.readTrimmed_chars ha]
  rfl

theorem spells_cell {a : Address} (ha : a.OnSheet) {rest : List Char} (hrest : Delimited rest) :
    Spells a.chars (.cell a) rest := by
  obtain ⟨c, cs, hchars, hc, hcs⟩ := exists_cons_chars a
  have hword : ∀ position, wordLexeme position a.chars rest = .ok (.cell a, a.chars.length) := by
    intro position
    have hcalled : (rest.head? == some '(') = false :=
      beq_eq_false_iff_ne.2 (hrest.head_ne (by decide))
    rw [wordLexeme, hcalled, Address.hasForm_chars, if_neg (by decide)]
    refine bind_eq_ok.2 ⟨a, wordAddress_chars ha position, ?_⟩
    split
    · exact absurd rfl (hrest.head_ne (c := ':') (by decide))
    · rfl
  have hstops : Text.Stops isWordChar ([] ++ rest) := hrest.stops (by decide)
  have h := spells_of_wordLexeme (t := .cell a) [] hc hcs hstops
  rw [List.append_nil, ← hchars] at h
  exact h hword

theorem spells_range {r : Range} (hfirst : r.first.OnSheet) (hlast : r.last.OnSheet)
    {rest : List Char} (hrest : Delimited rest) : Spells r.chars (.range r) rest := by
  obtain ⟨c, cs, hchars, hc, hcs⟩ := exists_cons_chars r.first
  have hword : ∀ position, wordLexeme position r.first.chars (':' :: r.last.chars ++ rest) =
      .ok (.range r, (r.first.chars ++ ':' :: r.last.chars).length) := by
    intro position
    have hsecond : (r.last.chars ++ rest).takeWhile isWordChar = r.last.chars :=
      Text.takeWhile_run (fun d hd => isWordChar_of_mem_chars hd) (hrest.stops (by decide))
    have hcalled : ((':' :: (r.last.chars ++ rest)).head? == some '(') = false := rfl
    rw [List.cons_append, wordLexeme, hcalled, Address.hasForm_chars, if_neg (by decide)]
    refine bind_eq_ok.2 ⟨r.first, wordAddress_chars hfirst position, ?_⟩
    show (if Address.hasForm ((r.last.chars ++ rest).takeWhile isWordChar) then _ else _) = _
    rw [hsecond, if_pos (Address.hasForm_chars r.last)]
    refine bind_eq_ok.2 ⟨r.last, wordAddress_chars hlast _, ?_⟩
    rw [Range.spanning_corners, List.length_append, List.length_cons, Nat.add_assoc,
      Nat.add_comm 1]
    rfl
  have hstops : Text.Stops isWordChar ((':' :: r.last.chars) ++ rest) :=
    Text.stops_cons (by decide)
  have h := spells_of_wordLexeme (t := .range r) (':' :: r.last.chars) hc hcs hstops
  rw [← hchars] at h
  exact h hword

theorem spells_truthWord (b : Bool) {rest : List Char} (hrest : Delimited rest) :
    Spells (Value.truthWord b).toList (.boolean b) rest := by
  have hcalled : (rest.head? == some '(') = false :=
    beq_eq_false_iff_ne.2 (hrest.head_ne (by decide))
  have hstops : Text.Stops isWordChar ([] ++ rest) := hrest.stops (by decide)
  cases b with
  | true =>
    have hc : startsWord 'T' = true := by decide
    have hcs : ∀ d ∈ ['R', 'U', 'E'], isWordChar d = true := List.all_eq_true.1 (by decide)
    refine spells_of_wordLexeme [] hc hcs hstops fun position => ?_
    rw [List.nil_append, wordLexeme, hcalled]
    rfl
  | false =>
    have hc : startsWord 'F' = true := by decide
    have hcs : ∀ d ∈ ['A', 'L', 'S', 'E'], isWordChar d = true := List.all_eq_true.1 (by decide)
    refine spells_of_wordLexeme [] hc hcs hstops fun position => ?_
    rw [List.nil_append, wordLexeme, hcalled]
    rfl

/-- A word in upper case that is no numeral and has no mark in it. -/
def IsName (f : String) : Prop :=
  ∃ c cs, f.toList = c :: cs ∧ startsWord c = true ∧ (∀ d ∈ cs, isWordChar d = true) ∧
    '$' ∉ f.toList ∧ Text.asciiUpper f = f

/-- In front of a bracket every name stands for itself, one that looks like an address or a truth
value too. -/
theorem spells_name {f : String} (hf : IsName f) (rest : List Char) :
    Spells f.toList (.name f) ('(' :: rest) := by
  obtain ⟨c, cs, hchars, hc, hcs, hmark, hupper⟩ := hf
  have hstops : Text.Stops isWordChar ([] ++ '(' :: rest) := Text.stops_cons (by decide)
  have h := spells_of_wordLexeme (t := .name f) [] hc hcs hstops
  rw [List.append_nil, ← hchars] at h
  refine h fun position => ?_
  have hcontains : f.toList.contains '$' = false := by simpa using hmark
  show (nameToken position f.toList true).map _ = _
  rw [nameToken, hcontains, if_neg Bool.false_ne_true, String.ofList_toList, hupper]
  rfl

end Worksheet.Token
