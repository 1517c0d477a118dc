import Worksheet.Proofs.Formula.Spelling

/-!
# Rules for lexemes

`IsLexeme` is what finding a lexeme succeeds with, as a relation with one rule for each kind of
token.  It does not mention the position, which only errors depend on (`lexeme_eq_ok_iff`).
-/

namespace Worksheet.Token

/-- The token of the word at the front, and how many characters it takes; `rest` stands behind the
word. -/
inductive IsWordLexeme (word rest : List Char) : Token → Nat → Prop where
  /-- In front of a bracket every word is a name. -/
  | called (hmark : '$' ∉ word) (hrest : rest.head? = some '(') :
      IsWordLexeme word rest (.name (Text.asciiUpper (String.ofList word))) word.length
  | name (hmark : '$' ∉ word) (hrest : rest.head? ≠ some '(')
      (hform : Address.hasForm word = false)
      (htruth : Value.truthOfWord? (Text.asciiUpper (String.ofList word)) = none) :
      IsWordLexeme word rest (.name (Text.asciiUpper (String.ofList word))) word.length
  | boolean {b : Bool} (hmark : '$' ∉ word) (hrest : rest.head? ≠ some '(')
      (hform : Address.hasForm word = false)
      (htruth : Value.truthOfWord? (Text.asciiUpper (String.ofList word)) = some b) :
      IsWordLexeme word rest (.boolean b) word.length
  | cell {a : Address} (hrest : rest.head? ≠ some '(') (hcolon : rest.head? ≠ some ':')
      (hform : Address.hasForm word = true) (ha : Address.readTrimmed word = .ok a) :
      IsWordLexeme word rest (.cell a) word.length
  | range {a b : Address} {after : List Char} (hrest : rest = ':' :: after)
      (hform : Address.hasForm word = true) (ha : Address.readTrimmed word = .ok a)
      (hform' : Address.hasForm (after.takeWhile isWordChar) = true)
      (hb : Address.readTrimmed (after.takeWhile isWordChar) = .ok b) :
      IsWordLexeme word rest (.range (.spanning a b))
        (word.length + 1 + (after.takeWhile isWordChar).length)

/-- The token that begins with `c`, and how many characters it takes. -/
inductive IsLexeme : Char → List Char → Token → Nat → Prop where
  | operator {c : Char} {rest : List Char} {op : Operator} {n : Nat}
      (h : operatorLexeme? c rest = some (op, n)) : IsLexeme c rest (.operator op) (1 + n)
  | leftParen {rest : List Char} : IsLexeme '(' rest .leftParen 1
  | rightParen {rest : List Char} : IsLexeme ')' rest .rightParen 1
  | comma {rest : List Char} : IsLexeme ',' rest .comma 1
  | text {rest s : List Char} {n : Nat} (h : TextLiteral.read rest = some (s, n)) :
      IsLexeme '"' rest (.text (String.ofList s)) (1 + n)
  | number {c : Char} {rest : List Char} {x : Float} (hc : startsNumeral (c :: rest) = true)
      (hx : Number.readFinite? ((c :: rest).take (numeralLength (c :: rest))) = some x) :
      IsLexeme c rest (.number x) ((c :: rest).take (numeralLength (c :: rest))).length
  | word {c : Char} {rest : List Char} {t : Token} {n : Nat} (hc : startsWord c = true)
      (h : IsWordLexeme (c :: rest.takeWhile isWordChar) (rest.dropWhile isWordChar) t n) :
      IsLexeme c rest t n

theorem nameToken_eq_ok_iff {position : Nat} {word : List Char} {called : Bool} {t : Token} :
    nameToken position word called = .ok t ↔ '$' ∉ word ∧
      (called = true ∧ t = .name (Text.asciiUpper (String.ofList word)) ∨
        called = false ∧
          ((∃ b, Value.truthOfWord? (Text.asciiUpper (String.ofList word)) = some b ∧
              t = .boolean b) ∨
            Value.truthOfWord? (Text.asciiUpper (String.ofList word)) = none ∧
              t = .name (Text.asciiUpper (String.ofList word)))) := by
  unfold nameToken
  by_cases hmark : '$' ∈ word
  · simp [hmark]
  · have hcontains : word.contains '$' = false := by simpa using hmark
    rw [hcontains, if_neg Bool.false_ne_true]
    cases called with
    | true => simp [hmark, eq_comm]
    | false =>
      cases htruth : Value.truthOfWord? (Text.asciiUpper (String.ofList word)) with
      | none => simp [hmark, htruth, eq_comm]
      | some b => simp [hmark, htruth, eq_comm]

theorem wordLexeme_eq_ok_iff {position : Nat} {word rest : List Char} {t : Token} {n : Nat} :
    wordLexeme position word rest = .ok (t, n) ↔ IsWordLexeme word rest t n := by
  constructor
  · intro h
    unfold wordLexeme at h
    dsimp only at h
    split at h
    · next hname =>
      obtain ⟨t', ht, heq⟩ := map_eq_ok.1 h
      cases heq
      rw [Bool.or_eq_true, beq_iff_eq, Bool.not_eq_true'] at hname
      obtain ⟨hmark, ⟨hcalled, rfl⟩ | ⟨hcalled, hword⟩⟩ := nameToken_eq_ok_iff.1 ht
      · exact .called hmark (beq_iff_eq.1 hcalled)
      · have hrest := beq_eq_false_iff_ne.1 hcalled
        have hform := hname.resolve_left hrest
        obtain ⟨b, htruth, rfl⟩ | ⟨htruth, rfl⟩ := hword
        · exact .boolean hmark hrest hform htruth
        · exact .name hmark hrest hform htruth
    · next haddress =>
      rw [Bool.or_eq_true, beq_iff_eq, Bool.not_eq_true', not_or, Bool.not_eq_false] at haddress
      obtain ⟨hrest, hform⟩ := haddress
      obtain ⟨a, ha, h⟩ := bind_eq_ok.1 h
      split at h
      · split at h
        · next hform' =>
          obtain ⟨b, hb, heq⟩ := bind_eq_ok.1 h
          cases heq
          exact .range rfl hform (mapError_eq_ok.1 ha) hform' (mapError_eq_ok.1 hb)
        · cases h
      · next hcolon =>
        cases h
        refine .cell hrest (fun hhead => ?_) hform (mapError_eq_ok.1 ha)
        obtain ⟨after, rfl⟩ := List.head?_eq_some_iff.1 hhead
        exact hcolon after rfl
  · intro h
    unfold wordLexeme
    cases h with
    | called hmark hrest =>
      rw [hrest]
      exact map_eq_ok.2 ⟨_, nameToken_eq_ok_iff.2 ⟨hmark, Or.inl ⟨rfl, rfl⟩⟩, rfl⟩
    | name hmark hrest hform htruth =>
      rw [beq_eq_false_iff_ne.2 hrest, hform]
      exact map_eq_ok.2
        ⟨_, nameToken_eq_ok_iff.2 ⟨hmark, Or.inr ⟨rfl, Or.inr ⟨htruth, rfl⟩⟩⟩, rfl⟩
    | boolean hmark hrest hform htruth =>
      rw [beq_eq_false_iff_ne.2 hrest, hform]
      exact map_eq_ok.2
        ⟨_, nameToken_eq_ok_iff.2 ⟨hmark, Or.inr ⟨rfl, Or.inl ⟨_, htruth, rfl⟩⟩⟩, rfl⟩
    | @cell a hrest hcolon hform ha =>
      rw [beq_eq_false_iff_ne.2 hrest, hform, if_neg (by decide)]
      refine bind_eq_ok.2 ⟨a, mapError_eq_ok.2 ha, ?_⟩
      split
      · exact absurd rfl hcolon
      · rfl
    | @range a b after hrest hform ha hform' hb =>
      have hcalled : (rest.head? == some '(') = false := by
        rw [hrest]
        rfl
      rw [hcalled, hform, if_neg (by decide), hrest]
      refine bind_eq_ok.2 ⟨a, mapError_eq_ok.2 ha, ?_⟩
      show (if Address.hasForm (after.takeWhile isWordChar) then _ else _) = _
      rw [if_pos hform']
      exact bind_eq_ok.2 ⟨b, mapError_eq_ok.2 hb, rfl⟩

/-- A numeral begins with a character that no other token begins with. -/
theorem not_mem_of_startsNumeral {c : Char} {rest : List Char}
    (h : startsNumeral (c :: rest) = true) :
    Text.isBlank c = false ∧ c ∉ operatorMarks ∧ c ≠ '(' ∧ c ≠ ')' ∧ c ≠ ',' ∧ c ≠ '"' := by
  by_cases hc : c = '.'
  · subst hc
    decide
  · rw [startsNumeral_of_ne hc] at h
    exact not_mem_of_isDigit h

/-- **A lexeme is found by the rules.** -/
theorem lexeme_eq_ok_iff {position : Nat} {c : Char} {rest : List Char} {t : Token} {n : Nat} :
    lexeme position c rest = .ok (t, n) ↔ IsLexeme c rest t n := by
  constructor
  · intro h
    unfold lexeme at h
    split at h
    · next op m hop =>
      cases h
      exact .operator hop
    split at h
    · next hc =>
      subst hc
      cases h
      exact .leftParen
    split at h
    · next hc =>
      subst hc
      cases h
      exact .rightParen
    split at h
    · next hc =>
      subst hc
      cases h
      exact .comma
    split at h
    · next hc =>
      subst hc
      split at h
      · next s m hread =>
        cases h
        exact .text hread
      · cases h
    split at h
    · next hc =>
      dsimp only at h
      split at h
      · next x hx =>
        cases h
        exact .number hc hx
      · cases h
    split at h
    · next hc => exact .word hc (wordLexeme_eq_ok_iff.1 h)
    · cases h
  · intro h
    unfold lexeme
    cases h with
    | operator hop => rw [hop]
    | leftParen => rfl
    | rightParen => rfl
    | comma => rfl
    | text hread =>
      rw [operatorLexeme?_eq_none (by decide)]
      dsimp only
      rw [if_neg (by decide), if_neg (by decide), if_neg (by decide), if_pos rfl, hread]
    | number hc hx =>
      obtain ⟨-, hoperator, hleft, hright, hcomma, hquote⟩ := not_mem_of_startsNumeral hc
      rw [operatorLexeme?_eq_none hoperator]
      dsimp only
      rw [if_neg hleft, if_neg hright, if_neg hcomma, if_neg hquote, if_pos hc, hx]
    | word hc h =>
      obtain ⟨-, -, hoperator, hleft, hright, hcomma, hquote, -⟩ := not_mem_of_startsWord hc
      rw [operatorLexeme?_eq_none hoperator]
      dsimp only
      rw [if_neg hleft, if_neg hright, if_neg hcomma, if_neg hquote,
        if_neg (by rw [startsNumeral_of_startsWord hc]; decide), if_pos hc]
      exact wordLexeme_eq_ok_iff.2 h

/-! ### Lexemes are part of the text -/

theorem IsWordLexeme.le_length {word rest : List Char} {t : Token} {n : Nat}
    (h : IsWordLexeme word rest t n) : n ≤ word.length + rest.length := by
  cases h with
  | @range _ _ after hrest =>
    have htake := (List.takeWhile_prefix isWordChar (l := after)).length_le
    rw [hrest, List.length_cons]
    omega
  | _ => exact Nat.le_add_right _ _

theorem IsLexeme.le_length {c : Char} {rest : List Char} {t : Token} {n : Nat}
    (h : IsLexeme c rest t n) : n ≤ 1 + rest.length := by
  cases h with
  | operator hop =>
    unfold operatorLexeme? at hop
    split at hop <;> cases hop
    all_goals first
      | exact Nat.le_add_right _ _
      | exact Nat.add_le_add_left (Nat.succ_le_succ (Nat.zero_le _)) 1
  | text hread =>
    obtain ⟨after, rfl, -, rfl⟩ := TextLiteral.read_eq_some_iff.1 hread
    simp only [List.length_append, List.length_cons]
    omega
  | number =>
    rw [List.length_take, List.length_cons]
    omega
  | word _ h =>
    have hsplit := Text.length_takeWhile_add_dropWhile isWordChar rest
    have hle := h.le_length
    rw [List.length_cons] at hle
    omega
  | _ => exact Nat.le_add_right _ _

end Worksheet.Token
