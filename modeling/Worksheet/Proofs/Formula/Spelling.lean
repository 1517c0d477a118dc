import Worksheet.Proofs.Formula.Lexemes
import Worksheet.Proofs.Grid.Spelling
import Worksheet.Proofs.Number.Spelling

/-!
# How tokens are spelled

`Token.WrittenAs` says which characters are a token.  A text that is split into tokens is made of
them, in order and with nothing but blanks between them (`madeOf_of_scan`).
-/

namespace Worksheet

/-! ### Text literals -/

/-- A text literal is read up to the first quote that is not doubled. -/
theorem TextLiteral.read_eq_some_iff {t s : List Char} {n : Nat} :
    read t = some (s, n) ↔
      ∃ rest, t = body s ++ '"' :: rest ∧ rest.head? ≠ some '"' ∧ n = (body s).length + 1 := by
  constructor
  · intro h
    fun_induction read t generalizing s n with
    | case1 => cases h
    | case2 t ih =>
      obtain ⟨⟨s, n⟩, hread, h⟩ := Option.map_eq_some_iff.1 h
      cases h
      obtain ⟨rest, rfl, hrest, rfl⟩ := ih hread
      exact ⟨rest, rfl, hrest, rfl⟩
    | case3 t hquote =>
      cases h
      refine ⟨t, rfl, fun hhead => ?_, rfl⟩
      obtain ⟨rest, rfl⟩ := List.head?_eq_some_iff.1 hhead
      exact hquote rest rfl
    | case4 c t _ hc ih =>
      obtain ⟨⟨s, n⟩, hread, h⟩ := Option.map_eq_some_iff.1 h
      cases h
      obtain ⟨rest, rfl, hrest, rfl⟩ := ih hread
      have hbody : body (c :: s) = c :: body s := if_neg hc
      exact ⟨rest, by rw [hbody]; rfl, hrest, by rw [hbody]; rfl⟩
  · rintro ⟨rest, rfl, hrest, rfl⟩
    exact read_body s hrest

namespace Token

/-! ### Spellings -/

/-- A letter or one of the marks that begin a word, and characters that may stand in one. -/
def IsWord (w : List Char) : Prop :=
  ∃ c cs, w = c :: cs ∧ startsWord c = true ∧ ∀ d ∈ cs, isWordChar d = true

theorem IsWord.forall_isWordChar {w : List Char} (h : IsWord w) :
    ∀ c ∈ w, isWordChar c = true := by
  obtain ⟨c, cs, rfl, hc, hcs⟩ := h
  exact List.forall_mem_cons.2 ⟨isWordChar_of_startsWord hc, hcs⟩

/-- The characters are a spelling of the token. -/
inductive WrittenAs : Token → List Char → Prop where
  /-- The number is the one that the value of the numeral rounds to. -/
  | number {w : List Char} {n : Number.Numeral} {x : Float} (hn : n.WrittenAs w)
      (hx : Number.IsRounded x n.value) : WrittenAs (.number x) w
  /-- Between two quotes stands the text, with every quote in it doubled. -/
  | text (s : String) : WrittenAs (.text s) ('"' :: TextLiteral.body s.toList ++ ['"'])
  | boolean {w : List Char} {b : Bool} (hw : IsWord w) (hmark : '$' ∉ w)
      (hupper : Text.asciiUpper (String.ofList w) = Value.truthWord b) : WrittenAs (.boolean b) w
  | name {w : List Char} (hw : IsWord w) (hmark : '$' ∉ w) :
      WrittenAs (.name (Text.asciiUpper (String.ofList w))) w
  | cell {w : List Char} {a : Address} (ha : a.WrittenAs w) : WrittenAs (.cell a) w
  /-- Two opposite corners stand around a colon. -/
  | range {v w : List Char} {a b : Address} {r : Range} (ha : a.WrittenAs v) (hb : b.WrittenAs w)
      (hfirst : r.first = ⟨min a.row b.row, min a.col b.col⟩)
      (hlast : r.last = ⟨max a.row b.row, max a.col b.col⟩) : WrittenAs (.range r) (v ++ ':' :: w)
  | operator (op : Operator) : WrittenAs (.operator op) op.chars
  | leftParen : WrittenAs .leftParen ['(']
  | rightParen : WrittenAs .rightParen [')']
  | comma : WrittenAs .comma [',']

/-- The text is made of these tokens, each in a spelling of its own, and of blanks around them. -/
inductive MadeOf : List Char → List Token → Prop where
  | blanks {s : List Char} (hs : ∀ c ∈ s, Text.isBlank c = true) : MadeOf s []
  | token {s w rest : List Char} {t : Token} {ts : List Token}
      (hs : ∀ c ∈ s, Text.isBlank c = true) (hw : t.WrittenAs w) (hrest : MadeOf rest ts) :
      MadeOf (s ++ w ++ rest) (t :: ts)

theorem MadeOf.cons_blank {c : Char} {s : List Char} {ts : List Token}
    (hc : Text.isBlank c = true) (h : MadeOf s ts) : MadeOf (c :: s) ts := by
  cases h with
  | blanks hs => exact .blanks (List.forall_mem_cons.2 ⟨hc, hs⟩)
  | token hs hw hrest => exact .token (List.forall_mem_cons.2 ⟨hc, hs⟩) hw hrest

/-! ### Lexemes -/

theorem take_of_operatorLexeme? {c : Char} {s : List Char} {op : Operator} {n : Nat}
    (h : operatorLexeme? c s = some (op, n)) : (c :: s).take (1 + n) = op.chars := by
  unfold operatorLexeme? at h
  split at h <;> cases h <;> rfl

theorem eq_truthWord_of_truthOfWord? {s : String} {b : Bool} (hs : Text.asciiUpper s = s)
    (h : Value.truthOfWord? s = some b) : s = Value.truthWord b := by
  have heq : ∀ {b}, Text.asciiEq s (Value.truthWord b) = true → s = Value.truthWord b := by
    intro b hb
    have hlist : Text.asciiUpper s = Text.asciiUpper (Value.truthWord b) :=
      congrArg String.ofList (eq_of_beq hb)
    have hword : Text.asciiUpper (Value.truthWord b) = Value.truthWord b := by
      cases b <;> rfl
    rw [← hs, hlist, hword]
  unfold Value.truthOfWord? at h
  split at h
  · next htrue =>
    cases h
    exact heq htrue
  split at h
  · next hfalse =>
    cases h
    exact heq hfalse
  · cases h

section Word

variable {position : Nat} {word : List Char} (hword : IsWord word)
include hword

theorem writtenAs_of_nameToken {called : Bool} {t : Token}
    (h : nameToken position word called = .ok t) : t.WrittenAs word := by
  unfold nameToken at h
  split at h
  · cases h
  next hcontains =>
  have hmark : '$' ∉ word := by simpa using hcontains
  dsimp only at h
  split at h
  · cases h
    exact .name hword hmark
  split at h
  · next b htruth =>
    cases h
    exact .boolean hword hmark
      (eq_truthWord_of_truthOfWord? (Text.asciiUpper_asciiUpper _) htruth)
  · cases h
    exact .name hword hmark

theorem writtenAs_of_wordLexeme {rest : List Char} {t : Token} {n : Nat}
    (h : wordLexeme position word rest = .ok (t, n)) :
    word.length ≤ n ∧ t.WrittenAs ((word ++ rest).take n) := by
  unfold wordLexeme at h
  dsimp only at h
  split at h
  · obtain ⟨t', ht, h⟩ := map_eq_ok.1 h
    cases h
    rw [List.take_left]
    exact ⟨Nat.le_refl _, writtenAs_of_nameToken hword ht⟩
  · obtain ⟨first, hfirst, h⟩ := bind_eq_ok.1 h
    have ha := Address.writtenAs_of_readTrimmed (mapError_eq_ok.1 hfirst)
    split at h
    · next after _ _ =>
      split at h
      · obtain ⟨last, hlast, h⟩ := bind_eq_ok.1 h
        have hb := Address.writtenAs_of_readTrimmed (mapError_eq_ok.1 hlast)
        cases h
        have hafter : after.takeWhile isWordChar ++ after.dropWhile isWordChar = after :=
          List.takeWhile_append_dropWhile
        have hsplit : word ++ ':' :: after = word ++ ':' :: after.takeWhile isWordChar ++
            after.dropWhile isWordChar := by
          rw [List.append_assoc, List.cons_append, hafter]
        have hlength : word.length + 1 + (after.takeWhile isWordChar).length =
            (word ++ ':' :: after.takeWhile isWordChar).length := by
          rw [List.length_append, List.length_cons]
          omega
        refine ⟨by omega, ?_⟩
        rw [hsplit, hlength, List.take_left]
        exact .range ha hb rfl rfl
      · cases h
    · cases h
      rw [List.take_left]
      exact ⟨Nat.le_refl _, .cell ha⟩

end Word

/-- **A lexeme spells its token.** -/
theorem writtenAs_of_lexeme {position n : Nat} {c : Char} {rest : List Char} {t : Token}
    (h : lexeme position c rest = .ok (t, n)) : 0 < n ∧ t.WrittenAs ((c :: rest).take n) := by
  unfold lexeme at h
  split at h
  · next op m hop =>
    cases h
    rw [take_of_operatorLexeme? hop]
    exact ⟨by omega, .operator op⟩
  split at h
  · next hc =>
    cases h
    rw [hc]
    exact ⟨Nat.one_pos, .leftParen⟩
  split at h
  · next hc =>
    cases h
    rw [hc]
    exact ⟨Nat.one_pos, .rightParen⟩
  split at h
  · next hc =>
    cases h
    rw [hc]
    exact ⟨Nat.one_pos, .comma⟩
  split at h
  · next hc =>
    split at h
    · next s m hread =>
      cases h
      obtain ⟨after, rfl, -, rfl⟩ := TextLiteral.read_eq_some_iff.1 hread
      have htake : (c :: (TextLiteral.body s ++ '"' :: after)).take
          (1 + ((TextLiteral.body s).length + 1)) = '"' :: TextLiteral.body s ++ ['"'] := by
        rw [hc, Nat.add_comm 1, List.take_succ_cons, List.take_append]
        simp
      rw [htake]
      have hwritten := WrittenAs.text (String.ofList s)
      rw [String.toList_ofList] at hwritten
      exact ⟨by omega, hwritten⟩
    · cases h
  split at h
  · next hnumeral =>
    dsimp only at h
    split at h
    · next x hx =>
      cases h
      obtain ⟨k, hk, hrounded⟩ := Number.exists_writtenAs_of_readFinite?
        (head?_numeral_ne hnumeral (by decide) (by decide) _)
        (head?_numeral_ne hnumeral (by decide) (by decide) _) hx
      refine ⟨List.length_pos_of_ne_nil fun hnil => ?_, ?_⟩
      · rw [hnil] at hx
        cases hx
      · rw [List.length_take, ← List.take_eq_take_min]
        exact .number hk hrounded
    · cases h
  split at h
  · next hc =>
    have hsplit : c :: rest =
        c :: rest.takeWhile isWordChar ++ rest.dropWhile isWordChar := by
      rw [List.cons_append, List.takeWhile_append_dropWhile]
    obtain ⟨hlength, hw⟩ :=
      writtenAs_of_wordLexeme ⟨c, _, rfl, hc, List.all_eq_true.1 List.all_takeWhile⟩ h
    rw [hsplit]
    exact ⟨Nat.lt_of_lt_of_le (Nat.succ_pos _) hlength, hw⟩
  · cases h

/-- **A text is made of its tokens.** -/
theorem madeOf_of_scan {position : Nat} {s : List Char} {tokens : List Token}
    (h : scan position s = .ok tokens) : MadeOf s tokens := by
  fun_induction scan position s generalizing tokens with
  | case1 position =>
    cases h
    exact .blanks (List.forall_mem_nil _)
  | case2 position c rest hblank ih => exact (ih h).cons_blank hblank
  | case3 position c rest hblank ih =>
    obtain ⟨⟨token, n⟩, hlexeme, h⟩ := bind_eq_ok.1 h
    obtain ⟨others, hothers, h⟩ := bind_eq_ok.1 h
    cases h
    obtain ⟨hpos, hw⟩ := writtenAs_of_lexeme hlexeme
    have hsplit : (c :: rest).take n ++ rest.drop (n - 1) = c :: rest := by
      rw [← List.drop_succ_cons (a := c), Nat.sub_add_cancel hpos, List.take_append_drop]
    have hmade := MadeOf.token (List.forall_mem_nil _) hw (ih n hothers)
    rwa [List.nil_append, hsplit] at hmade

end Token

end Worksheet
