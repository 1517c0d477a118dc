import Worksheet.Proofs.Formula.Spelling

/-!
# Lexemes at the end of a text

A lexeme is found by looking at the characters behind it.  Where the text is cut off behind the
lexeme the same lexeme is found, unless what was cut off began with the bracket that makes a name of
a word (`lexeme_of_append`).
-/

namespace Worksheet

/-- A text literal ends at its closing quote, whatever is cut off behind it. -/
theorem TextLiteral.read_of_append {t rest s : List Char} {n : Nat}
    (h : read (t ++ rest) = some (s, n)) (hn : n ≤ t.length) : read t = some (s, n) := by
  obtain ⟨after, heq, hafter, rfl⟩ := read_eq_some_iff.1 h
  have hread : body s ++ ['"'] <+: t ++ rest :=
    ⟨after, by rw [List.append_assoc, List.singleton_append, heq]⟩
  obtain ⟨more, rfl⟩ :=
    List.prefix_of_prefix_length_le hread (List.prefix_append _ _) (by simpa using hn)
  refine read_eq_some_iff.2 ⟨more, by simp, fun hmore => hafter ?_, rfl⟩
  have hcut : after = more ++ rest := by simpa using heq.symm
  rw [hcut, List.head?_append, hmore, Option.some_or]

namespace Token

variable {s rest : List Char}

/-! ### Operators -/

theorem operatorLexeme?_eq_none_iff {c : Char} :
    operatorLexeme? c s = none ↔ c ∉ operatorMarks := by
  refine ⟨fun h hc => ?_, fun h => operatorLexeme?_eq_none h s⟩
  unfold operatorLexeme? at h
  split at h
  all_goals first
    | contradiction
    | simp_all [operatorMarks]

theorem operatorLexeme?_of_append {c : Char} {op : Operator} {n : Nat}
    (h : operatorLexeme? c (s ++ rest) = some (op, n)) (hn : n ≤ s.length) :
    operatorLexeme? c s = some (op, n) := by
  unfold operatorLexeme? at h ⊢
  cases s with
  | nil =>
    split at h <;> simp_all
  | cons d s =>
    split at h <;> simp_all

/-! ### Numerals -/

/-- How many characters the sign at the front takes. -/
def signLength : List Char → Nat
  | '+' :: _ => 1
  | '-' :: _ => 1
  | _ => 0

theorem signLength_le (s : List Char) : signLength s ≤ 1 := by
  unfold signLength
  split <;> decide

theorem signLength_cons (d : Char) (s t : List Char) :
    signLength (d :: s) = signLength (d :: t) := by
  unfold signLength
  split <;> simp_all

theorem scaleLength_cons (c : Char) (s : List Char) :
    scaleLength (c :: s) =
      if c = 'e' || c = 'E' then
        if ((s.drop (signLength s)).takeWhile Char.isDigit).isEmpty then 0
        else 1 + signLength s + ((s.drop (signLength s)).takeWhile Char.isDigit).length
      else 0 := rfl

theorem scaleLength_of_append (h : scaleLength (s ++ rest) ≤ s.length) :
    scaleLength (s ++ rest) = scaleLength s := by
  cases s with
  | nil => exact Nat.le_zero.1 h
  | cons c s =>
    rw [List.cons_append, scaleLength_cons] at h
    rw [List.cons_append, scaleLength_cons, scaleLength_cons]
    split
    · next he =>
      rw [if_pos he] at h
      cases s with
      | nil =>
        rw [List.nil_append] at h ⊢
        split at h
        · next hempty =>
          rw [if_pos hempty]
          rfl
        · next hdigits =>
          -- the digits would stand behind the cut
          have hpos := List.length_pos_iff.2 fun hnil => hdigits (List.isEmpty_iff.2 hnil)
          rw [List.length_singleton] at h
          omega
      | cons d s =>
        have hle : signLength (d :: s) ≤ (d :: s).length :=
          Nat.le_trans (signLength_le _) (Nat.succ_le_succ (Nat.zero_le _))
        rw [List.cons_append, signLength_cons d (s ++ rest) s, ← List.cons_append,
          List.drop_append_of_le_length hle] at h ⊢
        rw [(Text.takeWhile_append_of_le ?_).1]
        split at h
        · next hempty =>
          rw [List.isEmpty_iff.1 hempty]
          exact Nat.zero_le _
        · rw [List.length_drop]
          rw [List.length_cons] at h
          omega
    · rfl

/-- How many characters the point with its digits and the power of ten take. -/
def tailLength : List Char → Nat
  | '.' :: rest =>
    1 + (rest.takeWhile Char.isDigit).length + scaleLength (rest.dropWhile Char.isDigit)
  | rest => scaleLength rest

theorem tailLength_of_head?_ne (h : s.head? ≠ some '.') : tailLength s = scaleLength s := by
  unfold tailLength
  split
  · exact absurd rfl h
  · rfl

theorem numeralLength_eq (s : List Char) :
    numeralLength s =
      (s.takeWhile Char.isDigit).length + tailLength (s.dropWhile Char.isDigit) := by
  unfold numeralLength
  split
  · next rest heq =>
    rw [heq, tailLength, ← Nat.add_assoc, ← Nat.add_assoc]
  · next hpoint =>
    rw [tailLength_of_head?_ne fun h => ?_]
    obtain ⟨rest, heq⟩ := List.head?_eq_some_iff.1 h
    exact hpoint rest heq

theorem tailLength_of_append (h : tailLength (s ++ rest) ≤ s.length) :
    tailLength (s ++ rest) = tailLength s := by
  cases s with
  | nil => exact Nat.le_zero.1 h
  | cons d s =>
    by_cases hd : d = '.'
    · subst hd
      have hlength := Text.length_takeWhile_add_dropWhile Char.isDigit s
      rw [List.cons_append, tailLength, List.length_cons] at h
      rw [List.cons_append, tailLength, tailLength]
      have hdigits : ((s ++ rest).takeWhile Char.isDigit).length ≤ s.length := by omega
      obtain ⟨htake, hdrop⟩ := Text.takeWhile_append_of_le hdigits
      rw [htake, hdrop] at h ⊢
      rw [scaleLength_of_append (by omega)]
    · have hscale : ∀ t, tailLength (d :: t) = scaleLength (d :: t) := fun t =>
        tailLength_of_head?_ne fun heq => hd (Option.some.inj heq)
      rw [List.cons_append, hscale] at h
      rw [List.cons_append, hscale, hscale]
      exact scaleLength_of_append (s := d :: s) h

theorem numeralLength_pos {c : Char} (h : startsNumeral (c :: s) = true) :
    0 < numeralLength (c :: s) := by
  rw [numeralLength_eq]
  by_cases hc : c = '.'
  · subst hc
    rw [List.dropWhile_cons_of_neg (by decide), tailLength]
    omega
  · rw [startsNumeral_of_ne hc] at h
    rw [List.takeWhile_cons_of_pos h, List.length_cons]
    omega

theorem numeralLength_of_append (h : numeralLength (s ++ rest) ≤ s.length) :
    numeralLength (s ++ rest) = numeralLength s := by
  have hlength := Text.length_takeWhile_add_dropWhile Char.isDigit s
  rw [numeralLength_eq] at h
  rw [numeralLength_eq, numeralLength_eq]
  obtain ⟨htake, hdrop⟩ := Text.takeWhile_append_of_le (Nat.le_trans (Nat.le_add_right _ _) h)
  rw [htake, hdrop] at h ⊢
  rw [tailLength_of_append (by omega)]

theorem take_numeralLength_of_append (h : numeralLength (s ++ rest) ≤ s.length) :
    (s ++ rest).take (numeralLength (s ++ rest)) = s.take (numeralLength s) := by
  rw [List.take_append_of_le_length h, numeralLength_of_append h]

/-- A point that begins a numeral takes the digit behind it. -/
theorem startsNumeral_of_append {c : Char} {b : Bool} (h : startsNumeral (c :: (s ++ rest)) = b)
    (hlength : b = true → numeralLength (c :: (s ++ rest)) ≤ (c :: s).length) :
    startsNumeral (c :: s) = b := by
  by_cases hc : c = '.'
  · subst hc
    cases s with
    | cons d s => exact h
    | nil =>
      cases rest with
      | nil => exact h
      | cons d rest =>
        cases b with
        | false => rfl
        | true =>
          -- the point and the digit would not both fit before the cut
          have hle := hlength rfl
          have hd : d.isDigit = true := h
          rw [List.nil_append, numeralLength_eq, List.takeWhile_cons_of_neg (by decide),
            List.dropWhile_cons_of_neg (by decide), tailLength,
            List.takeWhile_cons_of_pos hd, List.length_cons, List.length_cons] at hle
          omega
  · rw [startsNumeral_of_ne hc] at h ⊢
    exact h

/-! ### Words -/

theorem wordLexeme_of_append {position n : Nat} {word : List Char} {t : Token}
    (hrest : rest.head? ≠ some '(') (h : wordLexeme position word (s ++ rest) = .ok (t, n))
    (hn : n ≤ word.length + s.length) : wordLexeme position word s = .ok (t, n) := by
  have hcalled : ((s ++ rest).head? == some '(') = (s.head? == some '(') := by
    cases s with
    | nil => exact beq_eq_false_iff_ne.2 hrest
    | cons d s => rfl
  unfold wordLexeme at h ⊢
  dsimp only at h ⊢
  rw [hcalled] at h
  split at h
  · next hname =>
    rw [if_pos hname]
    exact h
  · next haddress =>
    rw [if_neg haddress]
    obtain ⟨first, hfirst, h⟩ := bind_eq_ok.1 h
    refine bind_eq_ok.2 ⟨first, hfirst, ?_⟩
    clear haddress hcalled
    cases s with
    | nil =>
      -- a colon behind the cut would make the word a range, which is longer
      split at h
      · split at h
        · obtain ⟨last, hlast, h⟩ := bind_eq_ok.1 h
          cases h
          rw [List.length_nil] at hn
          omega
        · cases h
      · exact h
    | cons d s =>
      rw [List.cons_append] at h
      split at h
      · next after heq =>
        obtain ⟨rfl, rfl⟩ := List.cons.inj heq
        split at h
        · next hform =>
          obtain ⟨last, hlast, h⟩ := bind_eq_ok.1 h
          cases h
          rw [List.length_cons] at hn
          have hle : ((s ++ rest).takeWhile isWordChar).length ≤ s.length := by omega
          have htake := (Text.takeWhile_append_of_le hle).1
          rw [htake] at hform hlast ⊢
          show (if Address.hasForm (s.takeWhile isWordChar) then _ else _) = _
          rw [if_pos hform]
          exact bind_eq_ok.2 ⟨last, hlast, rfl⟩
        · cases h
      · next hcolon =>
        split
        · next heq => exact absurd (congrArg (· ++ rest) heq) (hcolon _)
        · exact h

/-- **A lexeme stays the same where the text is cut off behind it.** -/
theorem lexeme_of_append {position n : Nat} {c : Char} {t : Token}
    (hrest : rest.head? ≠ some '(') (h : lexeme position c (s ++ rest) = .ok (t, n))
    (hn : n ≤ 1 + s.length) : lexeme position c s = .ok (t, n) := by
  rcases Nat.eq_zero_or_pos rest.length with hnil | hpos
  · rwa [List.length_eq_zero_iff.1 hnil, List.append_nil] at h
  unfold lexeme at h
  split at h
  · next op m hop =>
    cases h
    rw [lexeme, operatorLexeme?_of_append hop (Nat.le_of_add_le_add_left hn)]
  next hop =>
  rw [lexeme, operatorLexeme?_eq_none_iff.2 (operatorLexeme?_eq_none_iff.1 hop)]
  dsimp only
  split at h
  · next hc => rwa [if_pos hc]
  next hleft =>
  rw [if_neg hleft]
  split at h
  · next hc => rwa [if_pos hc]
  next hright =>
  rw [if_neg hright]
  split at h
  · next hc => rwa [if_pos hc]
  next hcomma =>
  rw [if_neg hcomma]
  split at h
  · next hc =>
    rw [if_pos hc]
    split at h
    · next s' m hread =>
      cases h
      rw [TextLiteral.read_of_append hread (Nat.le_of_add_le_add_left hn)]
    · cases h
  next hquote =>
  rw [if_neg hquote]
  split at h
  · next hnumeral =>
    dsimp only at h
    split at h
    · next x hx =>
      cases h
      have hlength : numeralLength (c :: (s ++ rest)) ≤ (c :: s).length := by
        rw [List.length_take] at hn
        simp only [List.length_cons, List.length_append] at hn ⊢
        omega
      have hnumeral' : startsNumeral (c :: s) = true :=
        startsNumeral_of_append hnumeral fun _ => hlength
      rw [← List.cons_append, take_numeralLength_of_append hlength] at hx ⊢
      rw [if_pos hnumeral', hx]
    · cases h
  next hnumeral =>
  have hstarts := startsNumeral_of_append (Bool.eq_false_iff.2 hnumeral)
    fun hfalse => absurd hfalse Bool.false_ne_true
  rw [if_neg (Bool.eq_false_iff.1 hstarts)]
  split at h
  · next hword =>
    rw [if_pos hword]
    have hlength := (writtenAs_of_wordLexeme
      ⟨c, _, rfl, hword, List.all_eq_true.1 List.all_takeWhile⟩ h).1
    rw [List.length_cons] at hlength
    have hle : ((s ++ rest).takeWhile isWordChar).length ≤ s.length := by omega
    obtain ⟨htake, hdrop⟩ := Text.takeWhile_append_of_le hle
    rw [htake, hdrop] at h
    have hs := Text.length_takeWhile_add_dropWhile isWordChar s
    refine wordLexeme_of_append hrest h ?_
    rw [List.length_cons]
    omega
  · cases h

end Token

end Worksheet
