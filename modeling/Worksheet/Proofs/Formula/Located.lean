import Worksheet.Proofs.Formula.Prefix

/-!
# What splitting a text tells about it

Either the text is made of its tokens, or the error names a place in it: the character that begins
no token, or the quote that nothing closes, both with a text before them that can be split by
itself, or the characters that only look like a token (`explains_ofText`).
-/

namespace Worksheet.Token

/-- No token begins with the character in front of the rest. -/
structure IsStray (c : Char) (rest : List Char) : Prop where
  operator : c ∉ operatorMarks
  delimiter : c ≠ '(' ∧ c ≠ ')' ∧ c ≠ ',' ∧ c ≠ '"'
  numeral : startsNumeral (c :: rest) = false
  word : startsWord c = false

/-- The error is about this text, which begins at the position. -/
inductive FailsIn (position : Nat) : List Char → FormulaError → Prop where
  /-- The text before the character can be split by itself. -/
  | strayChar (before : List Char) {tokens : List Token} {c : Char} {rest : List Char}
      (hbefore : scan position before = .ok tokens) (hc : IsStray c rest) :
      FailsIn position (before ++ c :: rest) (.strayChar (position + Text.byteLength before) c)
  /-- Behind the quote no other one closes the text literal. -/
  | openText (before : List Char) {tokens : List Token} {rest : List Char}
      (hbefore : scan position before = .ok tokens) (hrest : TextLiteral.read rest = none) :
      FailsIn position (before ++ '"' :: rest) (.openText (position + Text.byteLength before))
  | badToken (before : List Char) {w : List Char} (rest : List Char) (hw : w ≠ []) :
      FailsIn position (before ++ (w ++ rest))
        (.badToken (position + Text.byteLength before) (String.ofList w))

/-- The error stays about the text if what is put in front of it can be split as well. -/
theorem FailsIn.append {position : Nat} {w s : List Char} {e : FormulaError}
    (hsplit : ∀ before d rest tokens, s = before ++ d :: rest → d ≠ '(' →
      scan (position + Text.byteLength w) before = .ok tokens →
      ∃ tokens, scan position (w ++ before) = .ok tokens)
    (h : FailsIn (position + Text.byteLength w) s e) : FailsIn position (w ++ s) e := by
  cases h with
  | strayChar before hbefore hc =>
    obtain ⟨tokens, htokens⟩ := hsplit before _ _ _ rfl hc.delimiter.1 hbefore
    have h := FailsIn.strayChar (w ++ before) htokens hc
    rwa [Text.byteLength_append, ← Nat.add_assoc, List.append_assoc] at h
  | openText before hbefore hrest =>
    obtain ⟨tokens, htokens⟩ := hsplit before _ _ _ rfl (by decide) hbefore
    have h := FailsIn.openText (w ++ before) htokens hrest
    rwa [Text.byteLength_append, ← Nat.add_assoc, List.append_assoc] at h
  | badToken before rest hv =>
    rw [Nat.add_assoc, ← Text.byteLength_append, ← List.append_assoc]
    exact .badToken (w ++ before) rest hv

/-! ### Lexemes -/

theorem scan_nil (position : Nat) : scan position [] = .ok [] := by
  rw [scan]

/-- What looks like a token at the front. -/
theorem failsIn_front (position : Nat) {w : List Char} (hw : w ≠ []) (rest : List Char) :
    FailsIn position (w ++ rest) (.badToken position (String.ofList w)) :=
  .badToken [] rest hw

theorem failsIn_of_wordLexeme {position : Nat} {word rest : List Char} {e : FormulaError}
    (hword : word ≠ []) (h : wordLexeme position word rest = .error e) :
    FailsIn position (word ++ rest) e := by
  unfold wordLexeme at h
  dsimp only at h
  split at h
  · have hname := map_eq_error.1 h
    unfold nameToken at hname
    split at hname
    · cases hname
      exact failsIn_front position hword rest
    dsimp only at hname
    split at hname
    · cases hname
    split at hname
    · cases hname
    · cases hname
  rcases bind_eq_error.1 h with hfirst | ⟨first, -, h⟩
  · obtain ⟨_, -, rfl⟩ := mapError_eq_error.1 hfirst
    exact failsIn_front position hword rest
  split at h
  · next after _ _ =>
    have hafter : after.takeWhile isWordChar ++ after.dropWhile isWordChar = after :=
      List.takeWhile_append_dropWhile
    split at h
    · next hform =>
      have hsecond : after.takeWhile isWordChar ≠ [] := by
        intro hnil
        rw [hnil] at hform
        exact absurd hform (by decide)
      rcases bind_eq_error.1 h with hlast | ⟨last, -, h⟩
      · obtain ⟨_, -, rfl⟩ := mapError_eq_error.1 hlast
        have hfails : FailsIn position _ _ := .badToken (word ++ [':'])
          (after.dropWhile isWordChar) hsecond
        rwa [Text.byteLength_append, ← Nat.add_assoc, hafter, List.append_assoc,
          List.singleton_append] at hfails
      · cases h
    · cases h
      have hrange : word ++ ':' :: after.takeWhile isWordChar ≠ [] := by simp
      have hfails := failsIn_front position hrange (after.dropWhile isWordChar)
      rwa [List.append_assoc, List.cons_append, hafter] at hfails
  · cases h

theorem failsIn_of_lexeme {position : Nat} {c : Char} {rest : List Char} {e : FormulaError}
    (h : lexeme position c rest = .error e) : FailsIn position (c :: rest) e := by
  unfold lexeme at h
  split at h
  · cases h
  next hop =>
  split at h
  · cases h
  next hleft =>
  split at h
  · cases h
  next hright =>
  split at h
  · cases h
  next hcomma =>
  split at h
  · next hc =>
    split at h
    · cases h
    · next hread =>
      cases h
      rw [hc]
      exact .openText [] (scan_nil position) hread
  next hquote =>
  split at h
  · next hnumeral =>
    dsimp only at h
    split at h
    · cases h
    · cases h
      have hne : (c :: rest).take (numeralLength (c :: rest)) ≠ [] := by
        rw [Ne, List.take_eq_nil_iff, not_or]
        exact ⟨(numeralLength_pos hnumeral).ne', List.cons_ne_nil c rest⟩
      have hfails := failsIn_front position hne ((c :: rest).drop (numeralLength (c :: rest)))
      rwa [List.take_append_drop] at hfails
  next hnumeral =>
  split at h
  · have hfails := failsIn_of_wordLexeme (List.cons_ne_nil _ _) h
    rwa [List.cons_append, List.takeWhile_append_dropWhile] at hfails
  · next hword =>
    cases h
    exact .strayChar [] (scan_nil position) ⟨operatorLexeme?_eq_none_iff.1 hop,
      ⟨hleft, hright, hcomma, hquote⟩, Bool.eq_false_iff.2 hnumeral, Bool.eq_false_iff.2 hword⟩

/-! ### Texts -/

/-- What was split behind a lexeme is split behind it again where the text is cut off. -/
theorem scan_of_lexeme {position n : Nat} {c d : Char} {rest before after : List Char} {t : Token}
    {tokens : List Token} (hblank : ¬ Text.isBlank c = true)
    (hlexeme : lexeme position c rest = .ok (t, n))
    (hrest : rest.drop (n - 1) = before ++ d :: after) (hd : d ≠ '(')
    (hbefore : scan (position + Text.byteLength (c :: rest.take (n - 1))) before = .ok tokens) :
    scan position (c :: rest.take (n - 1) ++ before) = .ok (t :: tokens) := by
  have hlength : n - 1 ≤ rest.length := by
    have hdrop := congrArg List.length hrest
    rw [List.length_drop, List.length_append, List.length_cons] at hdrop
    omega
  have htake : (rest.take (n - 1)).length = n - 1 := List.length_take_of_le hlength
  have hhead : (d :: after).head? ≠ some '(' := fun hhead => hd (Option.some.inj hhead)
  have hcut : lexeme position c (rest.take (n - 1) ++ before) = .ok (t, n) := by
    refine lexeme_of_append hhead ?_ ?_
    · rwa [List.append_assoc, ← hrest, List.take_append_drop]
    · rw [List.length_append]
      omega
  rw [List.cons_append, scan, if_neg hblank]
  refine bind_eq_ok.2 ⟨(t, n), hcut, bind_eq_ok.2 ⟨tokens, ?_, rfl⟩⟩
  rw [List.take_left' htake, List.drop_left' htake]
  exact hbefore

/-- **An error of splitting a text names the place.** -/
theorem failsIn_of_scan {position : Nat} {s : List Char} {e : FormulaError}
    (h : scan position s = .error e) : FailsIn position s e := by
  fun_induction scan position s with
  | case1 position => cases h
  | case2 position c rest hblank ih =>
    have hbyte : position + c.utf8Size = position + Text.byteLength [c] := rfl
    rw [hbyte] at ih
    refine (ih h).append fun before d after tokens _ _ hbefore => ⟨tokens, ?_⟩
    rw [List.singleton_append, scan, if_pos hblank]
    exact hbefore
  | case3 position c rest hblank ih =>
    rcases bind_eq_error.1 h with hlexeme | ⟨⟨token, n⟩, hlexeme, h⟩
    · exact failsIn_of_lexeme hlexeme
    rcases bind_eq_error.1 h with hscan | ⟨others, -, h⟩
    · have hsplit : c :: rest.take (n - 1) ++ rest.drop (n - 1) = c :: rest := by
        rw [List.cons_append, List.take_append_drop]
      have hfails := (ih n hscan).append fun _ _ _ tokens hrest hd hbefore =>
        ⟨token :: tokens, scan_of_lexeme hblank hlexeme hrest hd hbefore⟩
      rwa [hsplit] at hfails
    · cases h

/-- What splitting a text tells about it. -/
def Explains (s : List Char) : Except FormulaError (List Token) → Prop
  | .ok tokens => MadeOf s tokens
  | .error e => FailsIn 0 s e

/-- **Splitting a text loses nothing, and its errors name the place.** -/
theorem explains_ofText (s : String) : Explains s.toList (ofText s) := by
  cases h : ofText s with
  | ok tokens => exact madeOf_of_scan h
  | error e => exact failsIn_of_scan h

end Worksheet.Token
