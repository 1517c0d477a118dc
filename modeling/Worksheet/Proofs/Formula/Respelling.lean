import Worksheet.Proofs.Formula.Blanks
import Worksheet.Proofs.Formula.Neighbours
import Worksheet.Proofs.Formula.Parsing
import Worksheet.Proofs.Formula.Recased

/-!
# Other spellings of a formula

`Respelled s s'` says that `s'` has the tokens of `s` with letters in the other case, without some
of the marks and with other blanks between them.  In front of a token that may follow it in a
formula no token is read as a longer one (`stopsAt_of_scans`), so a formula keeps its tokens
(`Respelled.scans`) and its meaning.
-/

namespace Worksheet

open Text

namespace Token

variable {c : Char} {s s' rest : List Char} {t u : Token} {ts : List Token} {n : Nat}

/-! ### Where tokens begin -/

theorem IsLexeme.mem_delimiters (h : IsLexeme c rest u n) (hu : u.Closes) : c ∈ delimiters := by
  cases h with
  | operator hop =>
    by_contra hc
    have hmark : c ∉ operatorMarks := fun hmark =>
      hc (List.mem_cons_of_mem _ (List.mem_cons_of_mem _ hmark))
    exact nomatch hop.symm.trans (operatorLexeme?_eq_none hmark rest)
  | rightParen => decide
  | comma => decide
  | leftParen => exact hu.elim
  | text => exact hu.elim
  | number => exact hu.elim
  | word _ h => cases h <;> exact hu.elim

/-- What can begin an operand does not go on with an operator. -/
theorem IsLexeme.ne_of_opens (h : IsLexeme c rest u n) (hu : u.Opens) : c ≠ '=' ∧ c ≠ '>' := by
  have hmark : c ∉ operatorMarks → c ≠ '=' ∧ c ≠ '>' := by
    intro hc
    constructor
    · rintro rfl
      exact hc (by decide)
    · rintro rfl
      exact hc (by decide)
  cases h with
  | operator hop =>
    unfold operatorLexeme? at hop
    split at hop <;> cases hop
    all_goals first
      | decide
      | exact nomatch hu
  | rightParen => exact hu.elim
  | comma => exact hu.elim
  | leftParen => decide
  | text => decide
  | number hc => exact hmark (not_mem_of_startsNumeral hc).2.1
  | word hc => exact hmark (not_mem_of_startsWord hc).2.2.1

theorem IsLexeme.eq_of_leftParen (h : IsLexeme c rest .leftParen n) : c = '(' := by
  cases h with
  | leftParen => rfl
  | word _ h => cases h

/-- **Neighbours are not read together.** -/
theorem stopsAt_of_scans (h : Scans rest ts) (hts : Neighbours (t :: ts)) : t.StopsAt rest := by
  have hfirst : ∀ c, rest.head? = some c → isBlank c = true ∨
      ∃ u n more, IsLexeme c more u n ∧ t.MayPrecede u := by
    intro c hc
    obtain ⟨more, rfl⟩ := List.head?_eq_some_iff.1 hc
    cases hblank : isBlank c with
    | true => exact Or.inl rfl
    | false =>
      obtain ⟨u, n, us, rfl, hlexeme, -⟩ := (scans_cons hblank).1 h
      exact Or.inr ⟨u, n, more, hlexeme, (List.isChain_cons_cons.1 hts).1⟩
  have hseparated : (∀ u, t.MayPrecede u → u.Closes) → Separated rest := by
    intro hcloses c hc
    refine (hfirst c hc).imp_right ?_
    rintro ⟨u, n, more, hlexeme, hu⟩
    exact hlexeme.mem_delimiters (hcloses u hu)
  cases t with
  | operator op =>
    have hne : ∀ d, isBlank d = false → (∀ u n more, IsLexeme d more u n → u.Opens → False) →
        rest.head? ≠ some d := by
      intro d hblank hopens hd
      rcases hfirst d hd with hb | ⟨u, n, more, hlexeme, hu⟩
      · exact absurd (hblank.symm.trans hb) Bool.false_ne_true
      · exact hopens u n more hlexeme hu
    exact ⟨hne '=' (by decide) fun u n more hlexeme hu => (hlexeme.ne_of_opens hu).1 rfl,
      hne '>' (by decide) fun u n more hlexeme hu => (hlexeme.ne_of_opens hu).2 rfl⟩
  | leftParen => trivial
  | rightParen => trivial
  | comma => trivial
  | name f =>
    intro c hc
    rcases hfirst c hc with hb | ⟨u, n, more, hlexeme, rfl⟩
    · rw [Bool.eq_false_iff]
      exact fun hword => absurd ((not_isBlank_of_isWordChar hword).symm.trans hb) (by decide)
    · rw [hlexeme.eq_of_leftParen]
      decide
  | number x => exact hseparated fun u hu => hu
  | text s => exact hseparated fun u hu => hu
  | boolean b => exact hseparated fun u hu => hu
  | cell a => exact hseparated fun u hu => hu
  | range r => exact hseparated fun u hu => hu

/-! ### Respellings -/

/-- The second text has the tokens of the first one, but for the case of ASCII letters and for marks
that are left out, and it has any blanks around them.  The characters of a text literal stay, and so
does a bracket that stands directly behind a name. -/
inductive Respelled : List Char → List Char → Prop where
  | blanks {s s' : List Char} (hs : ∀ c ∈ s, isBlank c = true)
      (hs' : ∀ c ∈ s', isBlank c = true) : Respelled s s'
  | token {s s' w v rest rest' : List Char} {t : Token} (hs : ∀ c ∈ s, isBlank c = true)
      (hs' : ∀ c ∈ s', isBlank c = true) (hw : Spells w t rest) (hv : Recased w v)
      (htext : ∀ text, t = .text text → v = w)
      (hname : ∀ name, t = .name name → rest.head? = some '(' → rest'.head? = some '(')
      (hrest : Respelled rest rest') : Respelled (s ++ (w ++ rest)) (s' ++ (v ++ rest'))

theorem Respelled.cons_blank (h : Respelled s s') (hc : isBlank c = true) :
    Respelled (c :: s) (c :: s') := by
  cases h with
  | blanks hs hs' =>
    exact .blanks (List.forall_mem_cons.2 ⟨hc, hs⟩) (List.forall_mem_cons.2 ⟨hc, hs'⟩)
  | token hs hs' hw hv htext hname hrest =>
    exact .token (List.forall_mem_cons.2 ⟨hc, hs⟩) (List.forall_mem_cons.2 ⟨hc, hs'⟩) hw hv htext
      hname hrest

/-- **Every text that is split into tokens is a spelling of itself.** -/
theorem Respelled.refl {position : Nat} (h : scan position s = .ok ts) : Respelled s s := by
  fun_induction scan position s generalizing ts with
  | case1 position => exact .blanks (List.forall_mem_nil _) (List.forall_mem_nil _)
  | case2 position c rest hblank ih => exact (ih h).cons_blank hblank
  | case3 position c rest hblank ih =>
    obtain ⟨⟨t, n⟩, hlexeme, h⟩ := bind_eq_ok.1 h
    obtain ⟨others, hothers, h⟩ := bind_eq_ok.1 h
    obtain ⟨hpos, -⟩ := writtenAs_of_lexeme hlexeme
    have hfound := lexeme_eq_ok_iff.1 hlexeme
    have hle := hfound.le_length
    have hlength : (c :: rest.take (n - 1)).length = n := by
      rw [List.length_cons, List.length_take]
      omega
    have hspells : Spells (c :: rest.take (n - 1)) t (rest.drop (n - 1)) := by
      refine spells_of_isLexeme (Bool.eq_false_iff.2 hblank) ?_
      rwa [hlength, List.take_append_drop]
    have htoken := Respelled.token (List.forall_mem_nil _) (List.forall_mem_nil _) hspells
      (Recased.refl _) (fun _ _ => rfl) (fun _ _ hhead => hhead) (ih n hothers)
    rwa [List.nil_append, List.cons_append, List.take_append_drop] at htoken

/-- **Where its tokens can stand side by side, a text keeps them in every spelling.** -/
theorem Respelled.scans (h : Respelled s s') :
    ∃ ts, Scans s ts ∧ (Neighbours ts → Scans s' ts) := by
  induction h with
  | blanks hs hs' => exact ⟨[], scans_blanks hs, fun _ => scans_blanks hs'⟩
  | @token s s' w v rest rest' t hs hs' hw hv htext hname hrest ih =>
    obtain ⟨ts, hts, hts'⟩ := ih
    refine ⟨t :: ts, (scans_blanks_append hs).2 (hw.scans hts), fun hneighbours => ?_⟩
    have hothers := hts' (List.isChain_cons.1 hneighbours).2
    have hspells := (hw.matches.recased hv htext hname).spells
      (stopsAt_of_scans hothers hneighbours)
    exact (scans_blanks_append hs').2 (hspells.scans hothers)

theorem neighbours_of_withoutEquals (h : IsFramed (withoutEquals ts)) : Neighbours ts := by
  unfold withoutEquals at h
  split at h
  · exact h.neighbours_cons fun _ hu => hu
  · exact h.neighbours

end Token

namespace Expr

open Token

/-- **Spelling does not change meaning**: a formula is read as the same expression with its letters
in another case, without some of its marks and with other blanks between its tokens. -/
theorem ofText_of_respelled {s s' : String} {e : Expr} (hs : Respelled s.toList s'.toList)
    (h : ofText s = .ok e) : ofText s' = .ok e := by
  obtain ⟨ts, hts, hts'⟩ := hs.scans
  obtain ⟨tokens, hscan, htokens⟩ := bind_eq_ok.1 h
  obtain rfl := (scans_of_scan hscan).unique hts.formulaBody
  obtain ⟨n, hderives, -⟩ := ofTokens_eq_ok_iff.1 htokens
  have hbody := (hts' (neighbours_of_withoutEquals hderives.isFramed)).formulaBody
  exact bind_eq_ok.2 ⟨_, hbody 0, htokens⟩

/-- A call in small letters, with marks and blanks of its own. -/
theorem ofText_of_respelled_call :
    Respelled "=sum( $a$1 )".toList " = SUM($A1)".toList ∧
      ofText "=sum( $a$1 )" = .ok (.call "SUM" [.cell ⟨0, 0⟩]) ∧
      ofText " = SUM($A1)" = .ok (.call "SUM" [.cell ⟨0, 0⟩]) := by
  have hspace : ∀ c ∈ [' '], isBlank c = true := List.forall_mem_singleton.2 (by decide)
  have hclose : Respelled [' ', ')'] [')'] :=
    @Respelled.token [' '] [] [')'] [')'] [] [] .rightParen hspace nofun
      (spells_rightParen _) (Recased.refl _) nofun nofun (.blanks nofun nofun)
  have hcell : Respelled [' ', '$', 'a', '$', '1', ' ', ')'] ['$', 'A', '1', ')'] :=
    @Respelled.token [' '] [] ['$', 'a', '$', '1'] ['$', 'A', '1'] _ _ (.cell ⟨0, 0⟩) hspace
      nofun ⟨'$', _, rfl, by decide, fun _ => rfl⟩
      (.cons rfl (.cons rfl (.mark (.cons rfl .nil)))) nofun nofun hclose
  have hopen : Respelled ['(', ' ', '$', 'a', '$', '1', ' ', ')'] ['(', '$', 'A', '1', ')'] :=
    @Respelled.token [] [] ['('] ['('] _ _ .leftParen nofun nofun (spells_leftParen _)
      (Recased.refl _) nofun nofun hcell
  have hname : Respelled ['s', 'u', 'm', '(', ' ', '$', 'a', '$', '1', ' ', ')']
      [' ', 'S', 'U', 'M', '(', '$', 'A', '1', ')'] :=
    @Respelled.token [] [' '] ['s', 'u', 'm'] ['S', 'U', 'M'] _ _ (.name "SUM") nofun hspace
      ⟨'s', _, rfl, by decide, fun _ => rfl⟩ (.cons rfl (.cons rfl (.cons rfl .nil))) nofun
      (fun _ _ _ => rfl) hopen
  have hs : Respelled "=sum( $a$1 )".toList " = SUM($A1)".toList :=
    @Respelled.token [] [' '] ['='] ['='] _ _ (.operator (.relation .equal)) nofun hspace
      ⟨'=', _, rfl, by decide, fun _ => rfl⟩ (Recased.refl _) nofun nofun hname
  have hread : ofText "=sum( $a$1 )" = .ok (.call "SUM" [.cell ⟨0, 0⟩]) := by cbv
  exact ⟨hs, hread, ofText_of_respelled hs hread⟩

end Expr

end Worksheet
