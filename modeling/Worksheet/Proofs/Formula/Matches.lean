import Worksheet.Proofs.Formula.LexemeRules
import Worksheet.Proofs.Formula.Prefix
import Worksheet.Proofs.Grid.Notation

/-!
# What the scanner finds out about a token

`Token.Matches` is what the scanner finds out about the characters of a token (`Spells.matches`).
In front of what cannot go on with the token, characters that match it are this token
(`Matches.spells`).
-/

namespace Worksheet.Token

open Text

variable {s w rest : List Char}

/-! ### Words -/

theorem isWord_of_hasForm (h : Address.hasForm w = true) : IsWord w := by
  obtain ⟨letters, digits, hform⟩ := Address.hasForm_iff.1 h
  obtain ⟨hmark, hmark', hne, hletters, -, hdigits⟩ := hform
  obtain ⟨c, cs, rfl⟩ := List.exists_cons_of_ne_nil hne
  have hc := hletters c List.mem_cons_self
  have halnum : ∀ d : Char, d.isAlpha = true ∨ d.isDigit = true → isWordChar d = true := by
    intro d hd
    apply isWordChar_of_isAlphanum
    simpa [Char.isAlphanum] using hd
  have hcs : ∀ d ∈ cs, isWordChar d = true := fun d hd =>
    halnum d (Or.inl (hletters d (List.mem_cons_of_mem c hd)))
  have hback : ∀ {mark : List Char}, Address.IsMark mark → ∀ d ∈ mark, isWordChar d = true := by
    rintro mark (rfl | rfl)
    · exact List.forall_mem_nil _
    · exact List.forall_mem_singleton.2 (by decide)
  have hrest : ∀ d ∈ cs ++ (_ ++ _), isWordChar d = true :=
    List.forall_mem_append.2 ⟨hcs, List.forall_mem_append.2
      ⟨hback hmark', fun d hd => halnum d (Or.inr (hdigits d hd))⟩⟩
  obtain rfl | rfl := hmark
  · refine ⟨c, _, rfl, ?_, hrest⟩
    simp [startsWord, hc]
  · refine ⟨'$', _, rfl, by decide, List.forall_mem_cons.2 ⟨halnum c (Or.inl hc), hrest⟩⟩

/-! ### What the scanner finds out about a token -/

/-- What the scanner finds out about the characters of the token that stand in front of `rest`. -/
inductive Matches (rest : List Char) : Token → List Char → Prop where
  | number {w : List Char} {n : Number.Numeral} {x : Float} (hn : n.WrittenAs w)
      (hx : Number.readFinite? w = some x) : Matches rest (.number x) w
  | text (s : String) : Matches rest (.text s) (TextLiteral.write s.toList)
  | called {w : List Char} (hw : IsWord w) (hmark : '$' ∉ w) (hrest : rest.head? = some '(') :
      Matches rest (.name (asciiUpper (String.ofList w))) w
  | name {w : List Char} (hw : IsWord w) (hmark : '$' ∉ w) (hform : Address.hasForm w = false)
      (htruth : Value.truthOfWord? (asciiUpper (String.ofList w)) = none) :
      Matches rest (.name (asciiUpper (String.ofList w))) w
  | boolean {w : List Char} {b : Bool} (hw : IsWord w) (hmark : '$' ∉ w)
      (hform : Address.hasForm w = false)
      (htruth : Value.truthOfWord? (asciiUpper (String.ofList w)) = some b) :
      Matches rest (.boolean b) w
  | cell {w : List Char} {a : Address} (hform : Address.hasForm w = true)
      (ha : Address.readTrimmed w = .ok a) : Matches rest (.cell a) w
  | range {v w : List Char} {a b : Address} (hform : Address.hasForm v = true)
      (ha : Address.readTrimmed v = .ok a) (hform' : Address.hasForm w = true)
      (hb : Address.readTrimmed w = .ok b) :
      Matches rest (.range (.spanning a b)) (v ++ ':' :: w)
  | operator (op : Operator) : Matches rest (.operator op) op.chars
  | leftParen : Matches rest .leftParen ['(']
  | rightParen : Matches rest .rightParen [')']
  | comma : Matches rest .comma [',']

/-- A word matches its token, together with the second address of a range. -/
theorem IsWordLexeme.matches {word after : List Char} {t : Token} {n : Nat}
    (h : IsWordLexeme word after t n) (hword : IsWord word) (hsplit : word ++ after = w ++ rest)
    (hn : w.length = n) : Matches rest t w := by
  cases h with
  | called hmark hrest =>
    obtain ⟨rfl, rfl⟩ := List.append_inj hsplit hn.symm
    exact .called hword hmark hrest
  | name hmark _ hform htruth =>
    obtain ⟨rfl, rfl⟩ := List.append_inj hsplit hn.symm
    exact .name hword hmark hform htruth
  | boolean hmark _ hform htruth =>
    obtain ⟨rfl, rfl⟩ := List.append_inj hsplit hn.symm
    exact .boolean hword hmark hform htruth
  | cell _ _ hform ha =>
    obtain ⟨rfl, rfl⟩ := List.append_inj hsplit hn.symm
    exact .cell hform ha
  | @range _ _ more hrest hform ha hform' hb =>
    subst hrest
    have hwhole : word ++ ':' :: more.takeWhile isWordChar ++ more.dropWhile isWordChar =
        w ++ rest := by
      rw [List.append_assoc, List.cons_append, List.takeWhile_append_dropWhile, hsplit]
    have hlength : (word ++ ':' :: more.takeWhile isWordChar).length = w.length := by
      rw [List.length_append, List.length_cons, hn, Nat.add_assoc, Nat.add_comm 1]
    rw [← List.append_inj_left hwhole hlength]
    exact .range hform ha hform' hb

/-- **The scanner finds out what a token matches.** -/
theorem Spells.matches {t : Token} (h : Spells w t rest) : Matches rest t w := by
  obtain ⟨c, cs, rfl, -, hlexeme⟩ := h
  have hrule := lexeme_eq_ok_iff.1 (hlexeme 0)
  generalize hn : (c :: cs).length = n at hrule
  have htake : (c :: (cs ++ rest)).take n = c :: cs := by
    rw [← hn, ← List.cons_append, List.take_left]
  cases hrule with
  | operator hop =>
    rw [take_of_operatorLexeme? hop] at htake
    rw [← htake]
    exact .operator _
  | leftParen =>
    obtain rfl := List.length_eq_zero_iff.1 (Nat.succ.inj hn)
    exact .leftParen
  | rightParen =>
    obtain rfl := List.length_eq_zero_iff.1 (Nat.succ.inj hn)
    exact .rightParen
  | comma =>
    obtain rfl := List.length_eq_zero_iff.1 (Nat.succ.inj hn)
    exact .comma
  | @text _ s m hread =>
    obtain ⟨after, hafter, -, rfl⟩ := TextLiteral.read_eq_some_iff.1 hread
    have hwhole : cs ++ rest = TextLiteral.body s ++ ['"'] ++ after := by
      rw [hafter, List.append_assoc, List.singleton_append]
    have hlength : cs.length = (TextLiteral.body s ++ ['"']).length := by
      rw [List.length_cons] at hn
      rw [List.length_append, List.length_singleton]
      omega
    have htext : Matches rest (.text (String.ofList s)) _ := .text (String.ofList s)
    rwa [TextLiteral.write, String.toList_ofList, List.cons_append,
      ← List.append_inj_left hwhole hlength] at htext
  | number hc hx =>
    rw [List.length_take, ← List.take_eq_take_min] at htake
    obtain ⟨k, hk, -⟩ := Number.exists_writtenAs_of_readFinite?
      (head?_numeral_ne hc (by decide) (by decide) _)
      (head?_numeral_ne hc (by decide) (by decide) _) hx
    rw [htake] at hk hx
    exact .number hk hx
  | word hc h =>
    have hword : IsWord (c :: (cs ++ rest).takeWhile isWordChar) :=
      ⟨c, _, rfl, hc, List.all_eq_true.1 List.all_takeWhile⟩
    have hsplit : c :: (cs ++ rest).takeWhile isWordChar ++ (cs ++ rest).dropWhile isWordChar =
        c :: cs ++ rest := by
      rw [List.cons_append, List.takeWhile_append_dropWhile, List.cons_append]
    exact h.matches hword hsplit hn

/-! ### Where a token stops -/

/-- A blank or a delimiter follows, or nothing. -/
def Separated (rest : List Char) : Prop :=
  ∀ c, rest.head? = some c → isBlank c = true ∨ c ∈ delimiters

theorem Separated.stops {p : Char → Bool} (h : Separated rest)
    (hblank : ∀ c, p c = true → isBlank c = false) (hdelimiters : delimiters.any p = false) :
    Stops p rest := by
  intro c hc
  rw [Bool.eq_false_iff]
  intro hp
  rcases h c hc with hb | hd
  · exact absurd ((hblank c hp).symm.trans hb) Bool.false_ne_true
  · exact List.any_eq_false.1 hdelimiters c hd hp

theorem Separated.head_ne {c : Char} (h : Separated rest) (hblank : isBlank c = false)
    (hc : c ∉ delimiters) : rest.head? ≠ some c := by
  intro hhead
  rcases h c hhead with hb | hd
  · exact absurd (hblank.symm.trans hb) Bool.false_ne_true
  · exact hc hd

theorem Separated.stops_isWordChar (h : Separated rest) : Stops isWordChar rest :=
  h.stops (fun _ => not_isBlank_of_isWordChar) (by decide)

theorem isWordChar_of_goesOn {c : Char} (h : Number.goesOn c = true) : isWordChar c = true := by
  unfold Number.goesOn at h
  simp only [Bool.or_eq_true, decide_eq_true_eq] at h
  rcases h with ((h | rfl) | rfl) | rfl
  · exact isWordChar_of_isAlphanum (by simp [Char.isAlphanum, h])
  · decide
  · decide
  · decide

theorem Separated.stops_goesOn (h : Separated rest) : Stops Number.goesOn rest :=
  h.stops (fun _ hc => not_isBlank_of_isWordChar (isWordChar_of_goesOn hc)) (by decide)

/-- Does nothing follow that the scanner would read together with the token? -/
def StopsAt : Token → List Char → Prop
  | operator _, rest => rest.head? ≠ some '=' ∧ rest.head? ≠ some '>'
  | leftParen, _ => True
  | rightParen, _ => True
  | comma, _ => True
  | name _, rest => Stops isWordChar rest
  | _, rest => Separated rest

theorem signLength_of_isDigit {c : Char} (h : c.isDigit = true) : signLength (c :: s) = 0 := by
  unfold signLength
  split
  · next heq => exact absurd ((List.cons.inj heq).1 ▸ h) (by decide)
  · next heq => exact absurd ((List.cons.inj heq).1 ▸ h) (by decide)
  · rfl

theorem scaleLength_append {k : Int} (h : Number.IsScale k s)
    (hrest : Stops Number.goesOn rest) : scaleLength (s ++ rest) = s.length := by
  have hdigit : Stops Char.isDigit rest := fun c hc =>
    Number.not_isDigit_of_not_goesOn (hrest c hc)
  cases h with
  | absent => exact scaleLength_eq_zero hrest
  | @unsigned e digits he hne hdigits =>
    obtain ⟨d, ds, rfl⟩ := List.exists_cons_of_ne_nil hne
    have hsign : signLength (d :: ds ++ rest) = 0 :=
      signLength_of_isDigit (hdigits d List.mem_cons_self)
    rw [List.cons_append, scaleLength_cons, if_pos (by simpa using he), hsign, List.drop_zero,
      takeWhile_run hdigits hdigit, if_neg (by simp)]
    simp only [List.length_cons]
    omega
  | @plus e digits he hne hdigits =>
    have hsign : signLength ('+' :: digits ++ rest) = 1 := rfl
    rw [List.cons_append, scaleLength_cons, if_pos (by simpa using he), hsign, List.cons_append,
      List.drop_one, List.tail_cons, takeWhile_run hdigits hdigit, if_neg (by simpa using hne),
      List.length_cons, List.length_cons]
    omega
  | @minus e digits he hne hdigits =>
    have hsign : signLength ('-' :: digits ++ rest) = 1 := rfl
    rw [List.cons_append, scaleLength_cons, if_pos (by simpa using he), hsign, List.cons_append,
      List.drop_one, List.tail_cons, takeWhile_run hdigits hdigit, if_neg (by simpa using hne),
      List.length_cons, List.length_cons]
    omega

/-- A numeral is taken whole. -/
theorem numeralLength_append {n : Number.Numeral} (h : n.WrittenAs w)
    (hrest : Stops Number.goesOn rest) : numeralLength (w ++ rest) = w.length := by
  obtain ⟨-, hw, -, fraction, scale, rfl, hf, hk⟩ := h
  obtain ⟨hscale, hpoint⟩ := hk.stops hrest
  rw [numeralLength_eq, List.append_assoc, List.append_assoc, takeWhile_run hw (hf.stops hscale),
    dropWhile_run hw (hf.stops hscale)]
  generalize n.fraction = f at hf
  cases hf with
  | absent =>
    rw [List.nil_append, tailLength_of_head?_ne hpoint, scaleLength_append hk hrest]
    simp
  | present hdigits =>
    rw [List.cons_append, tailLength, takeWhile_run hdigits hscale, dropWhile_run hdigits hscale,
      scaleLength_append hk hrest]
    simp
    omega

theorem startsNumeral_append {n : Number.Numeral} (h : n.WrittenAs w) (rest : List Char) :
    startsNumeral (w ++ rest) = true := by
  obtain ⟨c, cs, rfl, hc | ⟨rfl, d, ds, rfl, hd⟩⟩ := h.exists_cons
  · exact startsNumeral_of_isDigit hc _
  · exact hd

theorem spells_of_isLexeme {c : Char} {cs : List Char} {t : Token} (hblank : isBlank c = false)
    (h : IsLexeme c (cs ++ rest) t (c :: cs).length) : Spells (c :: cs) t rest :=
  ⟨c, cs, rfl, hblank, fun _ => lexeme_eq_ok_iff.2 h⟩

theorem spells_numeral {n : Number.Numeral} {x : Float} (hn : n.WrittenAs w)
    (hx : Number.readFinite? w = some x) (hrest : Stops Number.goesOn rest) :
    Spells w (.number x) rest := by
  have hstarts := startsNumeral_append hn rest
  have htake : (w ++ rest).take (numeralLength (w ++ rest)) = w := by
    rw [numeralLength_append hn hrest, List.take_left]
  obtain ⟨c, cs, rfl, -⟩ := hn.exists_cons
  rw [List.cons_append] at hstarts htake
  refine spells_of_isLexeme (not_mem_of_startsNumeral hstarts).1 ?_
  have h := IsLexeme.number hstarts (htake.symm ▸ hx)
  rwa [htake] at h

/-- A word in front of what cannot go on with it. -/
theorem spells_word {t : Token} (hw : IsWord w) (more : List Char)
    (hstops : Stops isWordChar (more ++ rest))
    (h : IsWordLexeme w (more ++ rest) t (w ++ more).length) : Spells (w ++ more) t rest := by
  obtain ⟨c, cs, rfl, hc, hcs⟩ := hw
  exact spells_of_wordLexeme more hc hcs hstops fun _ => wordLexeme_eq_ok_iff.2 h

theorem spells_word_alone {t : Token} (hw : IsWord w) (hstops : Stops isWordChar rest)
    (h : IsWordLexeme w rest t w.length) : Spells w t rest := by
  have hspells := spells_word (t := t) hw [] hstops
  rw [List.append_nil] at hspells
  exact hspells h

/-- **The scanner finds the token that the characters match where they stop.** -/
theorem Matches.spells {t : Token} (h : Matches rest t w) (hstops : t.StopsAt rest) :
    Spells w t rest := by
  cases h with
  | number hn hx => exact spells_numeral hn hx (Separated.stops_goesOn hstops)
  | text s => exact spells_text s (Separated.head_ne hstops (by decide) (by decide))
  | called hw hmark hrest => exact spells_word_alone hw hstops (.called hmark hrest)
  | name hw hmark hform htruth =>
    refine spells_word_alone hw hstops ?_
    by_cases hrest : rest.head? = some '('
    · exact .called hmark hrest
    · exact .name hmark hrest hform htruth
  | boolean hw hmark hform htruth =>
    have hrest := Separated.head_ne hstops (c := '(') (by decide) (by decide)
    exact spells_word_alone hw (Separated.stops_isWordChar hstops)
      (.boolean hmark hrest hform htruth)
  | cell hform ha =>
    have hrest := Separated.head_ne hstops (c := '(') (by decide) (by decide)
    have hcolon := Separated.head_ne hstops (c := ':') (by decide) (by decide)
    exact spells_word_alone (isWord_of_hasForm hform) (Separated.stops_isWordChar hstops)
      (.cell hrest hcolon hform ha)
  | @range v w a b hform ha hform' hb =>
    have htake : (w ++ rest).takeWhile isWordChar = w :=
      takeWhile_run (isWord_of_hasForm hform').forall_isWordChar
        (Separated.stops_isWordChar hstops)
    refine spells_word (isWord_of_hasForm hform) (':' :: w) (stops_cons (by decide)) ?_
    have h : IsWordLexeme v (':' :: (w ++ rest)) _ _ :=
      .range rfl hform ha (htake.symm ▸ hform') (htake.symm ▸ hb)
    rwa [htake, Nat.add_assoc, Nat.add_comm 1, ← List.length_cons, ← List.length_append] at h
  | operator op => exact spells_operator op hstops.1 hstops.2
  | leftParen => exact spells_leftParen rest
  | rightParen => exact spells_rightParen rest
  | comma => exact spells_comma rest

end Worksheet.Token
