import Worksheet.Json.Writer
import Worksheet.Proofs.Json.Numeral

/-!
# JSON is read back

`Reads` is a run of the reader without the proofs that it carries, with one rule for each kind of
value.  What is written on one line is read as the value that was written, if its strings are texts
and its numbers numerals (`ofText?_toLine`).
-/

namespace Worksheet.Json

open Number Text

variable {s mid rest : List Char}

/-! ### Strings -/

theorem hexValue?_hexDigit : ∀ n < 16, hexValue? (hexDigit n) = some n := by decide

/-- The escape of a control character is read as this character. -/
theorem readChar?_hexEscape {c : Char} (hc : c.toNat < 0x20) (rest : List Char) :
    readChar? ('\\' :: 'u' :: '0' :: '0' :: hexDigit (c.toNat / 16) :: hexDigit (c.toNat % 16) ::
      rest) = some (some c, 6) := by
  have hunit : hexUnit? '0' '0' (hexDigit (c.toNat / 16)) (hexDigit (c.toNat % 16)) =
      some c.toNat := by
    have hhigh := hexValue?_hexDigit (c.toNat / 16) (by omega)
    have hlow := hexValue?_hexDigit (c.toNat % 16) (by omega)
    have hzero : hexValue? '0' = some 0 := by decide
    simp only [hexUnit?, hzero, hhigh, hlow, Option.bind_eq_bind, Option.bind_some, Option.pure_def]
    congr 1
    omega
  have hpair : ¬ (0xD800 ≤ c.toNat ∧ c.toNat ≤ 0xDBFF) := by omega
  have hhalf : ¬ (0xDC00 ≤ c.toNat ∧ c.toNat ≤ 0xDFFF) := by omega
  simp only [readChar?, hunit, Option.bind_eq_bind, Option.bind_some, Option.pure_def,
    Bool.and_eq_true, decide_eq_true_eq, if_neg hpair, if_neg hhalf, Char.ofNat_toNat]

/-- An escape that is one letter is read as its character. -/
theorem readChar?_letter {l c : Char} (hl : escaped? l = some c) (rest : List Char) :
    readChar? ('\\' :: l :: rest) = some (some c, 2) := by
  have hu : l ≠ 'u' := by
    rintro rfl
    have hnone : escaped? 'u' = none := by decide
    rw [hnone] at hl
    cases hl
  unfold readChar?
  split
  · next heq => exact absurd (List.cons.inj (List.cons.inj heq).2).1 hu
  · next heq =>
    obtain ⟨rfl, -⟩ := List.cons.inj (List.cons.inj heq).2
    rw [hl, Option.map_some]
  · next hne heq => exact absurd heq.symm (by simpa using hne l rest)
  · next heq => exact absurd heq (List.cons_ne_nil _ _)

theorem readChar?_plain {c : Char} (hback : c ≠ '\\') (hcontrol : ¬ c.toNat < 0x20)
    (rest : List Char) : readChar? (c :: rest) = some (some c, 1) := by
  unfold readChar?
  split
  · next heq => exact absurd (List.cons.inj heq).1 hback
  · next heq => exact absurd (List.cons.inj heq).1 hback
  · next heq =>
    obtain ⟨rfl, -⟩ := List.cons.inj heq
    simp [hback, hcontrol]
  · next heq => exact absurd heq (List.cons_ne_nil _ _)

/-- A character is read from how it is written, which begins with no quote. -/
theorem readChar?_escape (c : Char) : ∃ d more, escape c = d :: more ∧ d ≠ '"' ∧
    ∀ rest, readChar? (d :: more ++ rest) = some (some c, more.length + 1) := by
  have hletter : ∀ l, escaped? l = some c → escape c = ['\\', l] →
      ∃ d more, escape c = d :: more ∧ d ≠ '"' ∧
        ∀ rest, readChar? (d :: more ++ rest) = some (some c, more.length + 1) := by
    intro l hl heq
    exact ⟨'\\', [l], heq, by decide, readChar?_letter hl⟩
  by_cases hquote : c = '"'
  · exact hletter '"' (by rw [hquote]; rfl) (by rw [hquote]; rfl)
  by_cases hback : c = '\\'
  · exact hletter '\\' (by rw [hback]; rfl) (by rw [hback]; rfl)
  by_cases hn : c = '\n'
  · exact hletter 'n' (by rw [hn]; rfl) (by rw [hn]; rfl)
  by_cases hr : c = '\r'
  · exact hletter 'r' (by rw [hr]; rfl) (by rw [hr]; rfl)
  by_cases ht : c = '\t'
  · exact hletter 't' (by rw [ht]; rfl) (by rw [ht]; rfl)
  by_cases hb : c = '\x08'
  · exact hletter 'b' (by rw [hb]; rfl) (by rw [hb]; rfl)
  by_cases hf : c = '\x0c'
  · exact hletter 'f' (by rw [hf]; rfl) (by rw [hf]; rfl)
  unfold escape
  rw [if_neg hquote, if_neg hback, if_neg hn, if_neg hr, if_neg ht, if_neg hb, if_neg hf]
  split
  · next hcontrol => exact ⟨_, _, rfl, by decide, readChar?_hexEscape hcontrol⟩
  · next hcontrol => exact ⟨c, [], rfl, hquote, readChar?_plain hback hcontrol⟩

/-- The string that is read, and the characters after its closing quote. -/
def stringAndRest (s : List Char) : Option (Option (List Char) × List Char) :=
  (readString s).map fun r => (r.text, r.rest)

theorem stringAndRest_quote (rest : List Char) :
    stringAndRest ('"' :: rest) = some (some [], rest) := by
  rw [stringAndRest, readString]
  rfl

/-- The character at the front stands in front of what is read of the rest. -/
theorem stringAndRest_of_readChar? {c d : Char} {more : List Char} (hd : d ≠ '"')
    (hc : readChar? (d :: (more ++ s)) = some (some c, more.length + 1)) :
    stringAndRest (d :: (more ++ s)) =
      (stringAndRest s).map fun r => (prepend (some c) r.1, r.2) := by
  have hdrop : (more ++ s).drop (more.length + 1 - 1) = s := List.drop_left
  rw [stringAndRest, readString]
  · rw [hc]
    dsimp only
    rw [Option.map_map, stringAndRest, Option.map_map]
    show (readString ((more ++ s).drop (more.length + 1 - 1))).map
      (fun r => (prepend (some c) r.text, r.rest)) = _
    rw [hdrop]
    rfl
  · exact hd

/-- **A string is read back**, and what stands behind its closing quote is left. -/
theorem stringAndRest_escape (cs rest : List Char) :
    stringAndRest (cs.flatMap escape ++ '"' :: rest) = some (some cs, rest) := by
  induction cs with
  | nil => exact stringAndRest_quote rest
  | cons c cs ih =>
    obtain ⟨d, more, heq, hd, hread⟩ := readChar?_escape c
    rw [List.flatMap_cons, heq, List.append_assoc, List.cons_append,
      stringAndRest_of_readChar? hd (hread _), ih]
    rfl

/-! ### The reader without its proofs -/

/-- The value that is read, and the characters after it. -/
def valueAndRest (s : List Char) : Option (Json × List Char) :=
  (readValue s).map fun r => (r.value, r.rest)

/-- The items that are read, and the characters after the closing bracket. -/
def itemsAndRest (s : List Char) : Option (List Json × List Char) :=
  (readItems s).map fun r => (r.parts, r.rest)

/-- The members that are read, and the characters after the closing bracket. -/
def membersAndRest (s : List Char) : Option (List (Option String × Json) × List Char) :=
  (readMembers s).map fun r => (r.parts, r.rest)

/-- The key that is read with its colon, and the characters after it. -/
def keyAndRest (s : List Char) : Option (Option String × List Char) :=
  (readKey s).map fun r => (r.key, r.rest)

theorem skip_of_not_isSpace {c : Char} (hc : isSpace c = false) (s : List Char) :
    skip (c :: s) = c :: s :=
  List.dropWhile_cons_of_neg (by rw [hc]; exact Bool.false_ne_true)

/-- The value without parts that is read, and the characters after it. -/
def leafAndRest (s : List Char) : Option (Json × List Char) :=
  (readLeaf s).map fun r => (r.value, r.rest)

/-- What is read from a text that begins with no white space. -/
def readFront : List Char → Option (Json × List Char)
  | [] => none
  | '"' :: inside => (stringAndRest inside).map fun r => (string (r.1.map String.ofList), r.2)
  | '[' :: inside =>
    match skip inside with
    | ']' :: rest => some (array [], rest)
    | _ => (itemsAndRest inside).map fun r => (array r.1, r.2)
  | '\x7b' :: inside =>
    match skip inside with
    | '\x7d' :: rest => some (object [], rest)
    | _ => (membersAndRest inside).map fun r => (object r.1, r.2)
  | c :: rest => leafAndRest (c :: rest)

theorem valueAndRest_eq (s : List Char) : valueAndRest s = readFront (skip s) := by
  rw [valueAndRest, readValue]
  split
  · next h => exact congrArg readFront h.symm
  · next inside h =>
    refine Eq.trans ?_ (congrArg readFront h.symm)
    rw [readFront, stringAndRest]
    cases readString inside <;> rfl
  · next inside h =>
    refine Eq.trans ?_ (congrArg readFront h.symm)
    rw [readFront]
    dsimp only
    split
    · next h' =>
      dsimp only [Option.map_some]
      rw [h']
      rfl
    · next hne =>
      split
      · next h' => exact absurd h' (hne _)
      · rw [itemsAndRest]
        cases readItems inside <;> rfl
  · next inside h =>
    refine Eq.trans ?_ (congrArg readFront h.symm)
    rw [readFront]
    dsimp only
    split
    · next h' =>
      dsimp only [Option.map_some]
      rw [h']
      rfl
    · next hne =>
      split
      · next h' => exact absurd h' (hne _)
      · rw [membersAndRest]
        cases readMembers inside <;> rfl
  · next c rest hquote hbracket hbrace h =>
    refine Eq.trans ?_ (congrArg readFront h.symm)
    rw [readFront, leafAndRest]
    · cases readLeaf (c :: rest) <;> rfl
    · exact hquote
    · exact hbracket
    · exact hbrace

theorem itemsAndRest_eq (s : List Char) : itemsAndRest s =
    (valueAndRest s).bind fun first =>
      match skip first.2 with
      | ']' :: rest => some ([first.1], rest)
      | ',' :: rest => (itemsAndRest rest).map fun others => (first.1 :: others.1, others.2)
      | _ => none := by
  rw [itemsAndRest, readItems, valueAndRest]
  cases readValue s with
  | none => rfl
  | some first =>
    simp only [Option.bind_eq_bind, Option.bind_some, Option.map_some, Option.pure_def]
    split
    · next h =>
      dsimp only [Option.map_some]
      rw [h]
      rfl
    · next rest h =>
      trans (readItems rest).map fun others => (first.value :: others.parts, others.rest)
      · cases readItems rest <;> rfl
      · rw [h]
        show _ = (itemsAndRest rest).map _
        rw [itemsAndRest, Option.map_map]
        rfl
    · next hclose hcomma =>
      split
      · next h => exact absurd h (hclose _)
      · next h => exact absurd h (hcomma _)
      · rfl

theorem membersAndRest_eq (s : List Char) : membersAndRest s =
    (keyAndRest s).bind fun key => (valueAndRest key.2).bind fun value =>
      match skip value.2 with
      | '\x7d' :: rest => some ([(key.1, value.1)], rest)
      | ',' :: rest =>
        (membersAndRest rest).map fun others => ((key.1, value.1) :: others.1, others.2)
      | _ => none := by
  rw [membersAndRest, readMembers, keyAndRest]
  cases readKey s with
  | none => rfl
  | some key =>
    simp only [Option.bind_eq_bind, Option.bind_some, Option.map_some, Option.pure_def,
      valueAndRest]
    cases readValue key.rest with
    | none => rfl
    | some value =>
      simp only [Option.bind_some, Option.map_some]
      split
      · next h =>
        dsimp only [Option.map_some]
        rw [h]
        rfl
      · next rest h =>
        trans (readMembers rest).map fun others =>
          ((key.key, value.value) :: others.parts, others.rest)
        · cases readMembers rest <;> rfl
        · rw [h]
          show _ = (membersAndRest rest).map _
          rw [membersAndRest, Option.map_map]
          rfl
      · next hclose hcomma =>
        split
        · next h => exact absurd h (hclose _)
        · next h => exact absurd h (hcomma _)
        · rfl

theorem keyAndRest_eq (s : List Char) : keyAndRest s =
    match skip s with
    | '"' :: inside => (stringAndRest inside).bind fun key =>
      match skip key.2 with
      | ':' :: rest => some (key.1.map String.ofList, rest)
      | _ => none
    | _ => none := by
  rw [keyAndRest, readKey]
  split
  · next inside h =>
    trans (readString inside).bind fun key =>
      match skip key.rest with
      | ':' :: rest => some (key.text.map String.ofList, rest)
      | _ => none
    · cases readString inside with
      | none => rfl
      | some key =>
        simp only [Option.bind_eq_bind, Option.bind_some]
        split
        · next h' =>
          dsimp only [Option.map_some, Option.pure_def]
          rw [h']
          rfl
        · next hne =>
          split
          · next h' => exact absurd h' (hne _)
          · rfl
    · rw [h]
      show _ = (stringAndRest inside).bind _
      rw [stringAndRest, Option.bind_map]
      rfl
  · next h =>
    split
    · next h' => exact absurd h' (h _)
    · rfl

/-! ### Values in front of a rest -/

theorem valueAndRest_cons {c : Char} (hc : isSpace c = false) (s : List Char) :
    valueAndRest (c :: s) = readFront (c :: s) := by
  rw [valueAndRest_eq, skip_of_not_isSpace hc]

/-- The characters that a numeral begins with. -/
def opensNumeral (c : Char) : Bool :=
  c = '-' || c.isDigit

theorem IsNumeral.exists_cons (h : IsNumeral s) :
    ∃ c cs, s = c :: cs ∧ opensNumeral c = true := by
  rcases h with h | ⟨t, rfl, -⟩
  · obtain ⟨c, cs, rfl, hc⟩ := h.exists_cons
    exact ⟨c, cs, rfl, by rw [opensNumeral, hc, Bool.or_true]⟩
  · exact ⟨'-', t, rfl, rfl⟩

theorem ne_of_opensNumeral {c d : Char} (hc : opensNumeral c = true)
    (hd : opensNumeral d = false) : c ≠ d := by
  rintro rfl
  exact Bool.false_ne_true (hd.symm.trans hc)

theorem valueAndRest_numeral (h : IsNumeral s) (hrest : Stops goesOn rest) :
    valueAndRest (s ++ rest) = some (number s, rest) := by
  have hlength := numeralLength?_append h hrest
  obtain ⟨c, cs, rfl, hc⟩ := h.exists_cons
  have hne : ∀ d, opensNumeral d = false → c ≠ d := fun d => ne_of_opensNumeral hc
  have hspace : isSpace c = false := by
    simp [isSpace, hne ' ' (by decide), hne '\n' (by decide), hne '\t' (by decide),
      hne '\r' (by decide)]
  rw [List.cons_append] at hlength ⊢
  rw [valueAndRest_cons hspace, readFront, leafAndRest, readLeaf, hlength]
  · show some (number (c :: (cs ++ rest).take cs.length), (cs ++ rest).drop cs.length) = _
    rw [List.take_left, List.drop_left]
  · exact fun _ hn => absurd hn (hne 'n' (by decide))
  · exact fun _ ht => absurd ht (hne 't' (by decide))
  · exact fun _ hf => absurd hf (hne 'f' (by decide))
  · exact hne '"' (by decide)
  · exact hne '[' (by decide)
  · exact hne '\x7b' (by decide)

theorem valueAndRest_text (t : String) (rest : List Char) :
    valueAndRest (writeString (some t) ++ rest) = some (text t, rest) := by
  have hwritten : writeString (some t) ++ rest =
      '"' :: (t.toList.flatMap escape ++ '"' :: rest) := by
    simp [writeString]
  rw [hwritten, valueAndRest_cons (by decide), readFront, stringAndRest_escape, Option.map_some,
    Option.map_some, String.ofList_toList]
  rfl

/-- A closing bracket is no value. -/
theorem skip_ne_of_valueAndRest {v : Json} (h : valueAndRest s = some (v, rest))
    (after : List Char) : skip s ≠ ']' :: after := by
  intro hs
  have hnone : valueAndRest s = none := by
    rw [valueAndRest_eq, hs]
    rfl
  rw [hnone] at h
  cases h

theorem valueAndRest_array {items : List Json} (h : itemsAndRest s = some (items, rest)) :
    valueAndRest ('[' :: s) = some (array items, rest) := by
  have hne : ∀ after, skip s ≠ ']' :: after := by
    rw [itemsAndRest_eq] at h
    obtain ⟨first, hfirst, -⟩ := Option.bind_eq_some_iff.1 h
    exact skip_ne_of_valueAndRest hfirst
  rw [valueAndRest_cons (by decide), readFront, h]
  split
  · next heq => exact absurd heq (hne _)
  · rfl

theorem valueAndRest_object {members : List (Option String × Json)}
    (h : membersAndRest s = some (members, rest)) :
    valueAndRest ('\x7b' :: s) = some (object members, rest) := by
  have hne : ∀ after, skip s ≠ '\x7d' :: after := by
    intro after hs
    rw [membersAndRest_eq, keyAndRest_eq, hs] at h
    cases h
  rw [valueAndRest_cons (by decide), readFront, h]
  split
  · next heq => exact absurd heq (hne _)
  · rfl

/-! ### What is written -/

/-- All strings are texts and all numbers numerals. -/
inductive Legible : Json → Prop where
  | null : Legible null
  | bool (b : Bool) : Legible (bool b)
  | number {numeral : List Char} (h : IsNumeral numeral) : Legible (number numeral)
  | text (t : String) : Legible (text t)
  | array {items : List Json} (h : ∀ item ∈ items, Legible item) : Legible (array items)
  | object {members : List (Option String × Json)} (hkeys : ∀ m ∈ members, m.1.isSome = true)
      (hvalues : ∀ m ∈ members, Legible m.2) : Legible (object members)

theorem Legible.record {members : List (String × Json)} (h : ∀ m ∈ members, Legible m.2) :
    Legible (record members) := by
  refine .object (fun m hm => ?_) (fun m hm => ?_)
  · obtain ⟨⟨key, value⟩, -, rfl⟩ := List.mem_map.1 hm
    rfl
  · obtain ⟨member, hmember, rfl⟩ := List.mem_map.1 hm
    exact h member hmember

/-- The characters are read as this value in front of whatever does not go on with a numeral. -/
def ReadAs (s : List Char) (v : Json) : Prop :=
  ∀ rest, Stops goesOn rest → valueAndRest (s ++ rest) = some (v, rest)

theorem itemsAndRest_compact {items : List Json} (hne : items ≠ [])
    (h : ∀ item ∈ items, ReadAs item.compact item) (rest : List Char) :
    itemsAndRest (compactItems items ++ ']' :: rest) = some (items, rest) := by
  induction items with
  | nil => exact absurd rfl hne
  | cons item items ih =>
    have hitem := h item List.mem_cons_self
    rw [itemsAndRest_eq]
    cases items with
    | nil =>
      rw [compactItems, hitem _ (stops_cons (by decide))]
      rfl
    | cons next items =>
      have hothers := ih (List.cons_ne_nil _ _) fun j hj => h j (List.mem_cons_of_mem _ hj)
      rw [compactItems, List.append_assoc, List.cons_append, hitem _ (stops_cons (by decide)),
        Option.bind_some]
      · show (itemsAndRest _).map _ = _
        rw [hothers]
        rfl
      · exact List.cons_ne_nil _ _

theorem keyAndRest_writeString (t : String) (rest : List Char) :
    keyAndRest (writeString (some t) ++ ':' :: rest) = some (some t, rest) := by
  have hwritten : writeString (some t) ++ ':' :: rest =
      '"' :: (t.toList.flatMap escape ++ '"' :: ':' :: rest) := by
    simp [writeString]
  rw [hwritten, keyAndRest_eq, skip_of_not_isSpace (by decide)]
  show (stringAndRest _).bind _ = _
  rw [stringAndRest_escape, Option.bind_some]
  show some (some (String.ofList t.toList), rest) = _
  rw [String.ofList_toList]

theorem membersAndRest_compact {members : List (Option String × Json)} (hne : members ≠ [])
    (hkeys : ∀ m ∈ members, m.1.isSome = true)
    (h : ∀ m ∈ members, ReadAs m.2.compact m.2) (rest : List Char) :
    membersAndRest (compactMembers members ++ '\x7d' :: rest) = some (members, rest) := by
  induction members with
  | nil => exact absurd rfl hne
  | cons member members ih =>
    obtain ⟨key, value⟩ := member
    obtain ⟨key, rfl⟩ := Option.isSome_iff_exists.1 (hkeys _ List.mem_cons_self)
    have hvalue := h _ List.mem_cons_self
    rw [membersAndRest_eq]
    cases members with
    | nil =>
      rw [compactMembers, compactMember, List.append_assoc, List.cons_append,
        keyAndRest_writeString, Option.bind_some, hvalue _ (stops_cons (by decide))]
      rfl
    | cons next members =>
      have hothers := ih (List.cons_ne_nil _ _)
        (fun m hm => hkeys m (List.mem_cons_of_mem _ hm))
        fun m hm => h m (List.mem_cons_of_mem _ hm)
      rw [compactMembers, compactMember, List.append_assoc, List.append_assoc, List.cons_append,
        List.cons_append, keyAndRest_writeString, Option.bind_some,
        hvalue _ (stops_cons (by decide)), Option.bind_some]
      · show (membersAndRest _).map _ = _
        rw [hothers]
        rfl
      · exact List.cons_ne_nil _ _

/-- **What is written on one line is read as what was written.** -/
theorem Legible.readAs {j : Json} (h : Legible j) : ReadAs j.compact j := by
  induction h with
  | null =>
    intro rest hrest
    show valueAndRest ('n' :: 'u' :: 'l' :: 'l' :: rest) = _
    rw [valueAndRest_cons (by decide)]
    rfl
  | bool b =>
    intro rest hrest
    cases b with
    | true =>
      show valueAndRest ('t' :: 'r' :: 'u' :: 'e' :: rest) = _
      rw [valueAndRest_cons (by decide)]
      rfl
    | false =>
      show valueAndRest ('f' :: 'a' :: 'l' :: 's' :: 'e' :: rest) = _
      rw [valueAndRest_cons (by decide)]
      rfl
  | number h =>
    intro rest hrest
    exact valueAndRest_numeral h hrest
  | text t =>
    intro rest hrest
    exact valueAndRest_text t rest
  | @array items h ih =>
    intro rest hrest
    rw [compact, List.cons_append, List.cons_append, List.append_assoc, List.singleton_append]
    cases items with
    | nil =>
      show valueAndRest ('[' :: ']' :: rest) = _
      rw [valueAndRest_cons (by decide)]
      rfl
    | cons item items =>
      exact valueAndRest_array (itemsAndRest_compact (List.cons_ne_nil _ _) ih rest)
  | @object members hkeys h ih =>
    intro rest hrest
    rw [compact, List.cons_append, List.cons_append, List.append_assoc, List.singleton_append]
    cases members with
    | nil =>
      show valueAndRest ('\x7b' :: '\x7d' :: rest) = _
      rw [valueAndRest_cons (by decide)]
      rfl
    | cons member members =>
      exact valueAndRest_object (membersAndRest_compact (List.cons_ne_nil _ _) hkeys ih rest)

/-- **A value that is written on one line is read back.** -/
theorem ofText?_toLine {j : Json} (h : Legible j) : ofText? j.toLine = some j := by
  have hread := h.readAs [] stops_nil
  rw [List.append_nil] at hread
  obtain ⟨r, hr, heq⟩ := Option.map_eq_some_iff.1 hread
  obtain ⟨hvalue, hrest⟩ := Prod.mk.inj heq
  unfold ofText? ofChars? toLine
  rw [String.toList_ofList, hr]
  simp only [Option.bind_eq_bind, Option.bind_some, hvalue, hrest]
  rfl

end Worksheet.Json
