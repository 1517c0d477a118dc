import Worksheet.Proofs.Errors
import Worksheet.Proofs.Formula.Blanks
import Worksheet.Proofs.Formula.Parsing
import Worksheet.Proofs.Formula.WellFormed

/-!
# Written formulas are read back

The text of an expression is split into the tokens `Expr.tokens` (`scans_chars`), and these derive
the expression (`derives_tokens`).  The brackets around operations nest no deeper than the tree is
high, so a tree within the limit has a text within the limit, and what was read once is read again
from its own text.
-/

namespace Worksheet.Expr

mutual

/-- The tokens of the expression's text. -/
def tokens : Expr → List Token
  | literal (.number x) => [.number x]
  | literal (.text s) => [.text s]
  | literal (.boolean b) => [.boolean b]
  | literal _ => []
  | cell a => [.cell a]
  | range r => [.range r]
  | binary op left right =>
    .leftParen :: (left.tokens ++ .operator op :: (right.tokens ++ [.rightParen]))
  | call f args => .name f :: .leftParen :: (tokensAll args ++ [.rightParen])

/-- The tokens of the text of some arguments. -/
def tokensAll : List Expr → List Token
  | [] => []
  | [arg] => arg.tokens
  | arg :: rest => arg.tokens ++ .comma :: tokensAll rest

end

mutual

/-- Can everything in the expression be written in a formula? -/
def Writable : Expr → Prop
  | literal (.number x) => Number.Unsigned x
  | literal (.text _) => True
  | literal (.boolean _) => True
  | literal _ => False
  | cell a => a.OnSheet
  | range r => r.first.OnSheet ∧ r.last.OnSheet
  | binary _ left right => left.Writable ∧ right.Writable
  | call f args => Token.IsName f ∧ AllWritable args

/-- Can everything in the arguments be written in a formula? -/
def AllWritable : List Expr → Prop
  | [] => True
  | arg :: rest => arg.Writable ∧ AllWritable rest

end

theorem allWritable_iff {args : List Expr} : AllWritable args ↔ ∀ arg ∈ args, arg.Writable := by
  induction args with
  | nil => simp [AllWritable]
  | cons arg rest ih => rw [AllWritable, ih, List.forall_mem_cons]

/-- What can be written can be written part by part. -/
theorem Writable.of_mem_parts {e part : Expr} (he : e.Writable) (hpart : part ∈ e.parts) :
    part.Writable := by
  induction e using induction with
  | literal v => rwa [List.mem_singleton.1 hpart]
  | cell a => rwa [List.mem_singleton.1 hpart]
  | range r => rwa [List.mem_singleton.1 hpart]
  | binary op left right ihleft ihright =>
    rcases mem_parts_binary.1 hpart with rfl | hpart | hpart
    · exact he
    · exact ihleft he.1 hpart
    · exact ihright he.2 hpart
  | call name args ih =>
    rcases mem_parts_call.1 hpart with rfl | ⟨arg, harg, hpart⟩
    · exact he
    · exact ih arg harg (allWritable_iff.1 he.2 arg harg) hpart

/-! ### The tokens derive the expression -/

theorem derives_of_operand {e : Expr} {n : Nat} {ts : List Token}
    (h : Derives (.expression [] e) n ts) (tiers : List Tier) :
    Derives (.expression tiers e) n ts := by
  induction tiers with
  | nil => exact h
  | cons tier tiers ih => exact .tighter ih

theorem derives_operation {op : Operator} {left right : Expr} {m n : Nat} {ts us : List Token}
    (hleft : Derives (.expression [] left) m ts) (hright : Derives (.expression [] right) n us)
    {tiers : List Tier} (hop : op.tier ∈ tiers) :
    Derives (.expression tiers (.binary op left right)) (max m n) (ts ++ .operator op :: us) := by
  induction tiers with
  | nil => exact absurd hop List.not_mem_nil
  | cons tier tighter ih =>
    by_cases htier : op.tier = tier
    · subst htier
      exact .binary (derives_of_operand hleft _) (derives_of_operand hright _)
    · exact .tighter (ih (List.mem_of_ne_of_mem htier hop))

theorem mem_all_tiers (tier : Tier) : tier ∈ Tier.all := by
  cases tier <;> decide

mutual

theorem derives_tokens (e : Expr) (he : e.Writable) :
    ∃ n, Derives (.expression [] e) n e.tokens ∧ n ≤ e.height := by
  match e with
  | .literal (.number x) => exact ⟨0, .number x, Nat.zero_le _⟩
  | .literal (.text s) => exact ⟨0, .text s, Nat.zero_le _⟩
  | .literal (.boolean b) => exact ⟨0, .boolean b, Nat.zero_le _⟩
  | .cell a => exact ⟨0, .cell a, Nat.zero_le _⟩
  | .range r => exact ⟨0, .range r, Nat.zero_le _⟩
  | .binary op left right =>
    obtain ⟨m, hleft, hm⟩ := derives_tokens left he.1
    obtain ⟨n, hright, hn⟩ := derives_tokens right he.2
    have h := Derives.brackets (derives_operation hleft hright (mem_all_tiers op.tier))
    rw [List.append_assoc, List.cons_append] at h
    exact ⟨max m n + 1, h, by rw [height_binary]; omega⟩
  | .call f args =>
    by_cases hargs : args = []
    · rw [hargs]
      exact ⟨1, .emptyCall f, by rw [height_call]; omega⟩
    · obtain ⟨n, hderives, hn⟩ := derives_tokensAll args he.2 hargs
      exact ⟨n + 1, .call f hderives, by rw [height_call]; omega⟩

theorem derives_tokensAll (args : List Expr) (h : AllWritable args) (hargs : args ≠ []) :
    ∃ n, Derives (.arguments args) n (tokensAll args) ∧ n ≤ heights args := by
  match args with
  | [] => exact absurd rfl hargs
  | [arg] =>
    obtain ⟨m, harg, hm⟩ := derives_tokens arg h.1
    exact ⟨m, .lastArgument (derives_of_operand harg _), by rw [heights_cons]; omega⟩
  | arg :: next :: rest =>
    obtain ⟨m, harg, hm⟩ := derives_tokens arg h.1
    obtain ⟨n, hrest, hn⟩ := derives_tokensAll (next :: rest) h.2 (List.cons_ne_nil _ _)
    exact ⟨max m n, .argument (derives_of_operand harg _) hrest, by rw [heights_cons]; omega⟩

end

/-! ### The text is split into the tokens -/

open Token

theorem scans_literal {v : Value} (hv : (literal v).Writable) {rest : List Char} {ts : List Token}
    (hrest : Delimited rest) (h : Scans rest ts) :
    Scans ((literal v).chars ++ rest) ((literal v).tokens ++ ts) := by
  cases v with
  | number x =>
    obtain ⟨w, f, hplain, -⟩ := Number.plain_write hv
    have hspells := spells_numeral hplain.writtenAs (Number.readFinite?_write hv)
      (hrest.stops (by decide))
    have hchars : (literal (.number x)).chars = Value.layout.write x := String.toList_ofList
    rw [hchars]
    exact hspells.scans h
  | text s => exact (spells_text s (hrest.head_ne (by decide))).scans h
  | boolean b => exact (spells_truthWord b hrest).scans h
  | empty => exact hv.elim
  | error _ => exact hv.elim

theorem delimited_operator (op : Operator) (rest : List Char) :
    Delimited (op.chars ++ rest) := by
  cases op with
  | arithmetic op => cases op <;> exact delimited_cons (by decide)
  | relation op => cases op <;> exact delimited_cons (by decide)

/-- The first character of an expression's text is neither blank nor does it go on with an
operator. -/
theorem exists_cons_chars {e : Expr} (he : e.Writable) :
    ∃ c cs, e.chars = c :: cs ∧ Text.isBlank c = false ∧ c ≠ '=' ∧ c ≠ '>' := by
  have hword : ∀ c, startsWord c = true → Text.isBlank c = false ∧ c ≠ '=' ∧ c ≠ '>' := by
    intro c hc
    obtain ⟨hblank, -, hoperator, -⟩ := not_mem_of_startsWord hc
    exact ⟨hblank, fun h => hoperator (h ▸ by decide), fun h => hoperator (h ▸ by decide)⟩
  match e with
  | .literal (.number x) =>
    have hchars : (literal (.number x)).chars = Value.layout.write x := String.toList_ofList
    obtain ⟨w, f, hplain, -⟩ := Number.plain_write he
    obtain ⟨c, cs, hcons, hdigit⟩ := hplain.exists_cons
    obtain ⟨hblank, hoperator, -⟩ := not_mem_of_isDigit hdigit
    exact ⟨c, cs, hchars.trans hcons, hblank, fun h => hoperator (h ▸ by decide),
      fun h => hoperator (h ▸ by decide)⟩
  | .literal (.text s) => exact ⟨'"', _, rfl, by decide, by decide, by decide⟩
  | .literal (.boolean true) => exact ⟨'T', _, rfl, by decide, by decide, by decide⟩
  | .literal (.boolean false) => exact ⟨'F', _, rfl, by decide, by decide, by decide⟩
  | .cell a =>
    obtain ⟨c, cs, hchars, hc, -⟩ := Token.exists_cons_chars a
    exact ⟨c, cs, hchars, hword c hc⟩
  | .range r =>
    obtain ⟨c, cs, hchars, hc, -⟩ := Token.exists_cons_chars r.first
    exact ⟨c, cs ++ ':' :: r.last.chars, congrArg (· ++ _) hchars, hword c hc⟩
  | .binary op left right => exact ⟨'(', _, rfl, by decide, by decide, by decide⟩
  | .call f args =>
    obtain ⟨c, cs, hchars, hc, -⟩ := he.1
    exact ⟨c, _, by rw [chars, hchars]; rfl, hword c hc⟩

mutual

theorem scans_chars (e : Expr) (he : e.Writable) {rest : List Char} {ts : List Token}
    (hrest : Delimited rest) (h : Scans rest ts) : Scans (e.chars ++ rest) (e.tokens ++ ts) := by
  match e with
  | .literal v => exact scans_literal he hrest h
  | .cell a => exact (spells_cell he hrest).scans h
  | .range r => exact (spells_range he.1 he.2 hrest).scans h
  | .binary op left right =>
    have hclose : Scans (')' :: rest) (.rightParen :: ts) := (spells_rightParen rest).scans h
    have hright := scans_chars right he.2 (delimited_cons (by decide)) hclose
    obtain ⟨c, cs, hchars, -, hequal, hgreater⟩ := exists_cons_chars he.2
    have hequal' : (right.chars ++ ')' :: rest).head? ≠ some '=' := by simp [hchars, hequal]
    have hgreater' : (right.chars ++ ')' :: rest).head? ≠ some '>' := by simp [hchars, hgreater]
    have hop := (spells_operator op hequal' hgreater').scans hright
    have hleft := scans_chars left he.1 (delimited_operator op _) hop
    have hopen := (spells_leftParen _).scans hleft
    simpa [chars, tokens] using hopen
  | .call f args =>
    have hclose : Scans (')' :: rest) (.rightParen :: ts) := (spells_rightParen rest).scans h
    have hargs := scans_charsAll args he.2 (delimited_cons (by decide)) hclose
    have hname := (spells_name he.1 _).scans ((spells_leftParen _).scans hargs)
    simpa [chars, tokens] using hname

theorem scans_charsAll (args : List Expr) (hargs : AllWritable args) {rest : List Char}
    {ts : List Token} (hrest : Delimited rest) (h : Scans rest ts) :
    Scans (charsAll args ++ rest) (tokensAll args ++ ts) := by
  match args with
  | [] => exact h
  | [arg] => exact scans_chars arg hargs.1 hrest h
  | arg :: next :: rest' =>
    have hothers := scans_charsAll (next :: rest') hargs.2 hrest h
    have hcomma := (spells_comma _).scans hothers
    have harg := scans_chars arg hargs.1 (delimited_cons (by decide)) hcomma
    simpa [charsAll, tokensAll] using harg

end

/-! ### The text has no blanks around it -/

/-- The last character of an expression's text is not blank. -/
theorem stops_reverse_chars {e : Expr} (he : e.Writable) :
    Text.Stops Text.isBlank e.chars.reverse := by
  match e with
  | .literal (.number x) =>
    have hchars : (literal (.number x)).chars = Value.layout.write x := String.toList_ofList
    obtain ⟨w, f, hplain, -⟩ := Number.plain_write he
    rw [hchars]
    exact Text.stops_of_all fun c hc => hplain.writtenAs.not_isBlank c (List.mem_reverse.1 hc)
  | .literal (.text s) =>
    rw [chars, TextLiteral.write, List.reverse_append]
    exact Text.stops_cons (by decide)
  | .literal (.boolean true) => exact Text.stops_cons (by decide)
  | .literal (.boolean false) => exact Text.stops_cons (by decide)
  | .cell a => exact stops_reverse_address a
  | .range r =>
    rw [chars, Range.chars, List.reverse_append, List.reverse_cons, List.append_assoc]
    exact (stops_reverse_address r.last).append (by simp [Address.chars_ne_nil])
  | .binary op left right =>
    rw [chars, List.reverse_append]
    exact Text.stops_cons (by decide)
  | .call f args =>
    rw [chars, List.reverse_append]
    exact Text.stops_cons (by decide)

theorem formulaBody_chars {e : Expr} (he : e.Writable) : formulaBody e.chars = e.chars := by
  obtain ⟨c, cs, hchars, hblank, hequal, -⟩ := exists_cons_chars he
  have htrim : Text.trimChars e.chars = e.chars :=
    Text.trimChars_eq_self (hchars ▸ Text.stops_cons hblank) (stops_reverse_chars he)
  unfold formulaBody
  rw [htrim]
  split
  · next rest hrest =>
    rw [hchars] at hrest
    exact absurd (List.cons.inj hrest).1 hequal
  · rfl

/-! ### What is read can be written -/

/-- Can everything in the phrase be written in a formula? -/
def PhraseWritable : Phrase → Prop
  | .expression _ e => e.Writable
  | .arguments args => AllWritable args

theorem writable_of_derives {phrase : Phrase} {n : Nat} {ts : List Token}
    (h : Derives phrase n ts) (hts : ∀ t ∈ ts, t.WellFormed) : PhraseWritable phrase := by
  induction h with
  | number x => exact hts _ List.mem_cons_self
  | text s => trivial
  | boolean b => trivial
  | cell a => exact hts _ List.mem_cons_self
  | range r => exact hts _ List.mem_cons_self
  | brackets _ ih => exact ih fun t ht => hts t (by simp [ht])
  | sign _ _ ih => exact ⟨Number.unsigned_zero, ih fun t ht => hts t (by simp [ht])⟩
  | emptyCall f => exact ⟨hts _ List.mem_cons_self, trivial⟩
  | call f _ ih => exact ⟨hts _ List.mem_cons_self, ih fun t ht => hts t (by simp [ht])⟩
  | tighter _ ih => exact ih hts
  | binary _ _ ihleft ihright =>
    exact ⟨ihleft fun t ht => hts t (by simp [ht]), ihright fun t ht => hts t (by simp [ht])⟩
  | lastArgument _ ih => exact ⟨ih hts, trivial⟩
  | argument _ _ ih ihothers =>
    exact ⟨ih fun t ht => hts t (by simp [ht]), ihothers fun t ht => hts t (by simp [ht])⟩

theorem writable_of_ofText {s : String} {e : Expr} (h : ofText s = .ok e) :
    e.Writable ∧ e.height ≤ depthLimit := by
  obtain ⟨tokens, hscan, h⟩ := bind_eq_ok.1 h
  obtain ⟨n, hderives, -, hheight⟩ := ofTokens_eq_ok_iff.1 h
  exact ⟨writable_of_derives hderives (Token.wellFormed_of_scan hscan), hheight⟩

/-! ### Written formulas are read back -/

/-- A text is read as the expression whose characters it has, if they are within the limit. -/
theorem ofText_of_chars {s : String} {e : Expr} (he : e.Writable) (hheight : e.height ≤ depthLimit)
    (hs : formulaBody s.toList = e.chars) : ofText s = .ok e := by
  have hscan := scans_chars e he delimited_nil scans_nil 0
  rw [List.append_nil, List.append_nil, ← hs] at hscan
  obtain ⟨n, hderives, hn⟩ := derives_tokens e he
  refine bind_eq_ok.2 ⟨e.tokens, hscan, ofTokens_eq_ok_iff.2 ⟨n, ?_, ?_, hheight⟩⟩
  · exact derives_of_operand hderives _
  · omega

/-- **Writing and reading is the identity on what was read.** -/
theorem text_reads_back {s : String} {e : Expr} (h : ofText s = .ok e) :
    ofText e.text = .ok e := by
  obtain ⟨he, hheight⟩ := writable_of_ofText h
  refine ofText_of_chars he hheight ?_
  rw [text, String.toList_ofList, formulaBody_chars he]

/-- A call with a quotation mark in its text is read back, with its name in upper case. -/
theorem text_reads_back_of_call :
    ofText "=if(a1,\"\"\"\")" = .ok (.call "IF" [.cell ⟨0, 0⟩, .literal (.text "\"")]) ∧
      ofText (text (.call "IF" [.cell ⟨0, 0⟩, .literal (.text "\"")])) =
        .ok (.call "IF" [.cell ⟨0, 0⟩, .literal (.text "\"")]) := by
  have hread : ofText "=if(a1,\"\"\"\")" =
      .ok (.call "IF" [.cell ⟨0, 0⟩, .literal (.text "\"")]) := by cbv
  exact ⟨hread, text_reads_back hread⟩

end Worksheet.Expr
