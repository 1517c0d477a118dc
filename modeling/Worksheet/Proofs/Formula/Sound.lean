import Worksheet.Proofs.Except
import Worksheet.Proofs.Formula.Grammar

/-!
# What is read derives

The tokens that a parsing function has taken derive what it returns.  There is one statement for
each of the functions; those that call each other are proved together, one lemma for each way of
reading (`sound_all`).
-/

namespace Worksheet.Expr

/-- The tokens read derive the tree. -/
def Parsed.Derived {tokens : List Token} (p : Parsed tokens) (tiers : List Tier) : Prop :=
  ∃ n ts, tokens = ts ++ p.rest ∧ Derives (.expression tiers p.expr) n ts

/-- Behind tokens that derive `left`, the tokens read derive the tree. -/
def Extended.Derived {tokens : List Token} (p : Extended tokens) (tiers : List Tier)
    (left : Expr) : Prop :=
  ∀ m us, Derives (.expression tiers left) m us →
    ∃ n ts, tokens = ts ++ p.rest ∧ Derives (.expression tiers p.expr) n (us ++ ts)

/-- The tokens read up to the closing bracket derive the arguments. -/
def Arguments.Derived {tokens : List Token} (p : Arguments tokens) : Prop :=
  ∃ n ts, tokens = ts ++ .rightParen :: p.rest ∧ Derives (.arguments p.args) n ts

def SoundOperand (depth : Nat) (tokens : List Token) : Prop :=
  ∀ p, operand depth tokens = .ok p → p.Derived []

def SoundExpression (tiers : List Tier) (depth : Nat) (tokens : List Token) : Prop :=
  ∀ p, expression tiers depth tokens = .ok p → p.Derived tiers

def SoundChain (tier : Tier) (tighter : List Tier) (depth : Nat) (left : Expr)
    (tokens : List Token) : Prop :=
  ∀ p, chain tier tighter depth left tokens = .ok p → p.Derived (tier :: tighter) left

def SoundArguments (depth : Nat) (tokens : List Token) : Prop :=
  ∀ p, arguments depth tokens = .ok p →
    p.args = [] ∧ tokens = .rightParen :: p.rest ∨ p.Derived

def SoundMoreArguments (depth : Nat) (tokens : List Token) : Prop :=
  ∀ p, moreArguments depth tokens = .ok p → p.Derived

theorem eq_of_bounded {e e' : Expr} (h : bounded e = .ok e') : e' = e := by
  unfold bounded at h
  split at h
  · cases h
  · cases h
    rfl

theorem eq_of_operatorOf? {tier : Tier} {token : Token} {op : Operator}
    (h : operatorOf? tier token = some op) : token = .operator op ∧ op.tier = tier := by
  cases token with
  | operator op' =>
    unfold operatorOf? at h
    dsimp only at h
    split at h
    · next htier =>
      cases h
      exact ⟨rfl, htier⟩
    · cases h
  | _ => cases h

/-! ### Operands -/

theorem soundOperand_call {depth : Nat} {f : String} {inside : List Token}
    (hdepth : ¬ depthLimit ≤ depth) (hinside : SoundArguments (depth + 1) inside) :
    SoundOperand depth (.name f :: .leftParen :: inside) := by
  intro p h
  rw [operand, if_neg hdepth] at h
  obtain ⟨read, hread, h⟩ := bind_eq_ok.1 h
  obtain ⟨e, he, h⟩ := bind_eq_ok.1 h
  cases h
  obtain rfl := eq_of_bounded he
  rcases hinside read hread with ⟨hargs, htokens⟩ | ⟨n, ts, htokens, hargs⟩
  · refine ⟨1, [.name f, .leftParen, .rightParen], ?_, ?_⟩
    · simp [htokens]
    · rw [hargs]
      exact .emptyCall f
  · refine ⟨n + 1, .name f :: .leftParen :: (ts ++ [.rightParen]), ?_, .call f hargs⟩
    simp [htokens]

theorem soundOperand_brackets {depth : Nat} {rest : List Token} (hdepth : ¬ depthLimit ≤ depth)
    (hrest : SoundExpression Tier.all (depth + 1) rest) :
    SoundOperand depth (.leftParen :: rest) := by
  intro p h
  rw [operand, if_neg hdepth] at h
  obtain ⟨inside, hinside, h⟩ := bind_eq_ok.1 h
  obtain ⟨n, ts, hts, he⟩ := hrest inside hinside
  split at h
  · next after hafter =>
    cases h
    refine ⟨n + 1, .leftParen :: (ts ++ [.rightParen]), ?_, .brackets he⟩
    simp [hts, hafter]
  · cases h

theorem soundOperand_sign {depth : Nat} {op : Operator} {rest : List Token}
    (hop : ¬ op.tier ≠ .sum) (hdepth : ¬ depthLimit ≤ depth)
    (hrest : SoundOperand (depth + 1) rest) : SoundOperand depth (.operator op :: rest) := by
  intro p h
  rw [operand, if_neg hop, if_neg hdepth] at h
  obtain ⟨read, hread, h⟩ := bind_eq_ok.1 h
  obtain ⟨e, he, h⟩ := bind_eq_ok.1 h
  cases h
  obtain rfl := eq_of_bounded he
  obtain ⟨n, ts, hts, he⟩ := hrest read hread
  refine ⟨n + 1, .operator op :: ts, ?_, .sign (Decidable.not_not.1 hop) he⟩
  simp [hts]

/-! ### Operations -/

theorem soundExpression_cons {tier : Tier} {tighter : List Tier} {depth : Nat}
    {tokens : List Token} (hfirst : SoundExpression tighter depth tokens)
    (hall : ∀ first : Parsed tokens, SoundChain tier tighter depth first.expr first.rest) :
    SoundExpression (tier :: tighter) depth tokens := by
  intro p h
  rw [expression] at h
  obtain ⟨first, hread, h⟩ := bind_eq_ok.1 h
  obtain ⟨all, hchain, h⟩ := bind_eq_ok.1 h
  cases h
  obtain ⟨m, us, hus, he⟩ := hfirst first hread
  obtain ⟨n, ts, hts, he⟩ := hall first all hchain m us (.tighter he)
  refine ⟨n, us ++ ts, ?_, he⟩
  calc tokens
      = us ++ first.rest := hus
    _ = us ++ (ts ++ all.rest) := congrArg (us ++ ·) hts
    _ = us ++ ts ++ all.rest := (List.append_assoc us ts all.rest).symm

theorem soundChain_none {tier : Tier} {tighter : List Tier} {depth : Nat} {left : Expr}
    {token : Token} {tail : List Token} (hop : operatorOf? tier token = none) :
    SoundChain tier tighter depth left (token :: tail) := by
  intro p h m us hleft
  unfold chain at h
  dsimp only at h
  split at h
  · cases h
    exact ⟨m, [], rfl, by rwa [List.append_nil]⟩
  · next op hop' =>
    rw [hop] at hop'
    cases hop'

/-- The operation read so far is the left side of the next. -/
theorem soundChain_some {tier : Tier} {tighter : List Tier} {depth : Nat} {left : Expr}
    {token : Token} {tail : List Token} {op : Operator} (hop : operatorOf? tier token = some op)
    (hright : SoundExpression tighter depth tail)
    (hall : ∀ (right : Parsed tail) e, SoundChain tier tighter depth e right.rest) :
    SoundChain tier tighter depth left (token :: tail) := by
  intro p h m us hleft
  unfold chain at h
  dsimp only at h
  split at h
  · next hop' =>
    rw [hop] at hop'
    cases hop'
  · next op' hop' =>
    obtain rfl : op = op' := Option.some.inj (hop.symm.trans hop')
    obtain ⟨rfl, rfl⟩ := eq_of_operatorOf? hop
    obtain ⟨right, hread, h⟩ := bind_eq_ok.1 h
    obtain ⟨e, he, h⟩ := bind_eq_ok.1 h
    obtain ⟨all, hchain, h⟩ := bind_eq_ok.1 h
    cases h
    obtain rfl := eq_of_bounded he
    obtain ⟨n, vs, hvs, hderives⟩ := hright right hread
    obtain ⟨k, ts, hts, he⟩ := hall right _ all hchain _ _ (.binary hleft hderives)
    refine ⟨k, .operator op :: (vs ++ ts), ?_, ?_⟩
    · calc Token.operator op :: tail
          = .operator op :: (vs ++ right.rest) := congrArg _ hvs
        _ = .operator op :: (vs ++ (ts ++ all.rest)) := congrArg (.operator op :: vs ++ ·) hts
        _ = .operator op :: (vs ++ ts) ++ all.rest := by simp
    · simpa using he

/-! ### Arguments -/

theorem soundMoreArguments {depth : Nat} {tokens : List Token}
    (hfirst : SoundExpression Tier.all depth tokens)
    (hothers : ∀ (first : Parsed tokens) rest, first.rest = .comma :: rest →
      SoundMoreArguments depth rest) :
    SoundMoreArguments depth tokens := by
  intro p h
  rw [moreArguments] at h
  obtain ⟨first, hread, h⟩ := bind_eq_ok.1 h
  obtain ⟨m, us, hus, he⟩ := hfirst first hread
  dsimp only at h
  split at h
  · next rest hrest =>
    cases h
    refine ⟨m, us, ?_, .lastArgument he⟩
    exact hus.trans (congrArg (us ++ ·) hrest)
  · next rest hrest =>
    obtain ⟨others, hmore, h⟩ := bind_eq_ok.1 h
    cases h
    obtain ⟨n, ts, hts, hargs⟩ := hothers first rest hrest others hmore
    refine ⟨max m n, us ++ .comma :: ts, ?_, .argument he hargs⟩
    calc tokens
        = us ++ first.rest := hus
      _ = us ++ .comma :: rest := congrArg (us ++ ·) hrest
      _ = us ++ .comma :: (ts ++ .rightParen :: others.rest) := congrArg (us ++ .comma :: ·) hts
      _ = us ++ .comma :: ts ++ .rightParen :: others.rest := by simp
  · cases h

/-! ### All parsing functions -/

theorem sound_all :
    (∀ depth tokens, SoundOperand depth tokens) ∧
    (∀ tiers depth tokens, SoundExpression tiers depth tokens) ∧
    (∀ tier tighter depth left tokens, SoundChain tier tighter depth left tokens) ∧
    (∀ depth tokens, SoundArguments depth tokens) ∧
    ∀ depth tokens, SoundMoreArguments depth tokens := by
  apply operand.mutual_induct SoundOperand SoundExpression SoundChain SoundArguments
    SoundMoreArguments
  case _ => -- no tokens
    intro depth p h
    rw [operand] at h
    cases h
  case _ => -- a number
    intro depth x rest p h
    rw [operand] at h
    cases h
    exact ⟨0, [.number x], rfl, .number x⟩
  case _ => -- a text
    intro depth s rest p h
    rw [operand] at h
    cases h
    exact ⟨0, [.text s], rfl, .text s⟩
  case _ => -- a truth value
    intro depth b rest p h
    rw [operand] at h
    cases h
    exact ⟨0, [.boolean b], rfl, .boolean b⟩
  case _ => -- an address
    intro depth a rest p h
    rw [operand] at h
    cases h
    exact ⟨0, [.cell a], rfl, .cell a⟩
  case _ => -- a range
    intro depth r rest p h
    rw [operand] at h
    cases h
    exact ⟨0, [.range r], rfl, .range r⟩
  case _ => -- a name, too deep
    intro depth f rest hdepth p h
    unfold operand at h
    rw [if_pos hdepth] at h
    cases h
  case _ => -- a call
    intro depth f hdepth inside hinside
    exact soundOperand_call hdepth hinside
  case _ => -- a name that is not called
    intro depth f rest hdepth hrest p h
    unfold operand at h
    rw [if_neg hdepth] at h
    split at h
    · exact absurd rfl (hrest _)
    · cases h
  case _ => -- a bracket, too deep
    intro depth rest hdepth p h
    rw [operand, if_pos hdepth] at h
    cases h
  case _ => -- a bracket
    intro depth rest hdepth hrest
    exact soundOperand_brackets hdepth hrest
  case _ => -- an operator that is no sign
    intro depth op rest hop p h
    rw [operand, if_pos hop] at h
    cases h
  case _ => -- a sign, too deep
    intro depth op rest hop hdepth p h
    rw [operand, if_neg hop, if_pos hdepth] at h
    cases h
  case _ => -- a sign
    intro depth op rest hop hdepth hrest
    exact soundOperand_sign hop hdepth hrest
  case _ => -- no operand
    intro depth token tail hnumber htext hboolean hcell hrange hname hparen hop p h
    cases token with
    | number x => exact absurd rfl (hnumber x)
    | text s => exact absurd rfl (htext s)
    | boolean b => exact absurd rfl (hboolean b)
    | cell a => exact absurd rfl (hcell a)
    | range r => exact absurd rfl (hrange r)
    | name f => exact absurd rfl (hname f)
    | operator op => exact absurd rfl (hop op)
    | leftParen => exact absurd rfl hparen
    | rightParen =>
      unfold operand at h
      cases h
    | comma =>
      unfold operand at h
      cases h
  case _ => -- no tiers
    intro depth tokens htokens p h
    rw [expression] at h
    exact htokens p h
  case _ => -- some tiers
    intro depth tokens tier tighter hfirst hall
    exact soundExpression_cons hfirst hall
  case _ => -- no token behind an operand
    intro tier tighter depth left p h m us hleft
    rw [chain] at h
    cases h
    exact ⟨m, [], rfl, by rwa [List.append_nil]⟩
  case _ => -- no operator behind an operand
    intro tier tighter depth left token tail hop
    exact soundChain_none hop
  case _ => -- an operator
    intro tier tighter depth left token tail op hop hright hall
    exact soundChain_some hop hright hall
  case _ => -- no arguments
    intro depth rest p h
    rw [arguments] at h
    cases h
    exact Or.inl ⟨rfl, rfl⟩
  case _ => -- some arguments
    intro depth tokens htokens hmore p h
    unfold arguments at h
    split at h
    · exact absurd rfl (htokens _)
    · exact Or.inr (hmore p h)
  case _ => -- the arguments one by one
    intro depth tokens hfirst hothers
    exact soundMoreArguments hfirst hothers

/-- **What is read derives**, to the last token. -/
theorem derives_of_ofTokens {tokens : List Token} {e : Expr} (h : ofTokens tokens = .ok e) :
    ∃ n, Derives (.expression Tier.all e) n tokens := by
  unfold ofTokens at h
  obtain ⟨read, hread, h⟩ := bind_eq_ok.1 h
  obtain ⟨n, ts, hts, he⟩ := sound_all.2.1 Tier.all 0 tokens read hread
  split at h
  · next hrest =>
    cases h
    rw [hrest, List.append_nil] at hts
    exact ⟨n, hts ▸ he⟩
  · cases h

end Worksheet.Expr
