import Mathlib.Logic.Basic
import Worksheet.Proofs.Formula.Grammar

/-!
# What derives is read

`Complete` says what reading gives when a phrase stands at the front of the tokens: its tree, or an
error if it nests too deep or is too high.  It is proved along derivations from equations that say
what the parsing functions do, leaving out the proofs that they carry.
-/

namespace Worksheet.Expr

/-! ### The parsing functions without their proofs -/

/-- The tree that is read and the tokens after it. -/
def readExpression (tiers : List Tier) (depth : Nat) (tokens : List Token) :
    Except FormulaError (Expr × List Token) :=
  (expression tiers depth tokens).map fun p => (p.expr, p.rest)

/-- The tree with the operations that follow it, and the tokens after them. -/
def readOperations (tier : Tier) (tighter : List Tier) (depth : Nat) (left : Expr)
    (tokens : List Token) : Except FormulaError (Expr × List Token) :=
  (chain tier tighter depth left tokens).map fun p => (p.expr, p.rest)

/-- The arguments that are read, at least one, and the tokens after their closing bracket. -/
def readArguments (depth : Nat) (tokens : List Token) :
    Except FormulaError (List Expr × List Token) :=
  (moreArguments depth tokens).map fun p => (p.args, p.rest)

theorem readExpression_nil (depth : Nat) (tokens : List Token) :
    readExpression [] depth tokens = (operand depth tokens).map fun p => (p.expr, p.rest) := by
  rw [readExpression, expression]

theorem readExpression_cons (tier : Tier) (tighter : List Tier) (depth : Nat)
    (tokens : List Token) :
    readExpression (tier :: tighter) depth tokens =
      readExpression tighter depth tokens >>= fun x =>
        readOperations tier tighter depth x.1 x.2 := by
  rw [readExpression, readExpression, expression]
  cases expression tighter depth tokens with
  | error error => rfl
  | ok first =>
    show Except.map _ (chain tier tighter depth first.expr first.rest >>= _) =
      (chain tier tighter depth first.expr first.rest).map _
    cases chain tier tighter depth first.expr first.rest with
    | error error => rfl
    | ok all => rfl

theorem readOperations_operator {tier : Tier} {op : Operator} (hop : op.tier = tier)
    (tighter : List Tier) (depth : Nat) (left : Expr) (rest : List Token) :
    readOperations tier tighter depth left (.operator op :: rest) =
      readExpression tighter depth rest >>= fun x =>
        bounded (.binary op left x.1) >>= fun e => readOperations tier tighter depth e x.2 := by
  have hsome : operatorOf? tier (.operator op) = some op := if_pos hop
  rw [readOperations, chain, readExpression]
  split
  · next hnone =>
    rw [hsome] at hnone
    cases hnone
  · next op' hop' =>
    obtain rfl : op = op' := Option.some.inj (hsome.symm.trans hop')
    cases expression tighter depth rest with
    | error error => rfl
    | ok right =>
      show Except.map _ (bounded (.binary op left right.expr) >>= _) =
        bounded (.binary op left right.expr) >>= _
      cases bounded (.binary op left right.expr) with
      | error error => rfl
      | ok e =>
        show Except.map _ (chain tier tighter depth e right.rest >>= _) =
          (chain tier tighter depth e right.rest).map _
        cases chain tier tighter depth e right.rest with
        | error error => rfl
        | ok all => rfl

/-- No operator of these tiers stands at the front of the tokens. -/
def Ends (tiers : List Tier) (tokens : List Token) : Prop :=
  ∀ op rest, tokens = .operator op :: rest → op.tier ∉ tiers

theorem ends_of_no_operator {tiers : List Tier} {token : Token} {rest : List Token}
    (h : ∀ op, token ≠ .operator op) : Ends tiers (token :: rest) :=
  fun op _ hts => absurd (List.cons.inj hts).1 (h op)

theorem ends_operator {tiers : List Tier} {op : Operator} (hop : op.tier ∉ tiers)
    (rest : List Token) : Ends tiers (.operator op :: rest) := by
  intro op' ts hts
  obtain rfl := Token.operator.inj (List.cons.inj hts).1
  exact hop

theorem readOperations_ends {tier : Tier} {tighter : List Tier} {tokens : List Token}
    (h : Ends (tier :: tighter) tokens) (depth : Nat) (left : Expr) :
    readOperations tier tighter depth left tokens = .ok (left, tokens) := by
  cases tokens with
  | nil =>
    rw [readOperations, chain]
    rfl
  | cons token rest =>
    have hnone : operatorOf? tier token = none := by
      cases token with
      | operator op => exact if_neg fun hop => h op rest rfl (by simp [hop])
      | _ => rfl
    rw [readOperations, chain]
    split
    · rfl
    · next op hop =>
      rw [hnone] at hop
      cases hop

theorem readExpression_leftParen {depth : Nat} (hdepth : ¬ depthLimit ≤ depth)
    (rest : List Token) :
    readExpression [] depth (.leftParen :: rest) =
      readExpression Tier.all (depth + 1) rest >>= fun x =>
        match x.2 with
        | .rightParen :: after => .ok (x.1, after)
        | other => .error (unclosedAt other) := by
  rw [readExpression_nil, operand, if_neg hdepth, readExpression]
  cases expression Tier.all (depth + 1) rest with
  | error error => rfl
  | ok inside =>
    obtain ⟨e, rest', hshorter⟩ := inside
    cases rest' with
    | nil => rfl
    | cons token after => cases token <;> rfl

theorem readExpression_of_name {depth : Nat} (hdepth : depthLimit ≤ depth) (f : String)
    (rest : List Token) : readExpression [] depth (.name f :: rest) = .error .tooDeep := by
  rw [readExpression_nil]
  unfold operand
  rw [if_pos hdepth]
  rfl

theorem readExpression_sign {depth : Nat} (hdepth : ¬ depthLimit ≤ depth) {op : Operator}
    (hop : op.tier = .sum) (rest : List Token) :
    readExpression [] depth (.operator op :: rest) =
      readExpression [] (depth + 1) rest >>= fun x =>
        bounded (.binary op zero x.1) >>= fun e => .ok (e, x.2) := by
  rw [readExpression_nil, operand, if_neg (not_not_intro hop), if_neg hdepth, readExpression_nil]
  cases operand (depth + 1) rest with
  | error error => rfl
  | ok read =>
    show Except.map _ (bounded (.binary op zero read.expr) >>= _) =
      bounded (.binary op zero read.expr) >>= _
    cases bounded (.binary op zero read.expr) with
    | error error => rfl
    | ok e => rfl

theorem readExpression_emptyCall {depth : Nat} (hdepth : ¬ depthLimit ≤ depth) (f : String)
    (rest : List Token) :
    readExpression [] depth (.name f :: .leftParen :: .rightParen :: rest) =
      bounded (.call f []) >>= fun e => .ok (e, rest) := by
  rw [readExpression_nil, operand, if_neg hdepth, arguments]
  show Except.map (fun p => (p.expr, p.rest)) (bounded (.call f []) >>= fun e =>
    (pure ⟨e, rest, _⟩ : Except FormulaError (Parsed _))) = _
  cases bounded (.call f []) with
  | error error => rfl
  | ok e => rfl

theorem readExpression_call {depth : Nat} (hdepth : ¬ depthLimit ≤ depth) (f : String)
    {token : Token} (htoken : token ≠ .rightParen) (inside : List Token) :
    readExpression [] depth (.name f :: .leftParen :: token :: inside) =
      readArguments (depth + 1) (token :: inside) >>= fun x =>
        bounded (.call f x.1) >>= fun e => .ok (e, x.2) := by
  have hargs : arguments (depth + 1) (token :: inside) =
      moreArguments (depth + 1) (token :: inside) := by
    rw [arguments]
    intro rest h
    exact htoken (List.cons.inj h).1
  rw [readExpression_nil, operand, if_neg hdepth, hargs, readArguments]
  cases moreArguments (depth + 1) (token :: inside) with
  | error error => rfl
  | ok read =>
    show Except.map _ (bounded (.call f read.args) >>= _) = bounded (.call f read.args) >>= _
    cases bounded (.call f read.args) with
    | error error => rfl
    | ok e => rfl

theorem readArguments_eq (depth : Nat) (tokens : List Token) :
    readArguments depth tokens =
      readExpression Tier.all depth tokens >>= fun x =>
        match x.2 with
        | .rightParen :: rest => .ok ([x.1], rest)
        | .comma :: rest => readArguments depth rest >>= fun y => .ok (x.1 :: y.1, y.2)
        | other => .error (unclosedAt other) := by
  rw [readArguments, moreArguments, readExpression]
  cases expression Tier.all depth tokens with
  | error error => rfl
  | ok first =>
    obtain ⟨e, rest, hshorter⟩ := first
    cases rest with
    | nil => rfl
    | cons token rest =>
      cases token with
      | comma =>
        show Except.map (fun p => (p.args, p.rest)) (moreArguments depth rest >>= fun others =>
            (pure ⟨e :: others.args, others.rest, _⟩ : Except FormulaError (Arguments _))) =
          readArguments depth rest >>= _
        rw [readArguments]
        cases moreArguments depth rest with
        | error error => rfl
        | ok others => rfl
      | _ => rfl

/-! ### Results under a condition -/

/-- The result under a condition, without which something is too deep. -/
def limited {α : Type} (c : Prop) [Decidable c] (x : α) : Except FormulaError α :=
  if c then .ok x else .error .tooDeep

theorem limited_bind {α β : Type} (c : Prop) [Decidable c] (x : α) (f : α → Except FormulaError β) :
    limited c x >>= f = if c then f x else .error .tooDeep := by
  unfold limited
  split
  · rfl
  · rfl

theorem bounded_eq_limited (e : Expr) : bounded e = limited (e.height ≤ depthLimit) e := by
  unfold bounded limited
  by_cases h : e.height ≤ depthLimit
  · rw [if_pos h, if_neg (Nat.not_lt.2 h)]
  · rw [if_neg h, if_pos (Nat.not_le.1 h)]

theorem limited_bind_bounded {α β : Type} (c : Prop) [Decidable c] (x : α) (f : α → Expr)
    (g : α → Expr → β) :
    (limited c x >>= fun x => bounded (f x) >>= fun e => .ok (g x e)) =
      limited (c ∧ (f x).height ≤ depthLimit) (g x (f x)) := by
  rw [limited_bind, bounded_eq_limited, limited_bind, limited, ite_and]

theorem limited_congr {α : Type} {c d : Prop} [Decidable c] [Decidable d] (h : c ↔ d) (x : α) :
    limited c x = limited d x :=
  if_congr h rfl rfl

/-! ### Phrases at the front of the tokens -/

theorem height_binary (op : Operator) (left right : Expr) :
    (binary op left right).height = 1 + max left.height right.height := by
  rw [height]

theorem height_call (f : String) (args : List Expr) :
    (call f args).height = 1 + heights args := by
  rw [height]

theorem heights_cons (e : Expr) (args : List Expr) :
    heights (e :: args) = max e.height (heights args) := by
  rw [heights]

theorem limited_leaf {α : Type} {depth : Nat} (hdepth : depth ≤ depthLimit) {e : Expr}
    (he : e.height = 1) (x : α) :
    limited (depth + 0 ≤ depthLimit ∧ e.height ≤ depthLimit) x = .ok x :=
  if_pos ⟨hdepth, by rw [he]; decide⟩

/-- What reading gives when a phrase stands at the front of the tokens.  An expression may still be
followed by operators of its weakest tier. -/
def Complete : Phrase → Nat → List Token → Prop
  | .expression [] e, n, ts => ∀ depth rest, depth ≤ depthLimit →
    readExpression [] depth (ts ++ rest) =
      limited (depth + n ≤ depthLimit ∧ e.height ≤ depthLimit) (e, rest)
  | .expression (tier :: tighter) e, n, ts => (tier :: tighter).Nodup →
    ∀ depth rest, depth ≤ depthLimit → Ends tighter rest →
      readExpression (tier :: tighter) depth (ts ++ rest) =
        limited (depth + n ≤ depthLimit ∧ e.height ≤ depthLimit) e >>= fun e =>
          readOperations tier tighter depth e rest
  | .arguments args, n, ts => ∀ depth rest, depth ≤ depthLimit →
    readArguments depth (ts ++ .rightParen :: rest) =
      limited (depth + n ≤ depthLimit ∧ heights args ≤ depthLimit) (args, rest)

theorem Complete.readExpression {tiers : List Tier} {e : Expr} {n : Nat} {ts : List Token}
    (h : Complete (.expression tiers e) n ts) (htiers : tiers.Nodup) {depth : Nat}
    (hdepth : depth ≤ depthLimit) {rest : List Token} (hrest : Ends tiers rest) :
    readExpression tiers depth (ts ++ rest) =
      limited (depth + n ≤ depthLimit ∧ e.height ≤ depthLimit) (e, rest) := by
  cases tiers with
  | nil => exact h depth rest hdepth
  | cons tier tighter =>
    have htighter : Ends tighter rest := fun op ts hts hop =>
      hrest op ts hts (List.mem_cons_of_mem tier hop)
    rw [h htiers depth rest hdepth htighter, limited_bind, readOperations_ends hrest]
    rfl

theorem complete_of_derives {phrase : Phrase} {n : Nat} {ts : List Token}
    (h : Derives phrase n ts) : Complete phrase n ts := by
  have hall : Tier.all.Nodup := by decide
  -- the left side of an operation ends before the operator, which belongs to no tighter tier
  induction h with
  | number x =>
    intro depth rest hdepth
    rw [readExpression_nil, List.singleton_append, operand, limited_leaf hdepth (by simp [height])]
    rfl
  | text s =>
    intro depth rest hdepth
    rw [readExpression_nil, List.singleton_append, operand, limited_leaf hdepth (by simp [height])]
    rfl
  | boolean b =>
    intro depth rest hdepth
    rw [readExpression_nil, List.singleton_append, operand, limited_leaf hdepth (by simp [height])]
    rfl
  | cell a =>
    intro depth rest hdepth
    rw [readExpression_nil, List.singleton_append, operand, limited_leaf hdepth (by simp [height])]
    rfl
  | range r =>
    intro depth rest hdepth
    rw [readExpression_nil, List.singleton_append, operand, limited_leaf hdepth (by simp [height])]
    rfl
  | brackets _ ih =>
    intro depth rest hdepth
    rw [List.cons_append, List.append_assoc, List.singleton_append]
    by_cases hfull : depthLimit ≤ depth
    · rw [readExpression_nil, operand, if_pos hfull]
      exact (if_neg (by omega)).symm
    · rw [readExpression_leftParen hfull, ih.readExpression hall (by omega)
        (ends_of_no_operator (by simp)), limited_bind]
      exact if_congr (by omega) rfl rfl
  | sign hop _ ih =>
    intro depth rest hdepth
    rw [List.cons_append]
    by_cases hfull : depthLimit ≤ depth
    · rw [readExpression_nil, operand, if_neg (not_not_intro hop), if_pos hfull]
      exact (if_neg (by omega)).symm
    · rw [readExpression_sign hfull hop, ih (depth + 1) rest (by omega), limited_bind_bounded]
      exact limited_congr (by simp only [height_binary]; omega) _
  | emptyCall f =>
    intro depth rest hdepth
    rw [List.cons_append, List.cons_append, List.singleton_append]
    by_cases hfull : depthLimit ≤ depth
    · rw [readExpression_of_name hfull]
      exact (if_neg (by omega)).symm
    · rw [readExpression_emptyCall hfull, bounded_eq_limited, limited_bind]
      exact if_congr (by omega) rfl rfl
  | call f h ih =>
    intro depth rest hdepth
    rw [List.cons_append, List.cons_append, List.append_assoc, List.singleton_append]
    by_cases hfull : depthLimit ≤ depth
    · rw [readExpression_of_name hfull]
      exact (if_neg (by omega)).symm
    · obtain ⟨token, inside, rfl, htoken⟩ := h.exists_cons
      rw [List.cons_append, readExpression_call hfull f htoken, ← List.cons_append,
        ih (depth + 1) rest (by omega), limited_bind_bounded]
      exact limited_congr (by simp only [height_call]; omega) _
  | tighter _ ih =>
    intro htiers depth rest hdepth hrest
    rw [readExpression_cons, ih.readExpression (List.nodup_cons.1 htiers).2 hdepth hrest,
      limited_bind, limited_bind]
  | binary _ _ ihleft ihright =>
    intro htiers depth rest hdepth hrest
    obtain ⟨hop, htighter⟩ := List.nodup_cons.1 htiers
    rw [List.append_assoc, List.cons_append, ihleft htiers depth _ hdepth (ends_operator hop _),
      limited_bind, readOperations_operator rfl, ihright.readExpression htighter hdepth hrest,
      limited_bind, bounded_eq_limited, limited_bind, limited_bind, ← ite_and, ← ite_and]
    exact if_congr (by simp only [height_binary]; omega) rfl rfl
  | lastArgument _ ih =>
    intro depth rest hdepth
    rw [readArguments_eq, ih.readExpression hall hdepth (ends_of_no_operator (by simp)),
      limited_bind]
    exact if_congr (by rw [heights_cons, heights]; omega) rfl rfl
  | argument _ _ ih ihothers =>
    intro depth rest hdepth
    rw [List.append_assoc, List.cons_append, readArguments_eq,
      ih.readExpression hall hdepth (ends_of_no_operator (by simp)), limited_bind]
    dsimp only
    rw [ihothers depth rest hdepth, limited_bind, ← ite_and]
    exact if_congr (by simp only [heights_cons]; omega) rfl rfl

theorem ofTokens_eq (tokens : List Token) :
    ofTokens tokens = readExpression Tier.all 0 tokens >>= fun x =>
      match x.2 with
      | [] => .ok x.1
      | token :: _ => .error (.leftOver token) := by
  rw [ofTokens, readExpression]
  cases expression Tier.all 0 tokens with
  | error error => rfl
  | ok read =>
    obtain ⟨e, rest, hshorter⟩ := read
    cases rest with
    | nil => rfl
    | cons token rest => rfl

/-- **What derives is read**, unless it nests too deep or its tree is too high. -/
theorem ofTokens_of_derives {tokens : List Token} {e : Expr} {n : Nat}
    (h : Derives (.expression Tier.all e) n tokens) :
    ofTokens tokens = limited (n ≤ depthLimit ∧ e.height ≤ depthLimit) e := by
  have hends : Ends Tier.all [] := fun op rest h => by cases h
  have hread := (complete_of_derives h).readExpression (by decide) (Nat.zero_le depthLimit) hends
  rw [List.append_nil, Nat.zero_add] at hread
  rw [ofTokens_eq, hread, limited_bind]
  rfl

end Worksheet.Expr
