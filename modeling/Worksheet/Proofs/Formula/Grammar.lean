import Worksheet.Formula.Parser

/-!
# The grammar of formulas

`Derives` is the grammar in which formulas are read, as a relation between trees and tokens.  With
all tiers an expression is a comparison, with the tighter ones alone it is a sum, a product or an
operand.  An operation of a tier has an operation of the same tier only on its left, so operators
group from the left.  Along with the tree a derivation tells how deep its brackets, calls and signs
nest.
-/

namespace Worksheet

/-- The phrases of a formula. -/
inductive Phrase where
  /-- An expression whose operators outside of brackets belong to these tiers. -/
  | expression (tiers : List Tier) (e : Expr)
  /-- The arguments of a call, at least one. -/
  | arguments (args : List Expr)

/-- The tokens are a phrase in which brackets, calls and signs nest `n` deep. -/
inductive Derives : Phrase → Nat → List Token → Prop where
  | number (x : Float) : Derives (.expression [] (.literal (.number x))) 0 [.number x]
  | text (s : String) : Derives (.expression [] (.literal (.text s))) 0 [.text s]
  | boolean (b : Bool) : Derives (.expression [] (.literal (.boolean b))) 0 [.boolean b]
  | cell (a : Address) : Derives (.expression [] (.cell a)) 0 [.cell a]
  | range (r : Range) : Derives (.expression [] (.range r)) 0 [.range r]
  | brackets {e : Expr} {n : Nat} {ts : List Token} :
      Derives (.expression Tier.all e) n ts →
      Derives (.expression [] e) (n + 1) (.leftParen :: (ts ++ [.rightParen]))
  /-- A sign is an operation on zero. -/
  | sign {op : Operator} {e : Expr} {n : Nat} {ts : List Token} (hop : op.tier = .sum) :
      Derives (.expression [] e) n ts →
      Derives (.expression [] (.binary op .zero e)) (n + 1) (.operator op :: ts)
  | emptyCall (f : String) :
      Derives (.expression [] (.call f [])) 1 [.name f, .leftParen, .rightParen]
  | call (f : String) {args : List Expr} {n : Nat} {ts : List Token} :
      Derives (.arguments args) n ts →
      Derives (.expression [] (.call f args)) (n + 1)
        (.name f :: .leftParen :: (ts ++ [.rightParen]))
  | tighter {tier : Tier} {tighter : List Tier} {e : Expr} {n : Nat} {ts : List Token} :
      Derives (.expression tighter e) n ts → Derives (.expression (tier :: tighter) e) n ts
  | binary {tighter : List Tier} {op : Operator} {left right : Expr} {m n : Nat}
      {ts us : List Token} :
      Derives (.expression (op.tier :: tighter) left) m ts →
      Derives (.expression tighter right) n us →
      Derives (.expression (op.tier :: tighter) (.binary op left right)) (max m n)
        (ts ++ .operator op :: us)
  | lastArgument {e : Expr} {n : Nat} {ts : List Token} :
      Derives (.expression Tier.all e) n ts → Derives (.arguments [e]) n ts
  | argument {e : Expr} {args : List Expr} {m n : Nat} {ts us : List Token} :
      Derives (.expression Tier.all e) m ts → Derives (.arguments args) n us →
      Derives (.arguments (e :: args)) (max m n) (ts ++ .comma :: us)

/-- No phrase begins with a closing bracket. -/
theorem Derives.exists_cons {phrase : Phrase} {n : Nat} {ts : List Token}
    (h : Derives phrase n ts) : ∃ t rest, ts = t :: rest ∧ t ≠ .rightParen := by
  induction h with
  | tighter _ ih => exact ih
  | lastArgument _ ih => exact ih
  | binary _ _ ih _ =>
    obtain ⟨t, rest, rfl, ht⟩ := ih
    exact ⟨t, _, rfl, ht⟩
  | argument _ _ ih _ =>
    obtain ⟨t, rest, rfl, ht⟩ := ih
    exact ⟨t, _, rfl, ht⟩
  | _ => exact ⟨_, _, rfl, Token.noConfusion⟩

end Worksheet
