import Worksheet.Formula.Expr
import Worksheet.Formula.Lexer

/-!
# Reading expressions

The tokens of a formula are read by the grammar

    comparison := sum (("=" | "<>" | "<" | "<=" | ">" | ">=") sum)*
    sum        := product (("+" | "-") product)*
    product    := operand (("*" | "/" | "%") operand)*
    operand    := number | text | truth value | address | range
                | name "(" [comparison ("," comparison)*] ")"
                | "(" comparison ")"
                | ("+" | "-") operand

with all operators grouping from the left.  A sign is an operation on zero.  Brackets, calls and
signs may nest `depthLimit` deep, and no tree may be higher than that.  Each function returns the
tokens that it leaves with a proof that there are fewer of them.
-/

namespace Worksheet.Expr

/-- A tree read from the front of some tokens, and the tokens after it. -/
structure Parsed (tokens : List Token) where
  expr : Expr
  rest : List Token
  shorter : rest.length < tokens.length

/-- A tree to which some of the tokens may have been added, and the tokens after it. -/
structure Extended (tokens : List Token) where
  expr : Expr
  rest : List Token
  no_longer : rest.length ≤ tokens.length

/-- The arguments of a call up to its closing bracket, and the tokens after it. -/
structure Arguments (tokens : List Token) where
  args : List Expr
  rest : List Token
  shorter : rest.length < tokens.length

/-- Refuses a tree that is too high. -/
def bounded (e : Expr) : Except FormulaError Expr :=
  if depthLimit < e.height then .error .tooDeep else .ok e

/-- The error where a closing bracket is missing. -/
def unclosedAt : List Token → FormulaError
  | [] => .unexpectedEnd
  | token :: _ => .unclosed token

/-- The operator at the front of the tokens, if it belongs to the tier. -/
def operatorOf? (tier : Tier) : Token → Option Operator
  | .operator op => if op.tier = tier then some op else none
  | _ => none

/-- The number that a sign operates on. -/
def zero : Expr := .literal (.number 0.0)

mutual

/-- Reads one operand; `depth` brackets, calls and signs are open around it. -/
def operand (depth : Nat) (tokens : List Token) : Except FormulaError (Parsed tokens) :=
  match tokens with
  | [] => .error .unexpectedEnd
  | .number n :: rest => .ok ⟨.literal (.number n), rest, by simp⟩
  | .text s :: rest => .ok ⟨.literal (.text s), rest, by simp⟩
  | .boolean b :: rest => .ok ⟨.literal (.boolean b), rest, by simp⟩
  | .cell a :: rest => .ok ⟨.cell a, rest, by simp⟩
  | .range r :: rest => .ok ⟨.range r, rest, by simp⟩
  | .name f :: rest =>
    if depthLimit ≤ depth then .error .tooDeep
    else match rest with
      | .leftParen :: inside => do
        let read ← arguments (depth + 1) inside
        let e ← bounded (.call f read.args)
        return ⟨e, read.rest, by have := read.shorter; simp only [List.length_cons]; omega⟩
      | _ => .error (.bareName f)
  | .leftParen :: rest =>
    if depthLimit ≤ depth then .error .tooDeep
    else do
      let inside ← expression Tier.all (depth + 1) rest
      match h : inside.rest with
      | .rightParen :: after =>
        return ⟨inside.expr, after, by have := inside.shorter; simp [h] at this ⊢; omega⟩
      | other => throw (unclosedAt other)
  | .operator op :: rest =>
    if op.tier ≠ .sum then .error (.unexpected (.operator op))
    else if depthLimit ≤ depth then .error .tooDeep
    else do
      let read ← operand (depth + 1) rest
      let e ← bounded (.binary op zero read.expr)
      return ⟨e, read.rest, by have := read.shorter; simp only [List.length_cons]; omega⟩
  | token :: _ => .error (.unexpected token)
termination_by 8 * tokens.length

/-- Reads an expression whose operators belong to these tiers, the weakest first. -/
def expression (tiers : List Tier) (depth : Nat) (tokens : List Token) :
    Except FormulaError (Parsed tokens) :=
  match tiers with
  | [] => operand depth tokens
  | tier :: tighter => do
    let first ← expression tighter depth tokens
    have := first.shorter
    let all ← chain tier tighter depth first.expr first.rest
    return ⟨all.expr, all.rest, by have := all.no_longer; omega⟩
termination_by 8 * tokens.length + tiers.length + 1

/-- Adds to a tree the operations of one tier that follow it, from left to right. -/
def chain (tier : Tier) (tighter : List Tier) (depth : Nat) (left : Expr) (tokens : List Token) :
    Except FormulaError (Extended tokens) :=
  match tokens with
  | [] => .ok ⟨left, [], Nat.le_refl _⟩
  | token :: rest =>
    match operatorOf? tier token with
    | none => .ok ⟨left, token :: rest, Nat.le_refl _⟩
    | some op => do
      let right ← expression tighter depth rest
      let e ← bounded (.binary op left right.expr)
      have := right.shorter
      let all ← chain tier tighter depth e right.rest
      return ⟨all.expr, all.rest, by have := all.no_longer; simp only [List.length_cons]; omega⟩
termination_by 8 * tokens.length + tighter.length + 1

/-- Reads the arguments of a call behind its opening bracket. -/
def arguments (depth : Nat) (tokens : List Token) : Except FormulaError (Arguments tokens) :=
  match tokens with
  | .rightParen :: rest => .ok ⟨[], rest, by simp⟩
  | tokens => moreArguments depth tokens
termination_by 8 * tokens.length + 6

/-- Reads at least one argument and all that follow it after commas. -/
def moreArguments (depth : Nat) (tokens : List Token) :
    Except FormulaError (Arguments tokens) := do
  let first ← expression Tier.all depth tokens
  have := first.shorter
  match h : first.rest with
  | .rightParen :: rest => return ⟨[first.expr], rest, by simp [h] at this; omega⟩
  | .comma :: rest =>
    have : rest.length < tokens.length := by simp [h] at this; omega
    let others ← moreArguments depth rest
    return ⟨first.expr :: others.args, others.rest, by have := others.shorter; omega⟩
  | other => throw (unclosedAt other)
termination_by 8 * tokens.length + 5

end

/-- The expression that tokens make, none left over. -/
def ofTokens (tokens : List Token) : Except FormulaError Expr := do
  let read ← expression Tier.all 0 tokens
  match read.rest with
  | [] => return read.expr
  | token :: _ => throw (.leftOver token)

/-- The characters of a formula, without blanks around it and without its equals sign. -/
def formulaBody (s : List Char) : List Char :=
  match Text.trimChars s with
  | '=' :: rest => rest
  | s => s

/-- The expression that the text of a formula writes; the equals sign in front may be missing. -/
def ofText (s : String) : Except FormulaError Expr := do
  let tokens ← Token.scan 0 (formulaBody s.toList)
  ofTokens tokens

end Worksheet.Expr
