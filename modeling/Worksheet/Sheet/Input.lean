import Worksheet.Value.Coercion

/-!
# What is written into a cell

Typed text is taken the way an editor of a sheet takes it: blank text clears the cell, an equals
sign begins a formula, and numerals and truth words are the values they name.
-/

namespace Worksheet

/-- What a user writes into a cell. -/
inductive Input where
  | empty
  | value (v : Value)
  /-- The text of a formula, with its equals sign. -/
  | formula (source : String)
deriving Repr

namespace Input

/-- A value as an input; no value clears the cell. -/
def ofValue : Value → Input
  | .empty => empty
  | v => value v

/-- What a typed text means. -/
def ofText (s : String) : Input :=
  let trimmed := Text.trimChars s.toList
  match trimmed with
  | [] => empty
  | '=' :: _ => formula (String.ofList trimmed)
  | _ =>
    match Number.readFinite? trimmed with
    | some n => value (.number n)
    | none =>
      match Value.truthOfWord? (String.ofList trimmed) with
      | some b => value (.boolean b)
      | none => value (.text s)

/-- A formula, its equals sign added if it is missing. -/
def ofFormula (s : String) : Input :=
  match Text.trimChars s.toList with
  | '=' :: rest => formula (String.ofList ('=' :: rest))
  | body => formula (String.ofList ('=' :: body))

end Input

end Worksheet
