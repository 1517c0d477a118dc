import Worksheet.Sheet.Write

/-!
# Scripts

A script has one write to a line: an address, white space, and what is typed into the cell.  Blank
lines and lines that begin with `#` are passed over, and an address alone clears the cell.  A script
with a wrong address anywhere writes nothing.
-/

namespace Worksheet

/-- One write of a script. -/
structure ScriptWrite where
  address : Address
  input : Input

/-- A line whose first word is no address; lines are counted from one. -/
structure ScriptError where
  line : Nat
  word : String
deriving DecidableEq, Repr

namespace ScriptError

/-- What the error says to the user. -/
def message (e : ScriptError) : String :=
  "line " ++ toString e.line ++ ": invalid cell address '" ++ e.word ++ "'"

end ScriptError

namespace Script

/-- The lines of a text, each of which ends with a line feed or with the text. -/
def lines (s : List Char) : List (List Char) :=
  if s.isEmpty then []
  else s.takeWhile (· != '\n') :: lines ((s.dropWhile (· != '\n')).drop 1)
termination_by s.length
decreasing_by
  have := (List.dropWhile_sublist (l := s) (· != '\n')).length_le
  cases s with
  | nil => contradiction
  | cons c rest =>
    simp only [List.length_drop, List.length_cons] at *
    omega

/-- The write on a line, if it holds one; `number` counts the line. -/
def readLine (number : Nat) (line : List Char) : Except ScriptError (Option ScriptWrite) :=
  match Text.trimChars line with
  | [] => .ok none
  | '#' :: _ => .ok none
  | s =>
    let word := s.takeWhile fun c => !Text.isBlank c
    match Address.readTrimmed word with
    | .error _ => .error ⟨number, String.ofList word⟩
    | .ok a =>
      let typed := Text.trimChars (s.dropWhile fun c => !Text.isBlank c)
      .ok (some ⟨a, .ofText (String.ofList typed)⟩)

/-- The writes on some lines, the first of which has this number. -/
def readLines (number : Nat) : List (List Char) → Except ScriptError (List ScriptWrite)
  | [] => .ok []
  | line :: rest => do
    let first ← readLine number line
    let others ← readLines (number + 1) rest
    return first.toList ++ others

/-- The writes of a script, in the order of its lines. -/
def ofText (s : String) : Except ScriptError (List ScriptWrite) :=
  readLines 1 (lines s.toList)

/-- The sheet after some writes. -/
def apply (s : Sheet) (writes : List ScriptWrite) : Sheet :=
  writes.foldl (fun s w => s.set w.address w.input) s

end Script

end Worksheet
