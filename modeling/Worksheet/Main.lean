import Worksheet.Script.Command

/-!
# The command line

    worksheet run - [--get CELL]... [OPTION]...
    worksheet snapshot - CELL [OPTION]...
    worksheet info - [OPTION]...

The script comes from standard input.  The options are `--empty-average zero|div0`,
`--max-formula-len N` and `--max-referenced-cells N`.
-/

namespace Worksheet.Main

/-- What the words of a command line ask for. -/
structure Request where
  options : Options := {}
  cells : List String := []
  /-- The words that are no options. -/
  words : List String := []

/-- The request with one more cell to print. -/
def Request.addCell (r : Request) (cell : String) : Request :=
  { r with cells := r.cells ++ [cell] }

/-- The choice that a word names. -/
def averageOf? (word : String) : Option EmptyAverage :=
  [EmptyAverage.zero, .divisionByZero].find? fun choice => choice.word == word

/-- The number that a word of digits writes, if it fits a word of 64 bits. -/
def natural? (word : String) : Option Nat :=
  let digits := word.toList
  if digits.isEmpty || !digits.all Char.isDigit then none
  else if Text.decimalValue digits < UInt64.size then some (Text.decimalValue digits)
  else none

/-- Reads the words of a command line from left to right. -/
def parse (r : Request) : List String → Option Request
  | [] => some r
  | "--get" :: cell :: rest => parse (r.addCell cell) rest
  | "-g" :: cell :: rest => parse (r.addCell cell) rest
  | "--empty-average" :: word :: rest =>
    (averageOf? word).bind fun average =>
      parse { r with options := { r.options with average } } rest
  | "--max-formula-len" :: word :: rest =>
    (natural? word).bind fun maxFormulaLength =>
      parse { r with options := { r.options with maxFormulaLength } } rest
  | "--max-referenced-cells" :: word :: rest =>
    (natural? word).bind fun n =>
      parse { r with options := { r.options with maxReferencedCells := n.toUInt64 } } rest
  | word :: rest => parse { r with words := r.words ++ [word] } rest

/-- The command that a request makes. -/
def command? (r : Request) : Option Command :=
  match r.words, r.cells with
  | ["run", "-"], cells => some (.run cells)
  | ["snapshot", "-", cell], [] => some (.snapshot cell)
  | ["info", "-"], [] => some .info
  | _, _ => none

/-- What is said of a command line that makes no command. -/
def usage : String :=
  "Usage: worksheet <run|snapshot|info> - [CELL] [--get CELL]... [--empty-average zero|div0] " ++
    "[--max-formula-len N] [--max-referenced-cells N]\n"

/-- All of standard input. -/
def readAll (stream : IO.FS.Stream) : IO String := do
  let mut text := ""
  repeat
    let line ← stream.getLine
    if line.isEmpty then break
    text := text ++ line
  return text

end Worksheet.Main

open Worksheet Worksheet.Main in
/-- Reads the script, runs the command and prints what it leaves. -/
def main (args : List String) : IO UInt32 := do
  match parse {} args with
  | none =>
    (← IO.getStderr).putStr usage
    return 2
  | some request =>
    match command? request with
    | none =>
      (← IO.getStderr).putStr usage
      return 2
    | some command =>
      let script ← readAll (← IO.getStdin)
      let outcome := command.execute request.options script
      (← IO.getStderr).putStr outcome.stderr
      (← IO.getStdout).putStr outcome.stdout
      return outcome.code
