import Worksheet.Script.Basic
import Worksheet.Sheet.Read
import Worksheet.Sheet.SnapshotJson

/-!
# Commands

A command applies a script to an empty sheet and prints what the sheet then holds: values line by
line, one snapshot as JSON, or a summary.  A command that fails prints nothing but its report.
-/

namespace Worksheet

/-- What is printed of a sheet. -/
inductive Command where
  /-- The values of these cells, or of all cells in use if none is named. -/
  | run (cells : List String)
  /-- The snapshot of a cell. -/
  | snapshot (cell : String)
  /-- The numbers of cells, formulas and errors, and the errors themselves. -/
  | info

/-- What a program leaves behind. -/
structure Outcome where
  code : UInt32
  stdout : String
  stderr : String
deriving DecidableEq, Repr

/-- Why a command fails. -/
inductive CommandError where
  /-- The script with this name cannot be read. -/
  | script (name : String) (cause : ScriptError)
  | address (text : String) (cause : AddressError)
deriving DecidableEq, Repr

namespace CommandError

/-- What failed. -/
def summary : CommandError → String
  | script name _ => "Failed to parse script '" ++ name ++ "'"
  | address text _ => "Invalid address '" ++ text ++ "'"

/-- Why it failed. -/
def cause : CommandError → String
  | script _ cause => cause.message
  | address _ cause => cause.message

/-- The text with every line indented by four blanks. -/
def indent (s : String) : String :=
  String.ofList (' ' :: ' ' :: ' ' :: ' ' :: s.toList.flatMap fun c =>
    if c = '\n' then [c, ' ', ' ', ' ', ' '] else [c])

/-- The report of a failure: what failed, and why. -/
def report (e : CommandError) : String :=
  "Error: " ++ e.summary ++ "\n\nCaused by:\n" ++ indent e.cause ++ "\n"

end CommandError

namespace Command

/-- The name of the script that comes from standard input. -/
def scriptName : String := "-"

/-- A cell and its value on a line. -/
def valueLine (a : Address) (v : Value) : String :=
  a.text ++ "\t" ++ v.display ++ "\n"

/-- The cell that an argument names. -/
def readCell (text : String) : Except CommandError Address :=
  (Address.ofText text).mapError (.address text)

/-- The lines of `run`. -/
def printValues (s : Sheet) (cells : List Address) : String :=
  let values := (Sheet.getAll cells s).1
  String.join (List.zipWith valueLine cells values)

/-- The lines of `info`. -/
def printInfo (s : Sheet) : String :=
  let cells := s.used
  let values := (Sheet.getAll cells s).1
  let errors := (cells.zip values).filter fun (_, v) => v.isError
  "Script: " ++ scriptName ++ "\n" ++
    "Cells: " ++ toString cells.length ++ "\n" ++
    "Formulas: " ++ toString s.formulas.length ++ "\n" ++
    "Errors: " ++ toString errors.length ++ "\n" ++
    String.join (errors.map fun (a, v) => "  " ++ valueLine a v)

/-- What a command prints of a sheet. -/
def output (s : Sheet) : Command → Except CommandError String
  | run [] => .ok (printValues s s.used)
  | run cells => do return printValues s (← cells.mapM readCell)
  | snapshot cell => do return (s.snapshot (← readCell cell)).toJson.toLines ++ "\n"
  | info => .ok (printInfo s)

/-- What is said of a script that was applied. -/
def applied (s : Sheet) : String :=
  "Applied " ++ toString s.size ++ " cells (" ++ toString s.formulas.length ++ " formulas)\n"

/-- Runs a command on a script. -/
def execute (options : Options) (script : String) (command : Command) : Outcome :=
  match Script.ofText script with
  | .error e => ⟨1, "", (CommandError.script scriptName e).report⟩
  | .ok writes =>
    let s := Script.apply (Sheet.new options) writes
    match command.output s with
    | .error e => ⟨1, "", applied s ++ e.report⟩
    | .ok text => ⟨0, text, applied s⟩

end Command

end Worksheet
