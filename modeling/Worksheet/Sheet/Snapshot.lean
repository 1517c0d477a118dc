import Worksheet.Sheet.Write

/-!
# Snapshots

A snapshot is what was written into one cell, taken so that it can be written again.  The list of
the cells that a formula read is there to be looked at: restoring reads the formula anew.
-/

namespace Worksheet

/-- What a cell held. -/
inductive Content where
  | empty
  | value (v : Value)
  | formula (source : String) (dependencies : List Address)

/-- A cell and what it held. -/
structure Snapshot where
  address : Address
  content : Content

namespace Content

/-- What a cell holds. -/
def ofCell : Option Cell → Content
  | none => empty
  | some (.value v) => value v
  | some (.formula f) => formula f.source f.dependencies.toList
  | some (.rejected source _) => formula source []

/-- The input that writes the content again. -/
def toInput : Content → Input
  | empty => .empty
  | value v => .ofValue v
  | formula source _ => .formula source

end Content

namespace Sheet

/-- The snapshot of a cell. -/
def snapshot (s : Sheet) (a : Address) : Snapshot :=
  ⟨a, .ofCell s.cells[a]?⟩

/-- The snapshots of all cells in use. -/
def snapshots (s : Sheet) : List Snapshot :=
  s.used.map s.snapshot

/-- The sheet with a snapshot written back into its cell. -/
def restore (s : Sheet) (snap : Snapshot) : Sheet :=
  s.set snap.address snap.content.toInput

end Sheet

end Worksheet
