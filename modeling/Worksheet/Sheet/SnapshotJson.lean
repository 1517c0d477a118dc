import Worksheet.Json.Reader
import Worksheet.Json.Writer
import Worksheet.Sheet.Snapshot

/-!
# Snapshots as JSON

A snapshot is an object with the members `address` and `content`; the member `kind` of the content
says which of the three forms it has.  A value is written with the name of its kind as the only key,
the missing value as a bare name.  Reading takes members in any order, passes over members it does
not know, and takes an array in place of an object, its items in the order of the members.  As the
kind may stand last, the whole content is read before it is taken for one of the three forms, so
also the members that are passed over in it have to be plain and not too deep.
-/

namespace Worksheet

namespace CellError

/-- The name of the error in a stored value. -/
def storedName : CellError → String
  | divisionByZero => "Div0"
  | unknownName => "Name"
  | badReference => "Ref"
  | badValue => "Value"
  | circular => "Circular"
  | badFormula => "Formula"

/-- The error with this name. -/
def ofStoredName? (s : String) : Option CellError :=
  all.find? fun e => e.storedName == s

/-- The error that a stored value holds; its name may also be a key without a value. -/
def ofJson? : Json → Option CellError
  | .string (some s) => ofStoredName? s
  | .object [(some s, .null)] => ofStoredName? s
  | .object [(some s, .object [])] => ofStoredName? s
  | _ => none

end CellError

namespace Value

/-- The value as it is stored. -/
def toJson : Value → Json
  | empty => .text "Empty"
  | number n => .record [("Number", .ofFloat n)]
  | text s => .record [("Text", .text s)]
  | boolean b => .record [("Boolean", .bool b)]
  | error e => .record [("Error", .text e.storedName)]

/-- The value whose kind has this name, read from what is stored under it. -/
def ofStored? (kind : String) (j : Json) : Option Value :=
  match kind, j with
  | "Empty", .null => some empty
  | "Empty", .object [] => some empty
  | "Number", .number numeral => (Json.float? numeral).map number
  | "Text", .string (some s) => some (text s)
  | "Boolean", .bool b => some (boolean b)
  | "Error", j => (CellError.ofJson? j).map error
  | _, _ => none

/-- The value that is stored. -/
def ofJson? : Json → Option Value
  | .string (some "Empty") => some empty
  | .object [(some kind, j)] => ofStored? kind j
  | _ => none

end Value

namespace Address

/-- The address as it is stored. -/
def toJson (a : Address) : Json :=
  .record [("row", .ofNat a.row.toNat), ("col", .ofNat a.col.toNat)]

/-- The address with the stored row and column. -/
def ofParts? : Json → Json → Option Address
  | .number row, .number col => do
    let row ← Json.natural? (UInt32.size - 1) row
    let col ← Json.natural? (UInt16.size - 1) col
    return ⟨row.toUInt32, col.toUInt16⟩
  | _, _ => none

/-- The address that is stored. -/
def ofJson? : Json → Option Address
  | .array [row, col] => ofParts? row col
  | .object members => do
    guard (Json.namesAll members)
    ofParts? (← Json.member? members "row") (← Json.member? members "col")
  | _ => none

end Address

namespace Content

/-- The members that say what a cell held. -/
def members : Content → List (String × Json)
  | empty => [("kind", .text "empty")]
  | value v => [("kind", .text "value"), ("value", v.toJson)]
  | formula source dependencies =>
    [("kind", .text "formula"), ("source", .text source),
      ("dependencies", .array (dependencies.map Address.toJson))]

/-- What a cell held, as it is stored. -/
def toJson (c : Content) : Json :=
  .record c.members

/-- A formula from its stored source and dependencies. -/
def formulaOf? : Json → Json → Option Content
  | .string (some source), .array items => (items.mapM Address.ofJson?).map (formula source)
  | _, _ => none

/-- The content of this kind, read from the other items of an array. -/
def ofItems? (kind : String) (items : List Json) : Option Content :=
  match kind, items with
  | "empty", _ => some empty
  | "value", [v] => (Value.ofJson? v).map value
  | "formula", [source, dependencies] => formulaOf? source dependencies
  | _, _ => none

/-- The content of this kind, read from the other members of an object. -/
def ofMembers? (kind : String) (members : List (Option String × Json)) : Option Content :=
  match kind with
  | "empty" => some empty
  | "value" => do return value (← Value.ofJson? (← Json.member? members "value"))
  | "formula" => do
    formulaOf? (← Json.member? members "source") (← Json.member? members "dependencies")
  | _ => none

/-- How deep the parts of a content may nest: no value may nest deeper than 127, and the snapshot
around the content is one level. -/
def depthBound : Nat := 126

/-- What a cell held, read from what is stored.  All of it has to be plain, also the members that
are passed over. -/
def ofJson? (j : Json) : Option Content := do
  guard (j.isPlain && decide (j.depth ≤ depthBound))
  match j with
  | .array (.string (some kind) :: items) => ofItems? kind items
  | .object members =>
    match Json.member? members "kind" with
    | some (.string (some kind)) => ofMembers? kind members
    | _ => none
  | _ => none

end Content

namespace Snapshot

/-- The snapshot as it is stored. -/
def toJson (s : Snapshot) : Json :=
  .record [("address", s.address.toJson), ("content", s.content.toJson)]

/-- The snapshot that is stored. -/
def ofJson? : Json → Option Snapshot
  | .array [address, content] => do
    return ⟨← Address.ofJson? address, ← Content.ofJson? content⟩
  | .object members => do
    guard (Json.namesAll members)
    let address ← Json.member? members "address"
    let content ← Json.member? members "content"
    return ⟨← Address.ofJson? address, ← Content.ofJson? content⟩
  | _ => none

/-- The text of a snapshot, on one line. -/
def text (s : Snapshot) : String :=
  s.toJson.toLine

/-- The snapshot that a text holds. -/
def ofText? (s : String) : Option Snapshot := do
  ofJson? (← Json.ofText? s)

end Snapshot

end Worksheet
