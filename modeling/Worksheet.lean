import Worksheet.Text.Blank
import Worksheet.Text.Ascii
import Worksheet.Text.Casing
import Worksheet.Text.Quoted
import Worksheet.Number.Layout
import Worksheet.Number.Numeral
import Worksheet.Grid.A1
import Worksheet.Grid.Range
import Worksheet.Value.Order
import Worksheet.Formula.Lexer
import Worksheet.Formula.Parser
import Worksheet.Evaluation
import Worksheet.Graph.Order
import Worksheet.Sheet.Read
import Worksheet.Sheet.Snapshot
import Worksheet.Json.Writer
import Worksheet.Json.Reader
import Worksheet.Sheet.SnapshotJson
import Worksheet.Locks
import Worksheet.Script.Command
import Worksheet.Main
import Worksheet.Proofs.Except
import Worksheet.Proofs.Grid.AddressMap
import Worksheet.Proofs.Grid.Range
import Worksheet.Proofs.Formula.Grammar
import Worksheet.Proofs.Formula.Sound
import Worksheet.Proofs.Formula.Complete
import Worksheet.Proofs.Formula.Parsing
import Worksheet.Proofs.Formula.Size
import Worksheet.Proofs.Evaluation
import Worksheet.Proofs.Graph.Search
import Worksheet.Proofs.Graph.Edges
import Worksheet.Proofs.Graph.Changes
import Worksheet.Proofs.Graph.Cycles
import Worksheet.Proofs.Graph.Order
import Worksheet.Proofs.Sheet.Content
import Worksheet.Proofs.Sheet.Write
import Worksheet.Proofs.Sheet.Read
import Worksheet.Proofs.Sheet.Run
import Worksheet.Proofs.Sheet.Circular
import Worksheet.Proofs.Sheet.Consistency
import Worksheet.Proofs.Sheet.Locality
import Worksheet.Proofs.Sheet.Nesting
import Worksheet.Proofs.Sheet.Undo
import Worksheet.Proofs.Grid.A1
import Worksheet.Proofs.Formula.Lexemes
import Worksheet.Proofs.Formula.WellFormed
import Worksheet.Proofs.Formula.Printing
import Worksheet.Proofs.Number.Interval
import Worksheet.Proofs.Number.Nearest
import Worksheet.Proofs.Number.Bits
import Worksheet.Proofs.Number.Scientific
import Worksheet.Proofs.Number.Shortest
import Worksheet.Proofs.Sheet.Cleaning
import Worksheet.Proofs.Sheet.Independence
import Worksheet.Proofs.Sheet.Copy
import Worksheet.Proofs.Sheet.Rejection
import Worksheet.Proofs.Graph.FoundCycle
import Worksheet.Proofs.Graph.Affected
import Worksheet.Proofs.Formula.Spelling
import Worksheet.Proofs.Formula.Prefix
import Worksheet.Proofs.Formula.Located
import Worksheet.Proofs.Grid.Notation
import Worksheet.Proofs.Number.Signed
import Worksheet.Proofs.Sheet.EditText
import Worksheet.Proofs.Json.Numeral
import Worksheet.Proofs.Json.ReadBack
import Worksheet.Proofs.Sheet.Stored
import Worksheet.Proofs.Formula.LexemeRules
import Worksheet.Proofs.Formula.Neighbours
import Worksheet.Proofs.Text.Recased
import Worksheet.Proofs.Formula.Matches
import Worksheet.Proofs.Formula.Recased
import Worksheet.Proofs.Formula.Blanks
import Worksheet.Proofs.Formula.Respelling
import Worksheet.Proofs.Errors
import Worksheet.Proofs.Sheet.Origin
import Worksheet.Proofs.Grid.Walk
import Worksheet.Proofs.Aggregates
import Worksheet.Proofs.Locks
import Worksheet.Proofs.Number.Order
import Worksheet.Proofs.Comparisons
import Worksheet.Proofs.Closure
import Worksheet.Proofs.Function.Kinds
import Worksheet.Proofs.Number.Finite
import Worksheet.Proofs.Sheet.Written
import Worksheet.Proofs.Sheet.Finite
import Worksheet.Proofs.Text.Casing
import Worksheet.Proofs.Formula.Literals
import Worksheet.Proofs.Formula.Count
import Worksheet.Proofs.Script.Reading
import Worksheet.Proofs.Script.OneLine
import Worksheet.Proofs.Script.Command
