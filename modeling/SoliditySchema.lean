import SoliditySchema.CommandLine
import SoliditySchema.Config
import SoliditySchema.Diagnostic
import SoliditySchema.Event
import SoliditySchema.Extraction
import SoliditySchema.FileTree
import SoliditySchema.Format
import SoliditySchema.Grammar.Automaton
import SoliditySchema.Grammar.Kernel
import SoliditySchema.Grammar.Reading
import SoliditySchema.Grammar.Rule
import SoliditySchema.Grammar.Symbol
import SoliditySchema.Grammar.Value
import SoliditySchema.Identifier
import SoliditySchema.Item
import SoliditySchema.Item.ByteWalk
import SoliditySchema.Json
import SoliditySchema.Json.Fault
import SoliditySchema.Json.Input
import SoliditySchema.Json.Shape
import SoliditySchema.Json.Shape.OfText
import SoliditySchema.Json.Shape.OfValue
import SoliditySchema.Main
import SoliditySchema.Number.Binary64
import SoliditySchema.Outline
import SoliditySchema.Outline.OfText
import SoliditySchema.Outline.OfTree
import SoliditySchema.Proofs.CommandLine.Phrases
import SoliditySchema.Proofs.Extraction.Journal
import SoliditySchema.Proofs.Extraction.Leftovers
import SoliditySchema.Proofs.Extraction.Names
import SoliditySchema.Proofs.Extraction.Outcome
import SoliditySchema.Proofs.Grammar.Behind
import SoliditySchema.Proofs.Grammar.Steps
import SoliditySchema.Proofs.Outline.Blame
import SoliditySchema.Proofs.Outline.Marks
import SoliditySchema.Proofs.Report
import SoliditySchema.Proofs.Schema.ColumnType
import SoliditySchema.Proofs.Schema.JsonSpelling
import SoliditySchema.Proofs.Schema.Tabular
import SoliditySchema.Proofs.Text.LineColumn
import SoliditySchema.Report
import SoliditySchema.Schema
import SoliditySchema.Schema.JsonForm
import SoliditySchema.Schema.Listing
import SoliditySchema.Schema.OfContract
import SoliditySchema.Schema.Script
import SoliditySchema.Schema.Tabular
import SoliditySchema.SourceTree
import SoliditySchema.SyntaxError
import SoliditySchema.Text.Blank
import SoliditySchema.Text.CodeRange
import SoliditySchema.Text.DecimalDigit
import SoliditySchema.Text.IdentifierChar
import SoliditySchema.Text.Line
import SoliditySchema.Text.Position
import SoliditySchema.Text.Visible
import SoliditySchema.Token
import SoliditySchema.Token.Keyword
import SoliditySchema.Token.Lexeme
import SoliditySchema.Token.Operator
