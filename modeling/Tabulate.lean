import Tabulate.Column
import Tabulate.ColumnType
import Tabulate.ColumnType.Json
import Tabulate.Derivation
import Tabulate.Derivation.ByName
import Tabulate.Derivation.ByPlace
import Tabulate.Derivation.Check
import Tabulate.Derivation.Lone
import Tabulate.Derivation.Natural
import Tabulate.Derivation.TimeAttribute
import Tabulate.Double
import Tabulate.Expression
import Tabulate.Expression.Json
import Tabulate.Fault
import Tabulate.Field
import Tabulate.Field.Json
import Tabulate.Json
import Tabulate.Json.Draft
import Tabulate.Json.Number
import Tabulate.Json.Outline
import Tabulate.Json.Printer
import Tabulate.Json.Record
import Tabulate.Json.Token
import Tabulate.Names
import Tabulate.Pipeline
import Tabulate.Schema
import Tabulate.Settings
import Tabulate.Settings.Load
import Tabulate.Shape
import Tabulate.Shape.Json
import Tabulate.Table
import Tabulate.Text.Blank
import Tabulate.Text.Ignorable
import Tabulate.Text.Mark
import Tabulate.Text.Numeral
import Tabulate.Text.Quoted
import Tabulate.Text.Unassigned
import Tabulate.Toml.Assembly
import Tabulate.Toml.Item
import Tabulate.Toml.Literal
import Tabulate.Toml.Token
import Tabulate.Proofs.Compatibility
import Tabulate.Proofs.Grant
import Tabulate.Proofs.Natural
import Tabulate.Proofs.Derive
import Tabulate.Proofs.Soundness
import Tabulate.Proofs.Reading
import Tabulate.Proofs.OwnNames
import Tabulate.Proofs.Projection
import Tabulate.Proofs.Selection
import Tabulate.Proofs.Chain
import Tabulate.Proofs.TimeTags
import Tabulate.Proofs.Assembly
import Tabulate.Proofs.Accessibility
import Tabulate.Proofs.Fresh
import Tabulate.Proofs.Stack
import Tabulate.Proofs.Encoding
import Tabulate.Proofs.Refusal
import Tabulate.Proofs.Drafting
import Tabulate.Proofs.Rereading
import Tabulate.Proofs.Meaning
import Tabulate.Proofs.Readers
import Tabulate.Proofs.Rewriting
import Tabulate.Proofs.Rebuilding
import Tabulate.Proofs.Overrides
import Tabulate.Proofs.Layers
import Tabulate.Proofs.Ambient
import Tabulate.Proofs.Demand
import Tabulate.Proofs.ByPlace
import Tabulate.Proofs.ByName
import Tabulate.Proofs.Lone
import Tabulate.Proofs.Search
import Tabulate.Proofs.Succession
import Tabulate.Proofs.Repetition
import Tabulate.Proofs.Obstacles
import Tabulate.Proofs.Columns
import Tabulate.Proofs.Independence
