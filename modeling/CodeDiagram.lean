import CodeDiagram.Text.Blank
import CodeDiagram.Text.Search
import CodeDiagram.Decimal.Rounding
import CodeDiagram.Decimal.Shortest
import CodeDiagram.Json.Basic
import CodeDiagram.Json.Position
import CodeDiagram.Json.Error
import CodeDiagram.Json.Literal
import CodeDiagram.Json.Lexeme
import CodeDiagram.Json.Reader
import CodeDiagram.Json.Printer
import CodeDiagram.Kind
import CodeDiagram.Identifier.Basic
import CodeDiagram.Identifier.Table
import CodeDiagram.Plan.Vocabulary
import CodeDiagram.Plan.Cardinality
import CodeDiagram.Plan.Basic
import CodeDiagram.Plan.Naming
import CodeDiagram.Plan.Repair
import CodeDiagram.Plan.Defect
import CodeDiagram.Plan.Schema
import CodeDiagram.Document.Basic
import CodeDiagram.Document.Label
import CodeDiagram.Document.Compile
import CodeDiagram.Pipeline
import CodeDiagram.Chat.Prompt
import CodeDiagram.Chat.Extract
import CodeDiagram.Chat.Answer
import CodeDiagram.Chat.Gateway
import CodeDiagram.Chat.Session
import CodeDiagram.Settings.Toml
import CodeDiagram.Settings.Basic
import CodeDiagram.Settings.Section
import CodeDiagram.Settings.Merge
import CodeDiagram.Chat.Address
import CodeDiagram.Chat.Status
import CodeDiagram.Chat.Service
import CodeDiagram.Chat.Bundled
import CodeDiagram.Command.Arguments
import CodeDiagram.Command.Program
import CodeDiagram.Command.World
import CodeDiagram.Command.Run
import CodeDiagram.Main
import CodeDiagram.Proofs.Text.Trim
import CodeDiagram.Proofs.Json.Fields
import CodeDiagram.Proofs.Identifier.Naming
import CodeDiagram.Proofs.Identifier.Table
import CodeDiagram.Proofs.Plan.Cardinality
import CodeDiagram.Proofs.Plan.Vocabulary
import CodeDiagram.Proofs.Repair.Mending
import CodeDiagram.Proofs.Repair.Recipe
import CodeDiagram.Proofs.Repair.Collections
import CodeDiagram.Proofs.Repair.Idempotence
import CodeDiagram.Proofs.Repair.Rewiring
import CodeDiagram.Proofs.Schema.Checks
import CodeDiagram.Proofs.Schema.Elements
import CodeDiagram.Proofs.Schema.Reading
import CodeDiagram.Proofs.Schema.SafeNames
import CodeDiagram.Proofs.Schema.FlowchartAcceptance
import CodeDiagram.Proofs.Schema.Audit
import CodeDiagram.Proofs.Schema.Acceptance
import CodeDiagram.Proofs.Schema.Conservation
import CodeDiagram.Proofs.Identifier.Fresh
import CodeDiagram.Proofs.Identifier.Numbering
import CodeDiagram.Proofs.Identifier.Sharing
import CodeDiagram.Proofs.Repair.Merging
import CodeDiagram.Proofs.Text.Plain
import CodeDiagram.Proofs.Document.Label
import CodeDiagram.Proofs.Document.Lines
import CodeDiagram.Proofs.Schema.Names
import CodeDiagram.Proofs.Document.Quotes
import CodeDiagram.Proofs.Document.LineCount
import CodeDiagram.Proofs.Document.Reading
import CodeDiagram.Proofs.Document.FlowchartReading
import CodeDiagram.Proofs.Document.Statement
import CodeDiagram.Proofs.Document.SequenceReading
import CodeDiagram.Proofs.Document.Outline
import CodeDiagram.Proofs.Document.ClassReading
import CodeDiagram.Proofs.Document.EntityReading
import CodeDiagram.Proofs.Repair.Insertion
import CodeDiagram.Proofs.Text.Search
import CodeDiagram.Proofs.Chat.Fence
import CodeDiagram.Proofs.Chat.Outcome
import CodeDiagram.Proofs.Chat.Account
import CodeDiagram.Proofs.Command.Host
import CodeDiagram.Proofs.Command.Traces
import CodeDiagram.Proofs.Command.Requests
import CodeDiagram.Proofs.Schema.Phrases
import CodeDiagram.Proofs.Chat.Braces
import CodeDiagram.Proofs.Repair.Frame
import CodeDiagram.Proofs.Repair.KeyLists
import CodeDiagram.Proofs.Schema.KeyLists
import CodeDiagram.Proofs.Settings.Priority
import CodeDiagram.Proofs.Settings.Endpoint
import CodeDiagram.Proofs.Command.Gate
import CodeDiagram.Proofs.Plan.Spelling
import CodeDiagram.Proofs.Document.AttributeWord
import CodeDiagram.Proofs.Chat.CodeBlock
import CodeDiagram.Proofs.Decimal.Digits
import CodeDiagram.Proofs.Json.Number
import CodeDiagram.Proofs.Json.Written
import CodeDiagram.Proofs.Chat.Request
import CodeDiagram.Proofs.Chat.Client
import CodeDiagram.Proofs.Text.Flat
import CodeDiagram.Proofs.Text.Replace
import CodeDiagram.Proofs.Document.Entities
import CodeDiagram.Proofs.Document.QuotedText
