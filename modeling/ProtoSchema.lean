import ProtoSchema.Catalog
import ProtoSchema.Catalog.Ingest
import ProtoSchema.Catalog.Writing
import ProtoSchema.CommandLine
import ProtoSchema.Data
import ProtoSchema.Data.Mismatch
import ProtoSchema.Decimal.Binary64
import ProtoSchema.Decimal.Shortest
import ProtoSchema.Declaration
import ProtoSchema.Diagnostic
import ProtoSchema.Document
import ProtoSchema.Enumeration
import ProtoSchema.Failure
import ProtoSchema.FieldType
import ProtoSchema.FileTree
import ProtoSchema.Glob.Pattern
import ProtoSchema.Glob.Search
import ProtoSchema.Identifier
import ProtoSchema.IntLiteral
import ProtoSchema.Json.Numeral
import ProtoSchema.Json.Outline
import ProtoSchema.Json.Printer
import ProtoSchema.Json.Reading
import ProtoSchema.Json.Token
import ProtoSchema.Lint.Concern
import ProtoSchema.Lint.Config
import ProtoSchema.Lint.ConfigText
import ProtoSchema.Lint.Report
import ProtoSchema.Lint.Rule
import ProtoSchema.Main
import ProtoSchema.Manifest.Draft
import ProtoSchema.Manifest.Form
import ProtoSchema.Manifest.JsonText
import ProtoSchema.Manifest.Source
import ProtoSchema.Manifest.Writing
import ProtoSchema.Manifest.YamlText
import ProtoSchema.Message
import ProtoSchema.NameTable
import ProtoSchema.Naming
import ProtoSchema.Output
import ProtoSchema.Path
import ProtoSchema.Program
import ProtoSchema.Proofs.Catalog.CanonicalOrder
import ProtoSchema.Proofs.Catalog.Classes
import ProtoSchema.Proofs.Catalog.Consistency
import ProtoSchema.Proofs.Catalog.Constants
import ProtoSchema.Proofs.Catalog.DisplayedEnums
import ProtoSchema.Proofs.Catalog.EnumBlocks
import ProtoSchema.Proofs.Catalog.FailureEffects
import ProtoSchema.Proofs.Catalog.Failures
import ProtoSchema.Proofs.Catalog.Maps
import ProtoSchema.Proofs.Catalog.MemberNames
import ProtoSchema.Proofs.Catalog.MessageNames
import ProtoSchema.Proofs.Catalog.NamingErasure
import ProtoSchema.Proofs.Catalog.Operation
import ProtoSchema.Proofs.Catalog.OrderIndependence
import ProtoSchema.Proofs.Catalog.Run
import ProtoSchema.Proofs.Catalog.StandardNaming
import ProtoSchema.Proofs.Catalog.Step
import ProtoSchema.Proofs.Catalog.Structs
import ProtoSchema.Proofs.Document.Content
import ProtoSchema.Proofs.Document.Line
import ProtoSchema.Proofs.Document.WireNames
import ProtoSchema.Proofs.Enumeration
import ProtoSchema.Proofs.Enumeration.CanonicalForm
import ProtoSchema.Proofs.FieldType
import ProtoSchema.Proofs.FileTree
import ProtoSchema.Proofs.FirstOccurrence
import ProtoSchema.Proofs.Glob.Pattern
import ProtoSchema.Proofs.Glob.Search
import ProtoSchema.Proofs.Identifier
import ProtoSchema.Proofs.Identifier.Boundaries
import ProtoSchema.Proofs.Identifier.NormalForm
import ProtoSchema.Proofs.Identifier.Words
import ProtoSchema.Proofs.IntLiteral.DigitGroup
import ProtoSchema.Proofs.IntLiteral.Grammar
import ProtoSchema.Proofs.IntLiteral.Separators
import ProtoSchema.Proofs.Json.Lexing
import ProtoSchema.Proofs.Json.MemberOrder
import ProtoSchema.Proofs.Json.RoundTrip
import ProtoSchema.Proofs.Json.Scanning
import ProtoSchema.Proofs.Json.Spelling
import ProtoSchema.Proofs.Json.Syntax
import ProtoSchema.Proofs.Lint.Configuration
import ProtoSchema.Proofs.Lint.Gaps
import ProtoSchema.Proofs.Lint.NameStyle
import ProtoSchema.Proofs.Manifest.Drafts
import ProtoSchema.Proofs.Manifest.Fields
import ProtoSchema.Proofs.Manifest.FormOrder
import ProtoSchema.Proofs.Manifest.MemberOrder
import ProtoSchema.Proofs.Manifest.RoundTrip
import ProtoSchema.Proofs.Manifest.Scan
import ProtoSchema.Proofs.Message
import ProtoSchema.Proofs.NameTable
import ProtoSchema.Proofs.Output
import ProtoSchema.Proofs.Path
import ProtoSchema.Proofs.Reading
import ProtoSchema.Proofs.StableSort
import ProtoSchema.Proofs.Tag.Grammar
import ProtoSchema.Proofs.Tag.Search
import ProtoSchema.Proofs.Text.Cutting
import ProtoSchema.Proofs.Text.Digit
import ProtoSchema.Proofs.Text.Pieces
import ProtoSchema.Proofs.Text.Quotation
import ProtoSchema.Proofs.Text.Trim
import ProtoSchema.Proofs.TypeExpr.Signature
import ProtoSchema.Settings
import ProtoSchema.Tag
import ProtoSchema.Text.Basic
import ProtoSchema.Text.Case
import ProtoSchema.Text.Quoted
import ProtoSchema.Text.Span
import ProtoSchema.Text.Table.Alphanumeric
import ProtoSchema.Text.Table.Case
import ProtoSchema.Text.Table.CaseIgnorable
import ProtoSchema.Text.Table.CaseMapping
import ProtoSchema.TypeExpr
import ProtoSchema.Yaml.Character
import ProtoSchema.Yaml.Document
import ProtoSchema.Yaml.Layout
import ProtoSchema.Yaml.Node
import ProtoSchema.Yaml.PlainValue
import ProtoSchema.Yaml.Reading
import ProtoSchema.Yaml.Scalar.Block
import ProtoSchema.Yaml.Scalar.Folding
import ProtoSchema.Yaml.Scalar.Plain
import ProtoSchema.Yaml.Scalar.Quoted
import ProtoSchema.Yaml.Tokens
