import EnumExport.Assoc
import EnumExport.Catalog.Basic
import EnumExport.Catalog.Record
import EnumExport.Class.Basic
import EnumExport.Class.Declaration
import EnumExport.Class.Entry
import EnumExport.Class.Linearization
import EnumExport.Class.Member
import EnumExport.Class.Modules
import EnumExport.Class.Validity
import EnumExport.Command.Arguments
import EnumExport.Command.Basic
import EnumExport.Command.Invocation
import EnumExport.Console.Basic
import EnumExport.Console.Lines
import EnumExport.Console.Markup
import EnumExport.Console.Table
import EnumExport.Console.Width
import EnumExport.Console.WidthTable
import EnumExport.Discovery.Basic
import EnumExport.Discovery.ModuleName
import EnumExport.Files.Path
import EnumExport.Files.Text
import EnumExport.Files.Tree
import EnumExport.Json.Basic
import EnumExport.Json.Printer
import EnumExport.Label.Annotation
import EnumExport.Label.Resolver
import EnumExport.Main
import EnumExport.Manifest.Basic
import EnumExport.Manifest.Problem
import EnumExport.Manifest.Record
import EnumExport.Manifest.Structure
import EnumExport.Number.Binary64
import EnumExport.Number.Decimal
import EnumExport.Number.Integer
import EnumExport.Project.Basic
import EnumExport.Project.Check
import EnumExport.Project.Export
import EnumExport.Project.Init
import EnumExport.Registry.Basic
import EnumExport.Report.Basic
import EnumExport.Report.Check
import EnumExport.Report.Export
import EnumExport.Script.Doc
import EnumExport.Script.Helper
import EnumExport.Script.Item
import EnumExport.Script.Literal
import EnumExport.Script.Module
import EnumExport.Script.Shape
import EnumExport.Script.TypeExpr
import EnumExport.Script.Types
import EnumExport.Settings.Basic
import EnumExport.Settings.Check
import EnumExport.Source.Declaration
import EnumExport.Source.Expression
import EnumExport.Source.Layout
import EnumExport.Source.Pattern
import EnumExport.Source.Rule
import EnumExport.Source.Statement
import EnumExport.Source.Token
import EnumExport.Text.Blank
import EnumExport.Text.Case
import EnumExport.Text.CaseTable
import EnumExport.Text.Digit
import EnumExport.Text.Glob
import EnumExport.Text.Identifier
import EnumExport.Text.IdentifierTable
import EnumExport.Text.Printable
import EnumExport.Text.PrintableTable
import EnumExport.Text.Quoted
import EnumExport.Text.Ranges
import EnumExport.Text.Split
import EnumExport.Value.Basic
import EnumExport.Value.Equality
import EnumExport.Value.Frozen
import EnumExport.Value.Order
import EnumExport.Value.Text
import EnumExport.Wording.Catalog
import EnumExport.Wording.Check
import EnumExport.Wording.Folder
import EnumExport.Wording.Placeholder
import EnumExport.Wording.Translator
import EnumExport.Yaml.Cursor
import EnumExport.Yaml.Document
import EnumExport.Yaml.Node
import EnumExport.Yaml.Tag
import EnumExport.Yaml.Text
import EnumExport.Yaml.Token
import EnumExport.Proofs.Outcome
import EnumExport.Proofs.Notation.Reader
import EnumExport.Proofs.Notation.Text
import EnumExport.Proofs.Notation.Word
import EnumExport.Proofs.Notation.Json
import EnumExport.Proofs.Notation.Data
import EnumExport.Proofs.Notation.Script
import EnumExport.Proofs.Script.Properties
import EnumExport.Proofs.Script.Generation
import EnumExport.Proofs.Script.Embedding
import EnumExport.Proofs.Value.Scalar
import EnumExport.Proofs.Manifest.Check
import EnumExport.Proofs.Class.Found
import EnumExport.Proofs.Class.Members
import EnumExport.Proofs.Class.Description
import EnumExport.Proofs.Class.Generation
import EnumExport.Proofs.Class.Refusal
import EnumExport.Proofs.Script.Batch
import EnumExport.Proofs.Catalog.Lookup
import EnumExport.Proofs.Catalog.Attributes
import EnumExport.Proofs.Registry.Candidates
import EnumExport.Proofs.Registry.Build
import EnumExport.Proofs.Files.Writes
import EnumExport.Proofs.Project.Writing
import EnumExport.Proofs.Project.Single
import EnumExport.Proofs.Project.Export
import EnumExport.Proofs.Project.Validated
import EnumExport.Proofs.Yaml.Document
import EnumExport.Proofs.Settings.Verbatim
import EnumExport.Proofs.Script.Fields
import EnumExport.Proofs.Script.OneLine
import EnumExport.Proofs.Script.DocComment
import EnumExport.Proofs.Script.Layout
import EnumExport.Proofs.Files.Place
import EnumExport.Proofs.Files.Growth
import EnumExport.Proofs.Project.Exact
import EnumExport.Proofs.Project.Reading
import EnumExport.Proofs.Project.Locales
import EnumExport.Proofs.Project.Apart
import EnumExport.Proofs.Script.Inference
import EnumExport.Proofs.Class.Choices
import EnumExport.Proofs.Number.Rounding
import EnumExport.Proofs.Script.Alternatives
import EnumExport.Proofs.Script.Numbers
import EnumExport.Proofs.Class.Exports
import EnumExport.Proofs.Class.Notes
import EnumExport.Proofs.Class.Imports
import EnumExport.Proofs.Wording.Session
import EnumExport.Proofs.Source.Declared
import EnumExport.Proofs.Text.Replace
import EnumExport.Proofs.Wording.Filling
import EnumExport.Proofs.Wording.Lookup
import EnumExport.Proofs.Yaml.Keys
import EnumExport.Proofs.Wording.Reach
import EnumExport.Proofs.Discovery.Scan
import EnumExport.Proofs.Manifest.Record
import EnumExport.Proofs.Value.Order
import EnumExport.Proofs.Settings.Checked
import EnumExport.Proofs.Settings.Loaded
import EnumExport.Proofs.Command.Starting
import EnumExport.Proofs.Value.Frozen
import EnumExport.Proofs.Catalog.Records
import EnumExport.Proofs.Script.Names
import EnumExport.Proofs.Command.Formats
import EnumExport.Proofs.Notation.Literal
import EnumExport.Proofs.Manifest.Faults
import EnumExport.Proofs.Script.FieldLines
import EnumExport.Proofs.Source.Bodies
import EnumExport.Proofs.Json.Parser
import EnumExport.Proofs.Json.ReadBack
