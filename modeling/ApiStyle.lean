import ApiStyle.CaseTable
import ApiStyle.CommandLine.Arguments
import ApiStyle.CommandLine.Flag
import ApiStyle.CommandLine.Invocation
import ApiStyle.Decimal.Nearest
import ApiStyle.Decimal.Numeral
import ApiStyle.Decimal.Positional
import ApiStyle.Decimal.Power
import ApiStyle.Decimal.Shortest
import ApiStyle.Decoding.Cause
import ApiStyle.Decoding.Source
import ApiStyle.Document.Basic
import ApiStyle.Document.Decode
import ApiStyle.Document.Edit
import ApiStyle.Document.Encode
import ApiStyle.Document.Load
import ApiStyle.Failure
import ApiStyle.Files.Lookup
import ApiStyle.Files.Path
import ApiStyle.Files.Tree
import ApiStyle.Json.Basic
import ApiStyle.Json.Content
import ApiStyle.Json.Decode
import ApiStyle.Json.Draft
import ApiStyle.Json.Position
import ApiStyle.Json.Text
import ApiStyle.Main
import ApiStyle.Naming.Convention
import ApiStyle.Naming.Decode
import ApiStyle.Passes.Info
import ApiStyle.Passes.Models
import ApiStyle.Passes.Naming
import ApiStyle.Passes.Operations
import ApiStyle.Passes.Servers
import ApiStyle.Program
import ApiStyle.Proofs.ArgumentFormats
import ApiStyle.Proofs.Attribution
import ApiStyle.Proofs.Colours
import ApiStyle.Proofs.Compliance
import ApiStyle.Proofs.ConfigLayers
import ApiStyle.Proofs.CustomHeaders
import ApiStyle.Proofs.Cutting
import ApiStyle.Proofs.DecodingLogic
import ApiStyle.Proofs.DelegatedDomains
import ApiStyle.Proofs.DocumentParts
import ApiStyle.Proofs.DomainGrammar
import ApiStyle.Proofs.Edits
import ApiStyle.Proofs.EnabledPasses
import ApiStyle.Proofs.FlagOverrides
import ApiStyle.Proofs.FlowDecoding
import ApiStyle.Proofs.FlowDocuments
import ApiStyle.Proofs.FlowNodes
import ApiStyle.Proofs.FlowScalars
import ApiStyle.Proofs.FlowTokens
import ApiStyle.Proofs.FlowTrees
import ApiStyle.Proofs.Insertion
import ApiStyle.Proofs.JsonAsYaml
import ApiStyle.Proofs.JsonText
import ApiStyle.Proofs.JunitCharacters
import ApiStyle.Proofs.JunitReport
import ApiStyle.Proofs.KnownDomains
import ApiStyle.Proofs.Logging
import ApiStyle.Proofs.Lookahead
import ApiStyle.Proofs.Markup
import ApiStyle.Proofs.MemberReading
import ApiStyle.Proofs.NameShapes
import ApiStyle.Proofs.Nesting
import ApiStyle.Proofs.NumeralText
import ApiStyle.Proofs.Occurrences
import ApiStyle.Proofs.Ownership
import ApiStyle.Proofs.Patches
import ApiStyle.Proofs.PathMembers
import ApiStyle.Proofs.PathSegments
import ApiStyle.Proofs.PortableNumbers
import ApiStyle.Proofs.PortableText
import ApiStyle.Proofs.PositionalReading
import ApiStyle.Proofs.ReadDocuments
import ApiStyle.Proofs.Rearrangement
import ApiStyle.Proofs.RecordShapes
import ApiStyle.Proofs.RepeatedIds
import ApiStyle.Proofs.ReportData
import ApiStyle.Proofs.ReportLines
import ApiStyle.Proofs.ResultOrder
import ApiStyle.Proofs.Results
import ApiStyle.Proofs.RoundTrip
import ApiStyle.Proofs.Runs
import ApiStyle.Proofs.SortedSwitches
import ApiStyle.Proofs.StoredTrees
import ApiStyle.Proofs.Tables
import ApiStyle.Proofs.Templates
import ApiStyle.Proofs.TreeDecoding
import ApiStyle.Proofs.UpwardSearch
import ApiStyle.Proofs.UrlMargins
import ApiStyle.Proofs.Validation
import ApiStyle.Proofs.ViolationText
import ApiStyle.Proofs.Wording
import ApiStyle.Report.Data
import ApiStyle.Report.Human
import ApiStyle.Report.Junit
import ApiStyle.Report.Layout
import ApiStyle.Report.Rules
import ApiStyle.Report.Sarif
import ApiStyle.Report.Span
import ApiStyle.Rules.Config
import ApiStyle.Rules.Json
import ApiStyle.Rules.Layers
import ApiStyle.Rules.Patch
import ApiStyle.Rules.Toggle
import ApiStyle.Run
import ApiStyle.Server.Template
import ApiStyle.Table
import ApiStyle.Terminal
import ApiStyle.Text.Entities
import ApiStyle.Text.Position
import ApiStyle.Text.Quoted
import ApiStyle.Text.Split
import ApiStyle.Text.White
import ApiStyle.Toml.Decode
import ApiStyle.Toml.Position
import ApiStyle.Toml.Scalar
import ApiStyle.Toml.Text
import ApiStyle.Toml.Tree
import ApiStyle.Unicode.Composition
import ApiStyle.Unicode.CompositionTable
import ApiStyle.Unicode.Direction
import ApiStyle.Unicode.Hidden
import ApiStyle.Unicode.HostTable
import ApiStyle.Unicode.Joining
import ApiStyle.Unicode.Mark
import ApiStyle.Unicode.Table
import ApiStyle.Url.Address
import ApiStyle.Url.Check
import ApiStyle.Url.Domain
import ApiStyle.Url.DomainTable
import ApiStyle.Url.HostName
import ApiStyle.Url.Punycode
import ApiStyle.Validator
import ApiStyle.Violation.Basic
import ApiStyle.Violation.Json
import ApiStyle.Violation.Sink
import ApiStyle.Yaml.Cursor
import ApiStyle.Yaml.Decode
import ApiStyle.Yaml.Lexer
import ApiStyle.Yaml.Malformed
import ApiStyle.Yaml.Node
import ApiStyle.Yaml.Resolve
import ApiStyle.Yaml.Scalar
import ApiStyle.Yaml.Token
