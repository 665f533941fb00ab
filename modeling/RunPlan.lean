import RunPlan.Benchmark.Basic
import RunPlan.Benchmark.Json
import RunPlan.Benchmark.QueryFile
import RunPlan.Benchmark.Summary
import RunPlan.Binary64.Basic
import RunPlan.Binary64.Decimal
import RunPlan.Binary64.Shortest
import RunPlan.CommandLine.Arguments
import RunPlan.CommandLine.Failure
import RunPlan.CommandLine.Run
import RunPlan.Config
import RunPlan.Definition.Basic
import RunPlan.Definition.Expansion
import RunPlan.Definition.Inheritance
import RunPlan.Definition.Text
import RunPlan.Descriptor
import RunPlan.Error
import RunPlan.FileTree.Basic
import RunPlan.FileTree.Change
import RunPlan.FileTree.Locate
import RunPlan.FileTree.Walk
import RunPlan.Glob.Match
import RunPlan.Glob.Pattern
import RunPlan.Json.Basic
import RunPlan.Json.Parser
import RunPlan.Json.Printer
import RunPlan.Loader
import RunPlan.Location
import RunPlan.Main
import RunPlan.NaturalOrder
import RunPlan.OrderedMap
import RunPlan.Path
import RunPlan.Proofs.AgeByName
import RunPlan.Proofs.BenchmarkFields
import RunPlan.Proofs.BenchmarkJson
import RunPlan.Proofs.BenchmarkVariables
import RunPlan.Proofs.Cancellation
import RunPlan.Proofs.CancelledNaming
import RunPlan.Proofs.ConfigFile
import RunPlan.Proofs.Counts
import RunPlan.Proofs.Definition.Combinations
import RunPlan.Proofs.Definition.Expansion
import RunPlan.Proofs.Definition.Groups
import RunPlan.Proofs.Definition.Inheritance
import RunPlan.Proofs.Definition.ItemLists
import RunPlan.Proofs.Durations
import RunPlan.Proofs.EndingWell
import RunPlan.Proofs.FileExpansion
import RunPlan.Proofs.FileLocations
import RunPlan.Proofs.FileNames
import RunPlan.Proofs.FileOrder
import RunPlan.Proofs.FileReads
import RunPlan.Proofs.FileTree.Alone
import RunPlan.Proofs.FileTree.Detours
import RunPlan.Proofs.FileTree.Directories
import RunPlan.Proofs.FileTree.Following
import RunPlan.Proofs.FileTree.Leads
import RunPlan.Proofs.FileTree.Names
import RunPlan.Proofs.FileTree.Places
import RunPlan.Proofs.FileTree.Resolving
import RunPlan.Proofs.FileTree.Shape
import RunPlan.Proofs.FileTree.Walking
import RunPlan.Proofs.FileTree.Writing
import RunPlan.Proofs.FirstFailure
import RunPlan.Proofs.Freshness
import RunPlan.Proofs.FreshnessCall
import RunPlan.Proofs.Glob
import RunPlan.Proofs.Identity
import RunPlan.Proofs.Json.Compact
import RunPlan.Proofs.Listing
import RunPlan.Proofs.LoadCourse
import RunPlan.Proofs.LoadRun
import RunPlan.Proofs.NaturalOrder
import RunPlan.Proofs.NaturalOrder.Values
import RunPlan.Proofs.OfflineLoad
import RunPlan.Proofs.OfflineNames
import RunPlan.Proofs.OrderedMap
import RunPlan.Proofs.Outcome
import RunPlan.Proofs.PathNames
import RunPlan.Proofs.PathOrder
import RunPlan.Proofs.QueryDirectories
import RunPlan.Proofs.QueryFiles
import RunPlan.Proofs.RootCause
import RunPlan.Proofs.Selection
import RunPlan.Proofs.ServiceCalls
import RunPlan.Proofs.SummaryTables
import RunPlan.Proofs.Template.Cycles
import RunPlan.Proofs.Template.Evaluation
import RunPlan.Proofs.Template.Expressions
import RunPlan.Proofs.Template.FixedPoint
import RunPlan.Proofs.Template.FreeNames
import RunPlan.Proofs.Template.FreeUses
import RunPlan.Proofs.Template.Grammar
import RunPlan.Proofs.Template.InOrder
import RunPlan.Proofs.Template.Joining
import RunPlan.Proofs.Template.Literals
import RunPlan.Proofs.Template.OrderIndependence
import RunPlan.Proofs.Template.Reads
import RunPlan.Proofs.Template.Tokens
import RunPlan.Proofs.Template.Writing
import RunPlan.Proofs.Text.ByteOrder
import RunPlan.Proofs.Text.Bytes
import RunPlan.Proofs.Text.Cutting
import RunPlan.Proofs.Text.Digits
import RunPlan.Proofs.Text.ItemLists
import RunPlan.Proofs.Text.Lines
import RunPlan.Proofs.Text.Splitting
import RunPlan.Proofs.Text.Trimming
import RunPlan.Proofs.Toml.Documents
import RunPlan.Proofs.Toml.Strings
import RunPlan.Proofs.Toml.Values
import RunPlan.Proofs.Url.File
import RunPlan.Proofs.Url.LastSegment
import RunPlan.Proofs.Url.PathPart
import RunPlan.Proofs.Url.Percent
import RunPlan.Proofs.VariableFilter
import RunPlan.Proofs.WellFormed
import RunPlan.Proofs.Yaml.Documents
import RunPlan.Proofs.Yaml.Merge
import RunPlan.Proofs.Yaml.Sameness
import RunPlan.QuerySource
import RunPlan.Reader
import RunPlan.Regex.Basic
import RunPlan.Regex.CharacterClass
import RunPlan.Regex.Escape
import RunPlan.Regex.Flags
import RunPlan.Regex.Match
import RunPlan.Regex.Parser
import RunPlan.Regex.Property
import RunPlan.Service.Basic
import RunPlan.Service.Freshness
import RunPlan.Service.Http
import RunPlan.Service.UniqueNames
import RunPlan.Span.Basic
import RunPlan.Span.Iso8601
import RunPlan.Template.Compile
import RunPlan.Template.Evaluation
import RunPlan.Template.Expression
import RunPlan.Template.Message
import RunPlan.Template.Render
import RunPlan.Template.Syntax
import RunPlan.Template.Token
import RunPlan.Text.Alphanumeric
import RunPlan.Text.Blank
import RunPlan.Text.Bytes
import RunPlan.Text.CaseFold
import RunPlan.Text.Category
import RunPlan.Text.Digits
import RunPlan.Text.ItemList
import RunPlan.Text.Property
import RunPlan.Text.Quoted
import RunPlan.Text.Ranges
import RunPlan.Text.Script
import RunPlan.Text.Split
import RunPlan.Toml.Basic
import RunPlan.Toml.Parser
import RunPlan.Toml.Printer
import RunPlan.Toml.Quoted
import RunPlan.Toml.Scalar
import RunPlan.Toml.Table
import RunPlan.Url.Basic
import RunPlan.Url.Domain
import RunPlan.Url.Host
import RunPlan.Url.Parse
import RunPlan.Url.PathPart
import RunPlan.Url.Percent
import RunPlan.VariableFilter
import RunPlan.Yaml.Anchor
import RunPlan.Yaml.Char
import RunPlan.Yaml.Display
import RunPlan.Yaml.Document
import RunPlan.Yaml.Layout
import RunPlan.Yaml.Merge
import RunPlan.Yaml.Node
import RunPlan.Yaml.Resolution
import RunPlan.Yaml.Scalar.Block
import RunPlan.Yaml.Scalar.Gap
import RunPlan.Yaml.Scalar.Plain
import RunPlan.Yaml.Scalar.Quoted
import RunPlan.Yaml.Tag
import RunPlan.Yaml.Token
import RunPlan.Yaml.Value
