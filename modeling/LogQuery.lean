import LogQuery.Bindings
import LogQuery.Color
import LogQuery.CommandLine.Arguments
import LogQuery.CommandLine.Command
import LogQuery.CommandLine.FileTree
import LogQuery.Json.Basic
import LogQuery.Json.Fault
import LogQuery.Json.Printer
import LogQuery.Json.Reader
import LogQuery.Json.Skip
import LogQuery.LineFormat
import LogQuery.Logfmt
import LogQuery.Main
import LogQuery.Number.Basic
import LogQuery.Number.Binary64
import LogQuery.Number.Literal
import LogQuery.Number.Shortest
import LogQuery.Output
import LogQuery.Pass
import LogQuery.Pattern
import LogQuery.Pattern.Cache
import LogQuery.Proofs.Bindings
import LogQuery.Proofs.Json.Places
import LogQuery.Proofs.LazyRun
import LogQuery.Proofs.Query.Compiled
import LogQuery.Proofs.Query.Grammar
import LogQuery.Proofs.Query.RoundTrip
import LogQuery.Proofs.Query.Validation
import LogQuery.Proofs.Run
import LogQuery.Proofs.Stream.Conservation
import LogQuery.Proofs.Stream.FailFast
import LogQuery.Proofs.Stream.Lines
import LogQuery.Proofs.Stream.Refinement
import LogQuery.Proofs.Stream.Turns
import LogQuery.Proofs.Trail
import LogQuery.Query.Basic
import LogQuery.Query.Compiled
import LogQuery.Query.Error
import LogQuery.Query.Path
import LogQuery.Query.Reader
import LogQuery.Query.Writer
import LogQuery.Record.Basic
import LogQuery.Record.Decoding
import LogQuery.Record.Encoding
import LogQuery.Record.Flatten
import LogQuery.Regex.Ast
import LogQuery.Regex.CharSet
import LogQuery.Regex.Node
import LogQuery.Regex.Program
import LogQuery.Regex.Reader
import LogQuery.Regex.Search
import LogQuery.Regex.Size
import LogQuery.Run
import LogQuery.Scope
import LogQuery.Statistics
import LogQuery.Stream.Buffer
import LogQuery.Stream.Calls
import LogQuery.Stream.Channel
import LogQuery.Stream.Error
import LogQuery.Stream.Pipeline
import LogQuery.Text.Blank
import LogQuery.Text.Position
import LogQuery.Text.Quoted
import LogQuery.Text.Utf8
import LogQuery.Unicode.AgeData
import LogQuery.Unicode.BinaryData
import LogQuery.Unicode.BreakData
import LogQuery.Unicode.CategoryData
import LogQuery.Unicode.FoldData
import LogQuery.Unicode.Property
import LogQuery.Unicode.RangeTable
import LogQuery.Unicode.ScriptData
import LogQuery.Unicode.ScriptExtensionData
import LogQuery.Value
import LogQuery.Yaml.Cursor
import LogQuery.Yaml.Node
import LogQuery.Yaml.ScalarText
import LogQuery.Yaml.Token
import LogQuery.Yaml.Value
import LogQuery.Proofs.RunDrivers
import LogQuery.Proofs.Session
import LogQuery.Proofs.Stream.Calls
import LogQuery.Proofs.Stream.Emitted
import LogQuery.Proofs.Stream.Limited
import LogQuery.Proofs.Stream.Sequence
import LogQuery.Proofs.BoundNames
import LogQuery.Proofs.Independence
import LogQuery.Proofs.Json.Numerals
import LogQuery.Proofs.Text.Utf8
import LogQuery.Proofs.Json.ReadBack
import LogQuery.Proofs.Record.RoundTrip
import LogQuery.Proofs.Record.Newlines
import LogQuery.Proofs.Record.FromLines
import LogQuery.Proofs.Stream.TextLines
import LogQuery.Proofs.Logfmt.ReadBack
import LogQuery.Proofs.Json.Indented
import LogQuery.Proofs.Json.Nesting
import LogQuery.Proofs.CommandLine.Arguments
import LogQuery.Proofs.CommandLine.Setup
import LogQuery.Proofs.CommandLine.Agreement
import LogQuery.Proofs.CommandLine.NormalForm
import LogQuery.Proofs.Query.Depth
import LogQuery.Proofs.Text.Trim
import LogQuery.Proofs.Outcome
import LogQuery.Proofs.Stream.Buffer
import LogQuery.Proofs.Stream.TextFilter
import LogQuery.Proofs.CommandLine.ExitCode
import LogQuery.Proofs.CommandLine.Delivery
import LogQuery.Proofs.CommandLine.Redirection
import LogQuery.Proofs.CommandLine.BufferSize
import LogQuery.Proofs.FieldOrder
import LogQuery.Proofs.Query.Steps
import LogQuery.Proofs.SharedPatterns
import LogQuery.Proofs.Query.Context
import LogQuery.Proofs.Restructuring
import LogQuery.Proofs.UnreadVariable
import LogQuery.Proofs.Logfmt.Grammar
import LogQuery.Proofs.Stream.BrokenSource
import LogQuery.Proofs.Json.Scalars
import LogQuery.Proofs.Record.Flatten
import LogQuery.Proofs.Query.PathText
import LogQuery.Proofs.Query.ReadErrors
import LogQuery.Proofs.NamedExpression
import LogQuery.Proofs.Stream.TagColors
import LogQuery.Proofs.Captures
import LogQuery.Proofs.Stream.LineEndings
import LogQuery.Proofs.Commits
import LogQuery.Proofs.Logfmt.PairLines
import LogQuery.Proofs.Json.Remainders
import LogQuery.Proofs.Record.TreeFields
import LogQuery.Proofs.Record.TextFields
import LogQuery.Proofs.DistinctFields
