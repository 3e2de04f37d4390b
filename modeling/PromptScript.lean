import PromptScript.Agent
import PromptScript.Agent.Stream
import PromptScript.AtLine
import PromptScript.Calendar
import PromptScript.Cancellation
import PromptScript.Cancellation.Tokens
import PromptScript.Command.Call
import PromptScript.Command.Dispatch
import PromptScript.CommandLine.Arguments
import PromptScript.CommandLine.Basic
import PromptScript.CommandLine.Encode
import PromptScript.CommandLine.Json
import PromptScript.CommandLine.Parameter
import PromptScript.CommandLine.Usage
import PromptScript.Config
import PromptScript.Decimal.Binary64
import PromptScript.Decimal.Numeral
import PromptScript.Decimal.Power
import PromptScript.Decimal.Shortest
import PromptScript.Diagnostic
import PromptScript.Document.Basic
import PromptScript.Document.Sections
import PromptScript.FileTree.Basic
import PromptScript.FileTree.Source
import PromptScript.Header.Basic
import PromptScript.Header.Convert
import PromptScript.Header.Location
import PromptScript.Header.Read
import PromptScript.Header.Value
import PromptScript.Item.Facets
import PromptScript.Item.Path
import PromptScript.Item.Source
import PromptScript.Main
import PromptScript.NameMap
import PromptScript.Pattern.Basic
import PromptScript.Pattern.Bracket
import PromptScript.Pattern.CharSet
import PromptScript.Pattern.Escape
import PromptScript.Pattern.Library
import PromptScript.Pattern.Names
import PromptScript.Pattern.Reader
import PromptScript.Pattern.Search
import PromptScript.Pipeline.Basic
import PromptScript.Pipeline.Engine
import PromptScript.Pipeline.Expression
import PromptScript.Pipeline.Order
import PromptScript.Pipeline.Token
import PromptScript.Proofs.ActionListing
import PromptScript.Proofs.ActionResult
import PromptScript.Proofs.AfterCancellation
import PromptScript.Proofs.Agreement
import PromptScript.Proofs.AuthoredCommands
import PromptScript.Proofs.BodyParts
import PromptScript.Proofs.ByteOrder
import PromptScript.Proofs.CachedResponses
import PromptScript.Proofs.Cancelled
import PromptScript.Proofs.CancelledPipelines
import PromptScript.Proofs.CheckedRuns
import PromptScript.Proofs.CheckedValues
import PromptScript.Proofs.CommandOutcome
import PromptScript.Proofs.Conversion
import PromptScript.Proofs.DateTexts
import PromptScript.Proofs.DeclarationOrder
import PromptScript.Proofs.DeclaredLines
import PromptScript.Proofs.Delimiters
import PromptScript.Proofs.DirectoryListing
import PromptScript.Proofs.Eligibility
import PromptScript.Proofs.Encoding
import PromptScript.Proofs.ExpressionLines
import PromptScript.Proofs.Failures
import PromptScript.Proofs.FaultLines
import PromptScript.Proofs.FilePaths
import PromptScript.Proofs.FileWalk
import PromptScript.Proofs.FilteredSort
import PromptScript.Proofs.FirstCall
import PromptScript.Proofs.FixedAnswers
import PromptScript.Proofs.Grammar
import PromptScript.Proofs.Growth
import PromptScript.Proofs.HeaderContents
import PromptScript.Proofs.HeaderLines
import PromptScript.Proofs.HostValues
import PromptScript.Proofs.Influence
import PromptScript.Proofs.Invocations
import PromptScript.Proofs.Lookups
import PromptScript.Proofs.NodeParts
import PromptScript.Proofs.PathFacets
import PromptScript.Proofs.PatternCuts
import PromptScript.Proofs.PatternLiterals
import PromptScript.Proofs.PatternReading
import PromptScript.Proofs.PatternSearch
import PromptScript.Proofs.PipelineMeaning
import PromptScript.Proofs.PrintedPipelines
import PromptScript.Proofs.Progress
import PromptScript.Proofs.RecognizedCommands
import PromptScript.Proofs.ReferenceCuts
import PromptScript.Proofs.References
import PromptScript.Proofs.Rendering
import PromptScript.Proofs.Resolution
import PromptScript.Proofs.ResultMark
import PromptScript.Proofs.Scope
import PromptScript.Proofs.ShownRuns
import PromptScript.Proofs.SingleListing
import PromptScript.Proofs.Sorting
import PromptScript.Proofs.StableSort
import PromptScript.Proofs.StartedCancelled
import PromptScript.Proofs.Steps
import PromptScript.Proofs.StrayWords
import PromptScript.Proofs.Streaming
import PromptScript.Proofs.SymbolHistory
import PromptScript.Proofs.SymbolKeys
import PromptScript.Proofs.SymbolTable
import PromptScript.Proofs.SymbolTexts
import PromptScript.Proofs.TextLines
import PromptScript.Proofs.TokenFamilies
import PromptScript.Proofs.TokenLines
import PromptScript.Proofs.Turns
import PromptScript.Proofs.UndeclaredNames
import PromptScript.Proofs.WrappedPatterns
import PromptScript.Reference
import PromptScript.Registry
import PromptScript.Run.Basic
import PromptScript.Run.Body
import PromptScript.Run.Context
import PromptScript.Run.Plain
import PromptScript.Session
import PromptScript.Symbols
import PromptScript.Text.Age
import PromptScript.Text.Blank
import PromptScript.Text.Boundary
import PromptScript.Text.Category
import PromptScript.Text.CodePoints
import PromptScript.Text.Fields
import PromptScript.Text.Folding
import PromptScript.Text.Letter
import PromptScript.Text.Lines
import PromptScript.Text.Property
import PromptScript.Text.Quoted
import PromptScript.Text.Script
import PromptScript.Text.Utf8
import PromptScript.Toml.Document
import PromptScript.Toml.Scalar
import PromptScript.Toml.Text
import PromptScript.Toml.Value
import PromptScript.Yaml.Document
import PromptScript.Yaml.Event
import PromptScript.Yaml.Mark
import PromptScript.Yaml.Node
import PromptScript.Yaml.Scalar
import PromptScript.Yaml.Text.Block
import PromptScript.Yaml.Text.Gap
import PromptScript.Yaml.Text.Plain
import PromptScript.Yaml.Text.QuotedText
import PromptScript.Yaml.Token
import PromptScript.Yaml.Token.Scan
import PromptScript.Yaml.Token.Tag
