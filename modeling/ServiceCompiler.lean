import ServiceCompiler.Build.Cause
import ServiceCompiler.Build.Fallback
import ServiceCompiler.Build.Lower
import ServiceCompiler.Build.Path
import ServiceCompiler.Build.Service
import ServiceCompiler.CommandLine.Arguments
import ServiceCompiler.CommandLine.Disk
import ServiceCompiler.CommandLine.Host
import ServiceCompiler.CommandLine.Run
import ServiceCompiler.Core.Await
import ServiceCompiler.Core.Dump
import ServiceCompiler.Core.Encode
import ServiceCompiler.Core.Nodes
import ServiceCompiler.Core.Service
import ServiceCompiler.Core.Tree
import ServiceCompiler.Decimal.Binary64
import ServiceCompiler.Decimal.Layout
import ServiceCompiler.Decimal.Reading
import ServiceCompiler.Decimal.Shortest
import ServiceCompiler.Diagnostic.Basic
import ServiceCompiler.Diagnostic.Render
import ServiceCompiler.Distinct
import ServiceCompiler.Generate
import ServiceCompiler.Json.Fault
import ServiceCompiler.Json.Numeral
import ServiceCompiler.Json.Printer
import ServiceCompiler.Json.Quoted
import ServiceCompiler.Json.Reader
import ServiceCompiler.Json.Skip
import ServiceCompiler.Json.Value
import ServiceCompiler.Main
import ServiceCompiler.Plan.Body
import ServiceCompiler.Plan.Call
import ServiceCompiler.Plan.Callable
import ServiceCompiler.Plan.Feature
import ServiceCompiler.Plan.Group
import ServiceCompiler.Plan.Match
import ServiceCompiler.Plan.Names
import ServiceCompiler.Plan.Path
import ServiceCompiler.Plan.Rpc
import ServiceCompiler.Plan.Usage
import ServiceCompiler.Proofs.Build.Declarations
import ServiceCompiler.Proofs.Build.Failure
import ServiceCompiler.Proofs.Build.Injection
import ServiceCompiler.Proofs.Build.Interleaving
import ServiceCompiler.Proofs.Build.Noting
import ServiceCompiler.Proofs.Build.Offence
import ServiceCompiler.Proofs.Build.Registry
import ServiceCompiler.Proofs.Build.TypeForm
import ServiceCompiler.Proofs.Build.Warnings
import ServiceCompiler.Proofs.Core.Flow
import ServiceCompiler.Proofs.Core.Occurrence
import ServiceCompiler.Proofs.Core.Spelling
import ServiceCompiler.Proofs.Json.Document
import ServiceCompiler.Proofs.Json.Following
import ServiceCompiler.Proofs.Json.Numeral
import ServiceCompiler.Proofs.Json.Passing
import ServiceCompiler.Proofs.Json.Quoted
import ServiceCompiler.Proofs.Outcome
import ServiceCompiler.Proofs.Plan.Callable
import ServiceCompiler.Proofs.Plan.HandlerNames
import ServiceCompiler.Proofs.Plan.Pattern
import ServiceCompiler.Proofs.Plan.Selection
import ServiceCompiler.Proofs.Plan.Spelling
import ServiceCompiler.Proofs.Schema.Proto
import ServiceCompiler.Proofs.Source.Emission
import ServiceCompiler.Proofs.Surface.Content
import ServiceCompiler.Proofs.Surface.Distinct
import ServiceCompiler.Proofs.Surface.Fitting
import ServiceCompiler.Proofs.Surface.Reach
import ServiceCompiler.Proofs.Surface.Reading
import ServiceCompiler.Proofs.Surface.RoundTrip
import ServiceCompiler.Proofs.Surface.Site
import ServiceCompiler.Proofs.Surface.Tree
import ServiceCompiler.Proofs.Surface.Variation
import ServiceCompiler.Proofs.Target.CamelNames
import ServiceCompiler.Proofs.Target.OptionalField
import ServiceCompiler.Proofs.Target.PythonBody
import ServiceCompiler.Proofs.Target.PythonLayout
import ServiceCompiler.Proofs.Target.RustAwait
import ServiceCompiler.Proofs.Target.RustBody
import ServiceCompiler.Proofs.Target.RustLines
import ServiceCompiler.Proofs.Target.RustText
import ServiceCompiler.Proofs.Target.TypeScriptBody
import ServiceCompiler.Proofs.Target.WireResponse
import ServiceCompiler.Proofs.Text.Camel
import ServiceCompiler.Proofs.Text.Fragment
import ServiceCompiler.Proofs.Text.Phrase
import ServiceCompiler.Schema.GraphQl
import ServiceCompiler.Schema.Proto
import ServiceCompiler.Source.Buffer
import ServiceCompiler.Source.Emit
import ServiceCompiler.Source.Line
import ServiceCompiler.Source.Section
import ServiceCompiler.Surface.Conform
import ServiceCompiler.Surface.Decode
import ServiceCompiler.Surface.Encode
import ServiceCompiler.Surface.Keyword
import ServiceCompiler.Surface.Kind
import ServiceCompiler.Surface.Layout
import ServiceCompiler.Surface.Read
import ServiceCompiler.Surface.ShapeError
import ServiceCompiler.Surface.Tree
import ServiceCompiler.Target.PythonBody
import ServiceCompiler.Target.PythonProgram
import ServiceCompiler.Target.PythonProvider
import ServiceCompiler.Target.PythonRecord
import ServiceCompiler.Target.PythonRoute
import ServiceCompiler.Target.PythonType
import ServiceCompiler.Target.RustBody
import ServiceCompiler.Target.RustProgram
import ServiceCompiler.Target.RustProvider
import ServiceCompiler.Target.RustRecord
import ServiceCompiler.Target.RustRoute
import ServiceCompiler.Target.RustRuntime
import ServiceCompiler.Target.RustType
import ServiceCompiler.Target.TypeScriptBody
import ServiceCompiler.Target.TypeScriptProgram
import ServiceCompiler.Target.TypeScriptProvider
import ServiceCompiler.Target.TypeScriptRecord
import ServiceCompiler.Target.TypeScriptRoute
import ServiceCompiler.Target.TypeScriptType
import ServiceCompiler.Text.Alphanumeric
import ServiceCompiler.Text.Hidden
import ServiceCompiler.Text.Identifier
import ServiceCompiler.Text.LetterCase
import ServiceCompiler.Text.Quoted
import ServiceCompiler.Text.Shown
import ServiceCompiler.Text.Split
import ServiceCompiler.Text.Words
import ServiceCompiler.Vocabulary
import ServiceCompiler.Proofs.Plan.Accessors
import ServiceCompiler.Proofs.Build.Features
import ServiceCompiler.Proofs.Target.Packages
import ServiceCompiler.Proofs.Schema.GraphQl
import ServiceCompiler.Proofs.CommandLine.OutputFiles
import ServiceCompiler.Proofs.Core.Within
import ServiceCompiler.Proofs.Plan.AsyncNames
import ServiceCompiler.Proofs.Plan.Usage
import ServiceCompiler.Proofs.Target.ProviderCalls
import ServiceCompiler.Proofs.Source.Suite
import ServiceCompiler.Proofs.Text.Quoted
import ServiceCompiler.Proofs.Target.PythonSuite
import ServiceCompiler.Proofs.Plan.NumberedNames
import ServiceCompiler.Proofs.Plan.RpcPlans
import ServiceCompiler.Proofs.Plan.PathParams
import ServiceCompiler.Proofs.Build.RemoteServices
import ServiceCompiler.Proofs.Target.PythonSignature
import ServiceCompiler.Proofs.Target.TypeScriptSwitch
import ServiceCompiler.Proofs.Plan.Body
import ServiceCompiler.Proofs.Target.SwitchBreak
import ServiceCompiler.Proofs.Target.TypeScriptVariables
import ServiceCompiler.Proofs.Plan.Wildcard
import ServiceCompiler.Proofs.Target.RoutingTables
import ServiceCompiler.Proofs.Target.TypeGrouping
import ServiceCompiler.Proofs.Target.OperatorGrouping
import ServiceCompiler.Proofs.Diagnostic.Colors
import ServiceCompiler.Proofs.Target.Descriptions
