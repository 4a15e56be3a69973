import TypedQueries.Syntax.Parse
import TypedQueries.Syntax.Errors
import TypedQueries.Syntax.Language
import TypedQueries.Text.Escape
import TypedQueries.Diagnostic
import TypedQueries.Query.Call
import TypedQueries.Module.Synthesis
import TypedQueries.Module.Output
import TypedQueries.Failure
import TypedQueries.Event
import TypedQueries.Settings.Load
import TypedQueries.FileSystem.Change
import TypedQueries.Source.Scan
import TypedQueries.Generation
import TypedQueries.Postgres.Generation
import TypedQueries.Watch.Filter
import TypedQueries.Watch.Loop
import TypedQueries.CommandLine.Arguments
import TypedQueries.CommandLine.LogFilter
import TypedQueries.CommandLine.Session
import TypedQueries.Simulation.ScriptedProbe
import TypedQueries.Simulation.Drive
import TypedQueries.Simulation.Session
import TypedQueries.Main
import TypedQueries.Syntax.Site
import TypedQueries.Proofs.Syntax.Navigation
import TypedQueries.Proofs.Syntax.Traversal
import TypedQueries.Proofs.Query.Extraction
import TypedQueries.Proofs.Syntax.Placement
import TypedQueries.Proofs.Query.Environment
import TypedQueries.Proofs.Query.Hoisting
import TypedQueries.Proofs.Query.Lookup
import TypedQueries.Proofs.Query.Confinement
import TypedQueries.Proofs.Query.VariableScope
import TypedQueries.Proofs.Text.StringLiteral
import TypedQueries.Proofs.Query.LiteralArgument
import TypedQueries.Proofs.Module.Lines
import TypedQueries.Proofs.Module.Reading
import TypedQueries.Proofs.Module.ConditionalType
import TypedQueries.Proofs.Module.Selection
import TypedQueries.Proofs.Activity.Exchanges
import TypedQueries.Proofs.Generation.Action
import TypedQueries.Proofs.Path.Order
import TypedQueries.Proofs.Path.Components
import TypedQueries.Proofs.Watch.Interleaving
import TypedQueries.Proofs.Watch.Inputs
import TypedQueries.Proofs.FileSystem.Leading
import TypedQueries.Proofs.FileSystem.Change
import TypedQueries.Proofs.FileSystem.Temporary
import TypedQueries.Proofs.FileSystem.FreshName
import TypedQueries.Proofs.Generation.Stages
import TypedQueries.Proofs.Generation.Course
import TypedQueries.Proofs.Generation.Order
import TypedQueries.Proofs.Generation.Disposal
import TypedQueries.Proofs.Generation.Ending
import TypedQueries.Proofs.Generation.Files
import TypedQueries.Proofs.Simulation.Service
import TypedQueries.Proofs.Generation.Output
import TypedQueries.Proofs.Generation.DistinctTexts
import TypedQueries.Proofs.Source.Workers
import TypedQueries.Proofs.Source.Scheduling
import TypedQueries.Proofs.Postgres.Dropping
import TypedQueries.Proofs.Generation.Observers
import TypedQueries.Proofs.Source.Renewal
import TypedQueries.Proofs.Generation.Regeneration
import TypedQueries.Proofs.Generation.Narrowing
import TypedQueries.Proofs.Module.Names
import TypedQueries.Proofs.Postgres.Password
import TypedQueries.Proofs.Query.CommentedCalls
import TypedQueries.Proofs.Text.WellFormedEscapes
import TypedQueries.Proofs.Text.CodeUnits
import TypedQueries.Proofs.Query.Correspondence
import TypedQueries.Proofs.Query.Reading
import TypedQueries.Proofs.Query.Reinitialized
import TypedQueries.Proofs.Generation.Accounting
import TypedQueries.Proofs.Text.MalformedEscapes
import TypedQueries.Proofs.Query.OwnNames
import TypedQueries.Proofs.Module.Slots
import TypedQueries.Proofs.Query.WrappedValues
import TypedQueries.Proofs.Generation.EachTextOnce
import TypedQueries.Proofs.Syntax.Spans
import TypedQueries.Proofs.Query.Positions
import TypedQueries.Proofs.Query.LineEnds
import TypedQueries.Proofs.Settings.Layers
import TypedQueries.Proofs.Source.Search
import TypedQueries.Proofs.Migration.Loading
import TypedQueries.Proofs.Settings.Extensions
import TypedQueries.Proofs.Settings.OutputFile
import TypedQueries.Proofs.Text.Shortening
import TypedQueries.Proofs.Query.BoundNames
import TypedQueries.Proofs.FileSystem.Making
import TypedQueries.Proofs.FileSystem.Spelling
import TypedQueries.Proofs.FileSystem.Moments
import TypedQueries.Proofs.Module.AtOneStroke
import TypedQueries.Proofs.Watch.OwnChanges
import TypedQueries.Proofs.Syntax.ErrorCount
