import StoryGraph.Bag
import StoryGraph.CommandLine.Configuration
import StoryGraph.CommandLine.Help
import StoryGraph.CommandLine.Request
import StoryGraph.CommandLine.Run
import StoryGraph.Dice
import StoryGraph.Engine.Actor
import StoryGraph.Engine.Basic
import StoryGraph.Engine.Settings
import StoryGraph.Graph.Basic
import StoryGraph.Graph.Document
import StoryGraph.Graph.Index
import StoryGraph.Handler.Action
import StoryGraph.Handler.Basic
import StoryGraph.Handler.Builtin
import StoryGraph.Handler.Condition
import StoryGraph.Handler.Dialogue
import StoryGraph.Handler.Flow
import StoryGraph.Handler.Source
import StoryGraph.Host.Event
import StoryGraph.Host.Listening
import StoryGraph.Json.Basic
import StoryGraph.Json.Number
import StoryGraph.Json.Reader
import StoryGraph.Json.Record
import StoryGraph.Json.Token
import StoryGraph.Json.Writer
import StoryGraph.Library
import StoryGraph.Loading
import StoryGraph.Main
import StoryGraph.NodeType.Catalog
import StoryGraph.NodeType.Families
import StoryGraph.Number.Binary
import StoryGraph.Number.Decimal
import StoryGraph.Number.Layout
import StoryGraph.Number.Shortest
import StoryGraph.Number.Whole
import StoryGraph.Proofs.Walk.Course
import StoryGraph.Property.Access
import StoryGraph.Property.Document
import StoryGraph.Property.Table
import StoryGraph.Sorted
import StoryGraph.Table
import StoryGraph.Text.Blank
import StoryGraph.Text.Casing
import StoryGraph.Text.Invisible
import StoryGraph.Text.Quoted
import StoryGraph.Toml.Reader
import StoryGraph.Toml.Scalar
import StoryGraph.Toml.Tables
import StoryGraph.Toml.Text
import StoryGraph.Validation.Cycles
import StoryGraph.Validation.Findings
import StoryGraph.Value.Basic
import StoryGraph.Value.Compare
import StoryGraph.Value.Document
import StoryGraph.Walk.Basic
import StoryGraph.Walk.Fanout
import StoryGraph.Walk.Report
import StoryGraph.Walk.Run
import StoryGraph.World.Basic
import StoryGraph.World.Document
import StoryGraph.World.Lookup
import StoryGraph.World.Notes
import StoryGraph.Proofs.Walk.Fires
import StoryGraph.Proofs.Walk.Trail
import StoryGraph.Proofs.Walk.Budget
import StoryGraph.Proofs.Text.Casing
import StoryGraph.Proofs.Validation.CycleSearch
import StoryGraph.Proofs.Walk.Acyclic
import StoryGraph.Proofs.Handler.Domain
import StoryGraph.Proofs.Handler.Ways
import StoryGraph.Proofs.Validation.Flagged
import StoryGraph.Proofs.Walk.Pruned
import StoryGraph.Proofs.Walk.ReportTree
import StoryGraph.Proofs.Walk.Leads
import StoryGraph.Proofs.Walk.Passage
import StoryGraph.Proofs.Walk.Nested
import StoryGraph.Proofs.Walk.Shutdown
import StoryGraph.Proofs.Walk.Unfailing
import StoryGraph.Proofs.Walk.Levels
import StoryGraph.Proofs.Walk.Parting
import StoryGraph.Proofs.Engine.Serve
import StoryGraph.Proofs.Engine.Loop
import StoryGraph.Proofs.Engine.Progress
import StoryGraph.Proofs.Engine.Order
import StoryGraph.Proofs.Engine.Uses
import StoryGraph.Proofs.Engine.Consistency
import StoryGraph.Proofs.Table
import StoryGraph.Proofs.Correspondence
import StoryGraph.Proofs.Json.Hereditary
import StoryGraph.Proofs.Json.Numeric
import StoryGraph.Proofs.Json.Record
import StoryGraph.Proofs.World.Document
import StoryGraph.Proofs.World.Saved
import StoryGraph.Proofs.Number.Range
import StoryGraph.Proofs.Handler.Amounts
import StoryGraph.Proofs.World.Lookup
import StoryGraph.Proofs.Property.Writing
import StoryGraph.Proofs.Walk.Calls
import StoryGraph.Proofs.Engine.Deeds
import StoryGraph.Proofs.World.Range
import StoryGraph.Proofs.Engine.Reckoning
import StoryGraph.Proofs.World.Places
import StoryGraph.Proofs.World.Death
import StoryGraph.Proofs.World.Entities
import StoryGraph.Proofs.World.Quests
import StoryGraph.Proofs.World.Keys
import StoryGraph.Proofs.Number.Finite
import StoryGraph.Proofs.Json.Bounded
import StoryGraph.Proofs.Json.Reordered
import StoryGraph.Proofs.Graph.Document
import StoryGraph.Proofs.Walk.Routing
import StoryGraph.Proofs.Graph.Likeness
import StoryGraph.Proofs.Handler.Reading
import StoryGraph.Proofs.Walk.Requests
import StoryGraph.Proofs.Walk.Tandem
import StoryGraph.Proofs.Walk.LetterCase
import StoryGraph.Proofs.Walk.Limits
import StoryGraph.Proofs.Walk.Problems
import StoryGraph.Proofs.Walk.ReadOnly
import StoryGraph.Proofs.Property.Entity
import StoryGraph.Proofs.Property.Told
import StoryGraph.Proofs.Validation.ClosingNodes
import StoryGraph.Proofs.Walk.Alone
import StoryGraph.Proofs.Engine.Parity
import StoryGraph.Proofs.Graph.Entry
import StoryGraph.Proofs.Walk.Beginning
import StoryGraph.Proofs.Walk.Outputs
import StoryGraph.Proofs.Walk.Listeners
import StoryGraph.Proofs.Walk.Singletons
import StoryGraph.Proofs.World.Variables
import StoryGraph.Proofs.World.Notes
import StoryGraph.Proofs.Property.Known
import StoryGraph.Proofs.Walk.Kept
import StoryGraph.Proofs.Handler.Arguments
import StoryGraph.Proofs.Number.Decimal
import StoryGraph.Proofs.Number.Order
import StoryGraph.Proofs.Number.Rounded
import StoryGraph.Proofs.Property.Stored
import StoryGraph.Proofs.Value.Comparison
import StoryGraph.Proofs.Value.Loose
import StoryGraph.Proofs.Text.Bytes
import StoryGraph.Proofs.Bag
import StoryGraph.Proofs.World.Turns
import StoryGraph.Proofs.Engine.Moments
import StoryGraph.Proofs.Engine.KnownIds
import StoryGraph.Proofs.Loading
import StoryGraph.Proofs.Number.Written
import StoryGraph.Proofs.Value.Spelling
import StoryGraph.Proofs.Handler.Spelling
