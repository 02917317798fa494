import ScriptGraph.Catalog
import ScriptGraph.CommandLine
import ScriptGraph.Graph.Arena
import ScriptGraph.Graph.Basic
import ScriptGraph.Json.Basic
import ScriptGraph.Json.Number
import ScriptGraph.Json.Reader
import ScriptGraph.Log
import ScriptGraph.LogFilter
import ScriptGraph.Main
import ScriptGraph.Node.Basic
import ScriptGraph.Node.Kinds
import ScriptGraph.Number.Binary
import ScriptGraph.Number.Decimal
import ScriptGraph.Number.Single
import ScriptGraph.Pattern.Basic
import ScriptGraph.Pattern.Bracket
import ScriptGraph.Pattern.Reader
import ScriptGraph.Proofs.Accounting
import ScriptGraph.Proofs.Arena
import ScriptGraph.Proofs.Attachment
import ScriptGraph.Proofs.Authored
import ScriptGraph.Proofs.Builtins
import ScriptGraph.Proofs.Bytes
import ScriptGraph.Proofs.Calls
import ScriptGraph.Proofs.Collisions
import ScriptGraph.Proofs.Confinement
import ScriptGraph.Proofs.DecimalText
import ScriptGraph.Proofs.Declared
import ScriptGraph.Proofs.Depth
import ScriptGraph.Proofs.Documents
import ScriptGraph.Proofs.Evaluation
import ScriptGraph.Proofs.Flow
import ScriptGraph.Proofs.Frame
import ScriptGraph.Proofs.Freshness
import ScriptGraph.Proofs.GraphPlans
import ScriptGraph.Proofs.Identity
import ScriptGraph.Proofs.JsonDocuments
import ScriptGraph.Proofs.JsonText
import ScriptGraph.Proofs.Linking
import ScriptGraph.Proofs.Losses
import ScriptGraph.Proofs.Mirroring
import ScriptGraph.Proofs.NodeRuns
import ScriptGraph.Proofs.Normalising
import ScriptGraph.Proofs.PlayMode
import ScriptGraph.Proofs.Pruning
import ScriptGraph.Proofs.Publishing
import ScriptGraph.Proofs.Reachable
import ScriptGraph.Proofs.Reports
import ScriptGraph.Proofs.Requests
import ScriptGraph.Proofs.Residue
import ScriptGraph.Proofs.Restore
import ScriptGraph.Proofs.RonReaders
import ScriptGraph.Proofs.RonTokens
import ScriptGraph.Proofs.RoundTrip
import ScriptGraph.Proofs.Rounding
import ScriptGraph.Proofs.Scenarios
import ScriptGraph.Proofs.SetUp
import ScriptGraph.Proofs.Settling
import ScriptGraph.Proofs.Shape
import ScriptGraph.Proofs.SlotGaps
import ScriptGraph.Proofs.Store
import ScriptGraph.Proofs.StoredGraphs
import ScriptGraph.Proofs.Table
import ScriptGraph.Proofs.Typing
import ScriptGraph.Proofs.Update
import ScriptGraph.Proofs.Variables
import ScriptGraph.Proofs.Walk
import ScriptGraph.Proofs.WellFormed
import ScriptGraph.Report
import ScriptGraph.Ron.Basic
import ScriptGraph.Ron.Codec
import ScriptGraph.Ron.Context
import ScriptGraph.Ron.Literal
import ScriptGraph.Ron.Reader
import ScriptGraph.Ron.Skip
import ScriptGraph.Ron.Text
import ScriptGraph.Scenario.Basic
import ScriptGraph.Scenario.RonForm
import ScriptGraph.Scene
import ScriptGraph.Script
import ScriptGraph.Session
import ScriptGraph.Settings
import ScriptGraph.Simulation
import ScriptGraph.Snapshot
import ScriptGraph.Snapshot.Bytes
import ScriptGraph.Snapshot.JsonForm
import ScriptGraph.Snapshot.RonForm
import ScriptGraph.Store
import ScriptGraph.Table
import ScriptGraph.Text.Alphabetic
import ScriptGraph.Text.Classes
import ScriptGraph.Text.Combining
import ScriptGraph.Text.IdentifierChars
import ScriptGraph.Text.Unprintable
import ScriptGraph.Tick
import ScriptGraph.Uuid
import ScriptGraph.Value
