import VmMonitor.AttributeValue
import VmMonitor.AttributeValue.Text
import VmMonitor.CommandLine
import VmMonitor.CommandLine.Grammar
import VmMonitor.Console
import VmMonitor.Console.Cell
import VmMonitor.Console.Overview
import VmMonitor.Console.Report
import VmMonitor.Detail
import VmMonitor.Discovery
import VmMonitor.Document
import VmMonitor.Document.Decode
import VmMonitor.Document.Json
import VmMonitor.Document.Plain
import VmMonitor.Document.Tag
import VmMonitor.Document.Toml
import VmMonitor.Document.Toml.Pretty
import VmMonitor.Document.Yaml
import VmMonitor.Document.Yaml.Anchor
import VmMonitor.Document.Yaml.Bare
import VmMonitor.Document.Yaml.Block
import VmMonitor.Document.Yaml.Gap
import VmMonitor.Document.Yaml.Lines
import VmMonitor.Document.Yaml.Node
import VmMonitor.Document.Yaml.Place
import VmMonitor.Document.Yaml.Property
import VmMonitor.Document.Yaml.Quoted
import VmMonitor.Document.Yaml.Style
import VmMonitor.Document.Yaml.Token
import VmMonitor.Endpoint
import VmMonitor.Error
import VmMonitor.Files
import VmMonitor.Host.LoadAverage
import VmMonitor.Host.Machine
import VmMonitor.Instance
import VmMonitor.Instance.VersionLabel
import VmMonitor.Log
import VmMonitor.Main
import VmMonitor.Metrics
import VmMonitor.Monitor
import VmMonitor.Number.Binary64
import VmMonitor.Number.Counter
import VmMonitor.Number.FixedPlaces
import VmMonitor.Number.Power
import VmMonitor.Number.Shortest
import VmMonitor.ObjectName
import VmMonitor.Order
import VmMonitor.Peer
import VmMonitor.Peer.Cache
import VmMonitor.Peer.Script
import VmMonitor.Peer.Telemetry
import VmMonitor.Program
import VmMonitor.Scenario
import VmMonitor.Scenario.Generator
import VmMonitor.Scenario.Replay
import VmMonitor.Scenario.Synthetic
import VmMonitor.Scenario.Text
import VmMonitor.Session
import VmMonitor.Session.Registry
import VmMonitor.Session.State
import VmMonitor.Settings
import VmMonitor.Settings.File
import VmMonitor.Snapshot
import VmMonitor.Table
import VmMonitor.Text.Align
import VmMonitor.Text.Cased
import VmMonitor.Text.Lowercase
import VmMonitor.Text.Numeral
import VmMonitor.Text.Path
import VmMonitor.Text.Similarity
import VmMonitor.Threads
import VmMonitor.Proofs.Peer.Alike
import VmMonitor.Proofs.Peer.Traffic
import VmMonitor.Proofs.Session.Lifecycle
import VmMonitor.Proofs.Session.Incarnations
import VmMonitor.Proofs.Instance.Update
import VmMonitor.Proofs.Instance.UpdateErrors
import VmMonitor.Proofs.Peer.Cache
import VmMonitor.Proofs.Monitor.Tracking
import VmMonitor.Proofs.Monitor.Failures
import VmMonitor.Proofs.Scenario.CachedReplay
import VmMonitor.Proofs.Peer.Retention
import VmMonitor.Proofs.Peer.Learning
import VmMonitor.Proofs.Metrics
import VmMonitor.Proofs.Instance.Reading
import VmMonitor.Proofs.Instance.Constants
import VmMonitor.Proofs.Threads
import VmMonitor.Proofs.Detail.Windows
import VmMonitor.Proofs.Scenario.Seats
import VmMonitor.Proofs.Scenario.Twins
import VmMonitor.Proofs.Scenario.Watching
import VmMonitor.Proofs.ObjectName
import VmMonitor.Proofs.Scenario.Isolation
import VmMonitor.Proofs.Scenario.SoundSample
import VmMonitor.Proofs.Scenario.Refinement
import VmMonitor.Proofs.Program.Frames
import VmMonitor.Proofs.Program.PollLoop
import VmMonitor.Proofs.Metrics.Baseline
import VmMonitor.Proofs.Peer.Batches
import VmMonitor.Proofs.Peer.Polling
import VmMonitor.Proofs.Instance.SteadyState
import VmMonitor.Proofs.Instance.FailedUpdates
import VmMonitor.Proofs.Scenario.CollectorNames
import VmMonitor.Proofs.Detail.Outcomes
import VmMonitor.Proofs.Threads.Ranking
import VmMonitor.Proofs.Threads.Sampling
import VmMonitor.Proofs.Metrics.Bounds
import VmMonitor.Proofs.ObjectName.Matching
import VmMonitor.Proofs.Discovery
import VmMonitor.Proofs.Document.Json
import VmMonitor.Proofs.AttributeValue
import VmMonitor.Proofs.Scenario.Routing
import VmMonitor.Proofs.Instance.VersionLabel
import VmMonitor.Proofs.Scenario.Generator
import VmMonitor.Proofs.Scenario.Synthetic
import VmMonitor.Proofs.Document.Yaml.Node
import VmMonitor.Proofs.Scenario.Text
import VmMonitor.Proofs.Scenario.Loading
import VmMonitor.Proofs.Scenario.Liveness
import VmMonitor.Proofs.Number.Counter
import VmMonitor.Proofs.Number.TotalOrder
import VmMonitor.Proofs.Order
import VmMonitor.Proofs.Threads.Work
import VmMonitor.Proofs.CommandLine.Mentions
import VmMonitor.Proofs.CommandLine.Arguments
import VmMonitor.Proofs.Settings.File
import VmMonitor.Proofs.Program.Precedence
import VmMonitor.Proofs.Console.Overview
