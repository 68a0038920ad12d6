import Rangelink.Agent
import Rangelink.Agent.Handler
import Rangelink.Agent.Rig
import Rangelink.Attempt
import Rangelink.Binary64
import Rangelink.Capabilities
import Rangelink.Capability
import Rangelink.CommandLine.Arguments
import Rangelink.CommandLine.Config
import Rangelink.CommandLine.Daemon
import Rangelink.Context
import Rangelink.Executor
import Rangelink.Failure
import Rangelink.Identifier
import Rangelink.Link
import Rangelink.NetworkRecord
import Rangelink.Order
import Rangelink.Proofs.Attempt
import Rangelink.Proofs.Capabilities
import Rangelink.Proofs.History
import Rangelink.Proofs.Ranging.Demultiplexing
import Rangelink.Proofs.Ranging.Step
import Rangelink.Proofs.Request.Builder
import Rangelink.Proofs.RouteSelection.History
import Rangelink.Proofs.RouteSelection.Notification
import Rangelink.Proofs.RouteSelection.Step
import Rangelink.Proofs.Service
import Rangelink.Proofs.SortedMap
import Rangelink.Proofs.Tracker.Ledger
import Rangelink.Proofs.Tracker.Run
import Rangelink.Provider
import Rangelink.Ranging.Adapter
import Rangelink.Ranging.Event
import Rangelink.Ranging.Measurement
import Rangelink.Ranging.Params
import Rangelink.Ranging.Reason
import Rangelink.Ranging.Registry
import Rangelink.Ranging.Rig
import Rangelink.Ranging.Station
import Rangelink.Refusals
import Rangelink.Request
import Rangelink.Request.Builder
import Rangelink.Request.Template
import Rangelink.Rounds
import Rangelink.RouteSelection
import Rangelink.Scenario
import Rangelink.Scenario.Generator
import Rangelink.Service
import Rangelink.SortedMap
import Rangelink.SortedSet
import Rangelink.Subscription
import Rangelink.Text.Numeral
import Rangelink.Text.Quoted
import Rangelink.Text.Visible
import Rangelink.Tracker
import Rangelink.Tracker.Rig
import Rangelink.Main
import Rangelink.Proofs.Ranging.Lease
import Rangelink.Proofs.Ranging.Desk
import Rangelink.Proofs.Ranging.Closing
import Rangelink.Proofs.Ranging.Opening
import Rangelink.Proofs.Service.Log
import Rangelink.Proofs.Executor
import Rangelink.Proofs.Tracker.Startup
import Rangelink.Proofs.Tracker.Frame
import Rangelink.Proofs.Tracker.Hearing
import Rangelink.Proofs.Agent.Loop
import Rangelink.Proofs.Agent.Interplay
import Rangelink.Proofs.Agent.Script
import Rangelink.Proofs.Agent.Weaving
import Rangelink.Proofs.Agent.Sessions
import Rangelink.Proofs.Agent.Rest
import Rangelink.Proofs.Agent.Rounds
import Rangelink.Proofs.Request.Template
import Rangelink.Proofs.Scenario.Drawing
import Rangelink.Proofs.Scenario.Replay
import Rangelink.Proofs.Tracker.Updating
import Rangelink.Proofs.Tracker.Numbering
import Rangelink.Proofs.Tracker.Retrying
import Rangelink.Proofs.Agent.Merging
import Rangelink.Proofs.Tracker.Unrefused
import Rangelink.Proofs.Agent.Unrefused
import Rangelink.Proofs.CommandLine.Figures
import Rangelink.Proofs.RouteSelection.Interleaving
import Rangelink.Proofs.Request.History
import Rangelink.Proofs.Capabilities.Entailment
import Rangelink.Proofs.Tracker.Teardown
import Rangelink.Proofs.Request.Rebuilding
import Rangelink.Proofs.Capabilities.Standing
import Rangelink.Proofs.RouteSelection.Contents
import Rangelink.Proofs.Capabilities.Origin
import Rangelink.Proofs.Text.Numeral
import Rangelink.Proofs.Request.Specifier
import Rangelink.Proofs.Ranging.Adapter
import Rangelink.Proofs.Executor.Draining
import Rangelink.Proofs.Scenario.Shape
import Rangelink.Proofs.Provider.Conservation
import Rangelink.Proofs.Strays
import Rangelink.Proofs.Text.CodePoint
import Rangelink.Proofs.LastCall
import Rangelink.Proofs.CommandLine.Closing
