import Playback.Advertising
import Playback.Classification
import Playback.CommandLine.Arguments
import Playback.CommandLine.Run
import Playback.Config
import Playback.Duration
import Playback.Error
import Playback.Failure
import Playback.Json.Decoding
import Playback.Json.Printer
import Playback.Json.Reader
import Playback.Json.Value
import Playback.Main
import Playback.Phase
import Playback.Playlist
import Playback.Polling.Poller
import Playback.Polling.Timeline
import Playback.Positions
import Playback.Proofs.Session.Frame
import Playback.Proofs.Session.Outcome
import Playback.Proofs.Session.Run
import Playback.Rehearsal.Basic
import Playback.Rehearsal.Task
import Playback.Rehearsal.World
import Playback.Report.Delta
import Playback.Report.Line
import Playback.Report.Simulation
import Playback.Session.Basic
import Playback.Session.Control
import Playback.Session.Step
import Playback.Signal
import Playback.Simulation.Run
import Playback.Simulation.Scenario
import Playback.Simulation.Stub
import Playback.State
import Playback.Text.CharClass
import Playback.Text.Composition
import Playback.Text.Layout
import Playback.Text.Parts
import Playback.Text.Quoted
import Playback.Text.Table
import Playback.Text.Timecode
import Playback.Text.Uuid
import Playback.Tracking.Emitter
import Playback.Tracking.Event
import Playback.Url.Domain.Ascii
import Playback.Url.Domain.Direction
import Playback.Url.Domain.Folding
import Playback.Url.Domain.Joining
import Playback.Url.Host
import Playback.Url.Parser
import Playback.Url.Percent
import Playback.Url.Punycode
import Playback.Video
import Playback.Wire.Advertising
import Playback.Wire.Event
import Playback.Wire.Scenario
import Playback.Wire.Signal
import Playback.Wire.State
import Playback.Wire.Video
import Playback.Proofs.Engine.Roster
import Playback.Proofs.Session.Coherent
import Playback.Proofs.Engine.Ownership
import Playback.Proofs.Session.Refusal
import Playback.Proofs.Polling.Generation
import Playback.Proofs.Session.Quiescence
import Playback.Proofs.Tracking.Emission
import Playback.Proofs.Polling.Attribution
import Playback.Proofs.Polling.Pace
import Playback.Proofs.Session.Concealment
import Playback.Proofs.Session.Finality
import Playback.Proofs.Session.Renewal
import Playback.Proofs.Playlist.Course
import Playback.Proofs.Session.Succession
import Playback.Proofs.Tracking.Starts
import Playback.Proofs.Engine.Casting
import Playback.Proofs.Session.Deferral
import Playback.Proofs.Positions.Recall
import Playback.Proofs.Playlist.Stitching
import Playback.Proofs.Session.Ending
import Playback.Proofs.Tracking.Vocabulary
import Playback.Proofs.Session.Epilogue
import Playback.Proofs.Positions.Clearance
import Playback.Proofs.Polling.Staleness
import Playback.Proofs.Polling.Schedule
import Playback.Proofs.Rehearsal.Upkeep
import Playback.Proofs.Polling.Cadence
import Playback.Proofs.Wire.Rearrangement
import Playback.Proofs.Wire.RoundTrip
import Playback.Proofs.Video.Percentage
import Playback.Proofs.Session.Orders
import Playback.Proofs.Engine.Handover
import Playback.Proofs.Session.Faults
import Playback.Proofs.Tracking.AdPauses
import Playback.Proofs.Session.Chrome
import Playback.Proofs.Text.Timecode
import Playback.Proofs.Wire.Distinction
