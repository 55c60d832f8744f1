import RaceSentry.Access
import RaceSentry.Calendar.Date
import RaceSentry.Calendar.Timestamp
import RaceSentry.Capture
import RaceSentry.Channel
import RaceSentry.ClockTable
import RaceSentry.Config.Basic
import RaceSentry.Config.Document
import RaceSentry.Conflict
import RaceSentry.Denial
import RaceSentry.Detector
import RaceSentry.Error
import RaceSentry.Event
import RaceSentry.Export
import RaceSentry.Json.Basic
import RaceSentry.Json.Record
import RaceSentry.Json.Text
import RaceSentry.Json.Token
import RaceSentry.Lock
import RaceSentry.Proofs.Accounting
import RaceSentry.Proofs.Alarms
import RaceSentry.Proofs.Attempts
import RaceSentry.Proofs.Attribution
import RaceSentry.Proofs.Blind
import RaceSentry.Proofs.Bystander
import RaceSentry.Proofs.ByteOrder
import RaceSentry.Proofs.Confinement
import RaceSentry.Proofs.Conservation
import RaceSentry.Proofs.Course
import RaceSentry.Proofs.Custody
import RaceSentry.Proofs.Dealing
import RaceSentry.Proofs.Diagnosis
import RaceSentry.Proofs.Documents
import RaceSentry.Proofs.Effect
import RaceSentry.Proofs.Facet
import RaceSentry.Proofs.History
import RaceSentry.Proofs.InTurn
import RaceSentry.Proofs.Interleaving
import RaceSentry.Proofs.Isolation
import RaceSentry.Proofs.Linear
import RaceSentry.Proofs.Lowercase
import RaceSentry.Proofs.Move
import RaceSentry.Proofs.Newcomer
import RaceSentry.Proofs.Ownership
import RaceSentry.Proofs.Panics
import RaceSentry.Proofs.Parallel
import RaceSentry.Proofs.Privacy
import RaceSentry.Proofs.Reading
import RaceSentry.Proofs.Rearrangement
import RaceSentry.Proofs.Recall
import RaceSentry.Proofs.Records
import RaceSentry.Proofs.Reentry
import RaceSentry.Proofs.Repair
import RaceSentry.Proofs.Replay
import RaceSentry.Proofs.RoundTrip
import RaceSentry.Proofs.Schedule
import RaceSentry.Proofs.Script
import RaceSentry.Proofs.Search
import RaceSentry.Proofs.Seclusion
import RaceSentry.Proofs.SelfConflict
import RaceSentry.Proofs.Settings
import RaceSentry.Proofs.Shift
import RaceSentry.Proofs.Shutdown
import RaceSentry.Proofs.Snapshot
import RaceSentry.Proofs.Stages
import RaceSentry.Proofs.Staleness
import RaceSentry.Proofs.Stall
import RaceSentry.Proofs.Standing
import RaceSentry.Proofs.Storms
import RaceSentry.Proofs.Sweep
import RaceSentry.Proofs.Transparency
import RaceSentry.Proofs.Turn
import RaceSentry.Proofs.Unbroken
import RaceSentry.Proofs.Unraced
import RaceSentry.Proofs.Unwinding
import RaceSentry.Proofs.Usable
import RaceSentry.Proofs.Verdict
import RaceSentry.Proofs.View
import RaceSentry.Report
import RaceSentry.Scenario.Payload
import RaceSentry.Scenario.Step
import RaceSentry.SortedMap
import RaceSentry.Storm
import RaceSentry.Text.CaseTable
import RaceSentry.Text.Char
import RaceSentry.Text.Lowercase
import RaceSentry.Text.Quoted
import RaceSentry.Text.Reader
import RaceSentry.ThreadContext
import RaceSentry.Toml.Quoted
import RaceSentry.Toml.Scalar
import RaceSentry.Toml.Text
import RaceSentry.Toml.Value
import RaceSentry.Uuid
import RaceSentry.World.Access
import RaceSentry.World.Action
import RaceSentry.World.Basic
import RaceSentry.World.Describe
