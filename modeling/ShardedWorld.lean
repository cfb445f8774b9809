import ShardedWorld.Binary.Arithmetic
import ShardedWorld.Binary.Decimal
import ShardedWorld.Binary.Format
import ShardedWorld.CommandLine.Failure
import ShardedWorld.CommandLine.Programs
import ShardedWorld.CommandLine.Reader
import ShardedWorld.ConfigError
import ShardedWorld.Coordinator.Basic
import ShardedWorld.Coordinator.Config
import ShardedWorld.Dialogue
import ShardedWorld.Entity.Basic
import ShardedWorld.Entity.Crossing
import ShardedWorld.Entity.Population
import ShardedWorld.Entity.Rehearsal
import ShardedWorld.Entity.Scan
import ShardedWorld.Identity
import ShardedWorld.Main
import ShardedWorld.Message.Description
import ShardedWorld.Message.Packet
import ShardedWorld.Message.Record
import ShardedWorld.Message.RemoteError
import ShardedWorld.Network.Acquire
import ShardedWorld.Network.Address
import ShardedWorld.Network.Borrowing
import ShardedWorld.Network.Call
import ShardedWorld.Network.Connection
import ShardedWorld.Network.Deadlines
import ShardedWorld.Network.IoError
import ShardedWorld.Network.Pool
import ShardedWorld.Network.Service
import ShardedWorld.Network.TransportError
import ShardedWorld.Player.Backoff
import ShardedWorld.Player.Health
import ShardedWorld.Player.Schedule
import ShardedWorld.Player.TimerGroup
import ShardedWorld.Player.Transition
import ShardedWorld.Proofs.Binary.Order
import ShardedWorld.Proofs.Binary.Powers
import ShardedWorld.Proofs.Binary.Rounding
import ShardedWorld.Proofs.Binary.Seconds
import ShardedWorld.Proofs.Binary.Values
import ShardedWorld.Proofs.Coordinator.Answers
import ShardedWorld.Proofs.Coordinator.Transparency
import ShardedWorld.Proofs.Entity.Agreement
import ShardedWorld.Proofs.Entity.Horizon
import ShardedWorld.Proofs.Handover.Caution
import ShardedWorld.Proofs.Handover.Crossing
import ShardedWorld.Proofs.Handover.Presence
import ShardedWorld.Proofs.Handover.Soundness
import ShardedWorld.Proofs.Handover.Tracking
import ShardedWorld.Proofs.Handover.World
import ShardedWorld.Proofs.Network.Calls
import ShardedWorld.Proofs.Network.Exchange
import ShardedWorld.Proofs.Network.PoolAccounting
import ShardedWorld.Proofs.Network.PoolLedger
import ShardedWorld.Proofs.Network.PoolLocks
import ShardedWorld.Proofs.Network.PoolRuns
import ShardedWorld.Proofs.Network.Traffic
import ShardedWorld.Proofs.Network.TrafficLedger
import ShardedWorld.Proofs.Player.Cooldowns
import ShardedWorld.Proofs.Player.Debounce
import ShardedWorld.Proofs.Player.Delays
import ShardedWorld.Proofs.Player.Episodes
import ShardedWorld.Proofs.Player.ForcedMoves
import ShardedWorld.Proofs.Player.Histories
import ShardedWorld.Proofs.Player.Interruptions
import ShardedWorld.Proofs.Player.Mismatches
import ShardedWorld.Proofs.Player.Monitoring
import ShardedWorld.Proofs.Player.Scopes
import ShardedWorld.Proofs.Player.Spacing
import ShardedWorld.Proofs.Registry.Availability
import ShardedWorld.Proofs.Registry.Changes
import ShardedWorld.Proofs.Registry.Chronicles
import ShardedWorld.Proofs.Registry.Direction
import ShardedWorld.Proofs.Registry.Durability
import ShardedWorld.Proofs.Registry.Entries
import ShardedWorld.Proofs.Registry.Eviction
import ShardedWorld.Proofs.Registry.FirstFit
import ShardedWorld.Proofs.Registry.Leftovers
import ShardedWorld.Proofs.Registry.Lengths
import ShardedWorld.Proofs.Registry.Observations
import ShardedWorld.Proofs.Registry.Ownership
import ShardedWorld.Proofs.Registry.Repetition
import ShardedWorld.Proofs.Registry.Reversals
import ShardedWorld.Proofs.Registry.Statistics
import ShardedWorld.Proofs.Registry.WriteThrough
import ShardedWorld.Proofs.Scan.Attempts
import ShardedWorld.Proofs.Scan.Candidates
import ShardedWorld.Proofs.Scan.Company
import ShardedWorld.Proofs.Scan.Conservation
import ShardedWorld.Proofs.Scan.Convergence
import ShardedWorld.Proofs.Scan.Courses
import ShardedWorld.Proofs.Scan.Destruction
import ShardedWorld.Proofs.Scan.Stays
import ShardedWorld.Proofs.Scan.Trials
import ShardedWorld.Proofs.Server.Attending
import ShardedWorld.Proofs.Server.Intake
import ShardedWorld.Proofs.Server.Joins
import ShardedWorld.Proofs.Server.Kinds
import ShardedWorld.Proofs.Server.Moves
import ShardedWorld.Proofs.Server.Ordering
import ShardedWorld.Proofs.Server.Runs
import ShardedWorld.Proofs.Server.Silence
import ShardedWorld.Proofs.Session.Commits
import ShardedWorld.Proofs.Session.Links
import ShardedWorld.Proofs.Session.Moves
import ShardedWorld.Proofs.Wire.Exactness
import ShardedWorld.Proofs.Wire.Framing
import ShardedWorld.Proofs.Wire.Labels
import ShardedWorld.Proofs.Wire.Sizes
import ShardedWorld.Proofs.Wire.Snapshots
import ShardedWorld.Proofs.Wire.WorldStates
import ShardedWorld.Registry.Assignment
import ShardedWorld.Registry.Basic
import ShardedWorld.Registry.Command
import ShardedWorld.Registry.Entry
import ShardedWorld.Registry.Error
import ShardedWorld.Registry.Store
import ShardedWorld.Running.Chance
import ShardedWorld.Running.Client
import ShardedWorld.Running.Coordinator
import ShardedWorld.Running.Remote
import ShardedWorld.Running.Server
import ShardedWorld.Running.Socket
import ShardedWorld.Server.Attendance
import ShardedWorld.Server.Basic
import ShardedWorld.Server.Config
import ShardedWorld.Server.Enrolment
import ShardedWorld.Session.Basic
import ShardedWorld.Session.Config
import ShardedWorld.Session.Error
import ShardedWorld.Session.Switch
import ShardedWorld.Session.Talk
import ShardedWorld.Session.Tick
import ShardedWorld.Space.Grid
import ShardedWorld.Space.Vec2
import ShardedWorld.Space.Zone
import ShardedWorld.Table
import ShardedWorld.Text.Blank
import ShardedWorld.Text.Visible
import ShardedWorld.Time
import ShardedWorld.Wire.Codec
import ShardedWorld.Wire.DecodeError
import ShardedWorld.Wire.Message
import ShardedWorld.Wire.Packet
