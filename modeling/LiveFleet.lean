import LiveFleet.Attempt
import LiveFleet.Checked
import LiveFleet.Ids
import LiveFleet.Time.Lapse
import LiveFleet.Time.Window
import LiveFleet.Time.TickClock
import LiveFleet.Number.Binary64
import LiveFleet.Number.Shortest
import LiveFleet.Geometry
import LiveFleet.Random.Generator
import LiveFleet.Random.Range
import LiveFleet.Random.Model
import LiveFleet.Parcel.Order
import LiveFleet.Parcel.State
import LiveFleet.Vehicle
import LiveFleet.World.Event
import LiveFleet.World.Basic
import LiveFleet.World.Service
import LiveFleet.World.Progress
import LiveFleet.Schedule
import LiveFleet.Snapshot
import LiveFleet.Pace
import LiveFleet.Tick.Listener
import LiveFleet.Tick.Loop
import LiveFleet.Solver.Error
import LiveFleet.Solver.Desk
import LiveFleet.Solver.Blocking
import LiveFleet.Solver.Assignment
import LiveFleet.Solver.RandomAssignment
import LiveFleet.Solver.Silent
import LiveFleet.Solver.Rehearsal
import LiveFleet.Run.Consistency
import LiveFleet.Run.Courier
import LiveFleet.Run.Driving
import LiveFleet.Run.Scenario
import LiveFleet.Run.Stop
import LiveFleet.Run.Settings
import LiveFleet.Run.Fleet
import LiveFleet.Run.Simulation
import LiveFleet.Toml.Value
import LiveFleet.Toml.Token
import LiveFleet.Toml.Statement
import LiveFleet.Toml.Document
import LiveFleet.Run.SettingsText
import LiveFleet.Demo
import LiveFleet.Main
import LiveFleet.Proofs.Attempt
import LiveFleet.Proofs.Tick.Recording
import LiveFleet.Proofs.Tick.Chronicle
import LiveFleet.Proofs.Desk.Action
import LiveFleet.Proofs.Desk.Line
import LiveFleet.Proofs.Desk.Session
import LiveFleet.Proofs.Desk.Delivery
import LiveFleet.Proofs.Desk.Publication
import LiveFleet.Proofs.Desk.Pacing
import LiveFleet.Proofs.Desk.Withdrawal
import LiveFleet.Proofs.Desk.Closing
import LiveFleet.Proofs.Solver.Convention
import LiveFleet.Proofs.Desk.Sitting
import LiveFleet.Proofs.Desk.Intake
import LiveFleet.Proofs.Solver.Adapter
import LiveFleet.Proofs.Solver.Shift
import LiveFleet.Proofs.Solver.Diary
import LiveFleet.Proofs.Solver.Lateness
import LiveFleet.Proofs.World.Account
import LiveFleet.Proofs.World.Course
import LiveFleet.Proofs.World.Ledger
import LiveFleet.Proofs.World.Custody
import LiveFleet.Proofs.World.Accord
import LiveFleet.Proofs.World.Operations
import LiveFleet.Proofs.World.Requests
import LiveFleet.Proofs.Run.Board
import LiveFleet.Proofs.Run.Trail
import LiveFleet.Proofs.Run.Calls
import LiveFleet.Proofs.Run.Replay
import LiveFleet.Proofs.Run.Tempo
import LiveFleet.Proofs.Run.Rounds
import LiveFleet.Proofs.Run.Serving
import LiveFleet.Proofs.Run.ParcelCourse
import LiveFleet.Proofs.Run.Upkeep
import LiveFleet.Proofs.Run.Reach
import LiveFleet.Proofs.Run.Roster
import LiveFleet.Proofs.Run.Completion
import LiveFleet.Proofs.Run.Faults
import LiveFleet.Proofs.Run.Deeds
import LiveFleet.Proofs.Run.Opening
import LiveFleet.Proofs.Run.Cargo
import LiveFleet.Proofs.Run.Readiness
import LiveFleet.Proofs.Run.Refusals
import LiveFleet.Proofs.Run.Heading
import LiveFleet.Proofs.Run.Destinations
import LiveFleet.Proofs.Run.Stowing
import LiveFleet.Proofs.Run.Adoption
import LiveFleet.Proofs.Run.Coverage
import LiveFleet.Proofs.Run.Misfits
import LiveFleet.Proofs.Run.Timeline
import LiveFleet.Proofs.Run.Handover
import LiveFleet.Proofs.Run.Dispatches
import LiveFleet.Proofs.Run.Freshness
import LiveFleet.Proofs.Run.Turns
import LiveFleet.Proofs.Run.Paths
import LiveFleet.Proofs.Run.Crashes
import LiveFleet.Proofs.Run.Moments
import LiveFleet.Proofs.Run.Limits
import LiveFleet.Proofs.Run.Timekeeping
import LiveFleet.Proofs.Run.Punctuality
import LiveFleet.Proofs.Run.Commitments
import LiveFleet.Proofs.Run.Itinerary
import LiveFleet.Proofs.Run.Pruning
import LiveFleet.Proofs.Run.Announcements
import LiveFleet.Proofs.Run.Dealing
import LiveFleet.Proofs.Run.Independence
import LiveFleet.Proofs.Toml.Numerals
import LiveFleet.Proofs.Toml.Lines
import LiveFleet.Proofs.Toml.Range
import LiveFleet.Proofs.Run.Rereading
import LiveFleet.Proofs.Random.Places
import LiveFleet.Proofs.Random.Supply
import LiveFleet.Proofs.Random.Streams
import LiveFleet.Proofs.Parcel.Drafting
import LiveFleet.Proofs.Run.Workload
