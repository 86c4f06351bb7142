/-
This file puts together what takes part in a tick. The announcer comes first.
Then the liaison hands a snapshot to the solver if new parcels have become
known, or if a repair is still wanted. Then the vehicles drive, in order. At
the end of the tick the liaison hands over one more snapshot if some vehicle
has found that its schedule entry did not fit.

The solver works beside all this. Whenever one of them looks at the desk, the
worker takes a turn first, and again after a snapshot was handed over and at
the end of the tick.
-/
import LiveFleet.Run.Driving
import LiveFleet.Run.Stop
import LiveFleet.Tick.Listener

namespace LiveFleet

/-- Why a tick fails. An observer that was added to a run gives its own reason. -/
inductive Refusal where
  | solver (error : SolverError)
  | world (error : WorldError)
  | observer (reason : String)
  deriving DecidableEq, Repr

/-- The text of a refusal. -/
def Refusal.message : Refusal → String
  | solver error => error.message
  | world error => error.message
  | observer reason => reason

/-- Everything that the ticks of a run work on. The surroundings belong to the solver, and to those
who observe the run. -/
structure Fleet (Surroundings : Type) where
  scene : Scene
  announcer : Announcer
  /-- The number of parcels that were known when the last snapshot was handed over. -/
  reported : Nat
  couriers : List Courier
  repairs : RepairLog
  desk : Desk
  surroundings : Surroundings

namespace Fleet

variable {Surroundings : Type}

/-- A step of a tick. -/
abbrev Step (Surroundings Value : Type) := Attempt (Fleet Surroundings) (Failure Refusal) Value

/-- The listeners of a run. -/
abbrev Member (Surroundings : Type) := Listener (Fleet Surroundings) Refusal

/-- Let the worker take a turn. -/
def turn (worker : Worker Surroundings) : Step Surroundings Unit := modify fun fleet =>
  let (surroundings, moves) := worker.turn fleet.surroundings fleet.desk
  { fleet with surroundings, desk := fleet.desk.moves moves }

/-! ### The announcer -/

/-- Announce what is due at the start of a tick. -/
def announcing : Member Surroundings where
  before := fun lapse => modify fun fleet =>
    let (announcer, scene) := fleet.announcer.tick lapse fleet.scene
    { fleet with announcer, scene }

/-! ### The liaison -/

/-- Hand a snapshot of the world to the solver, and wait a while. -/
def report (worker : Worker Surroundings) (time : Nat) : Step Surroundings Unit := do
  modify fun fleet => { fleet with reported := fleet.scene.world.parcels.length }
  let fleet ← get
  let _ ← Attempt.within Fleet.desk (fun desk fleet => { fleet with desk := desk })
    (fun error => .refused (.solver error))
    (Desk.dispatch (Snapshot.capture fleet.scene.world time))
  turn worker

/-- Whether a vehicle has asked for a new snapshot. The request is taken. -/
def takeRequest : Step Surroundings Bool := modifyGet fun fleet =>
  (fleet.repairs.takeRequest.1, { fleet with repairs := fleet.repairs.takeRequest.2 })

/-- The liaison at the start of a tick. A solver that has failed stops the run. -/
def reportNews (worker : Worker Surroundings) (lapse : TimeLapse) : Step Surroundings Unit := do
  turn worker
  Attempt.inspect fun fleet => fleet.desk.checkHealth.mapError fun error => .refused (.solver error)
  let fleet ← get
  let requested ← takeRequest
  if fleet.reported < fleet.scene.world.parcels.length || requested then
    report worker lapse.start

/-- The liaison at the end of a tick. -/
def reportRepairs (worker : Worker Surroundings) (lapse : TimeLapse) :
    Step Surroundings Unit := do
  turn worker
  let requested ← takeRequest
  if requested then
    report worker lapse.finish
  turn worker

/-- Keep the solver informed. -/
def reporting (worker : Worker Surroundings) : Member Surroundings where
  before := reportNews worker
  after := reportRepairs worker

/-! ### The vehicles -/

/-- Look at the published schedule, after the worker has taken a turn. -/
def readBoard (worker : Worker Surroundings) : ReadBoard (Desk × Surroundings) :=
  fun (desk, surroundings) =>
    let (surroundings, moves) := worker.turn surroundings desk
    let desk := desk.moves moves
    (desk.published, desk, surroundings)

/-- What one driver sees of the fleet. -/
def cab (fleet : Fleet Surroundings) (courier : Courier) : Cab (Desk × Surroundings) :=
  { courier
    world := fleet.scene.world
    repairs := fleet.repairs
    board := (fleet.desk, fleet.surroundings) }

/-- The fleet after one driver has changed what it sees. -/
def putBack (index : Nat) (cab : Cab (Desk × Surroundings)) (fleet : Fleet Surroundings) :
    Fleet Surroundings :=
  { fleet with
    scene := { fleet.scene with world := cab.world }
    couriers := fleet.couriers.set index cab.courier
    repairs := cab.repairs
    desk := cab.board.1
    surroundings := cab.board.2 }

/-- The driver at a position of the list drives for a tick. It may return to the depot once nothing
is left to be announced. -/
def driveOne (worker : Worker Surroundings) (index : Nat) (lapse : TimeLapse) :
    Step Surroundings Unit := do
  let fleet ← get
  match fleet.couriers[index]? with
  | none => return
  | some courier =>
    Attempt.within (fun fleet => fleet.cab courier) (putBack index) (Failure.map .world)
      (Cab.tick (readBoard worker) lapse (fleet.scene.pending = 0))

/-- Drive a vehicle. -/
def driving (worker : Worker Surroundings) (index : Nat) : Member Surroundings where
  before := driveOne worker index

/-- The members of a run with the given number of vehicles, in order. -/
def members (worker : Worker Surroundings) (vehicles : Nat) : List (Member Surroundings) :=
  announcing :: reporting worker :: (List.range vehicles).map (driving worker)

end Fleet

end LiveFleet
