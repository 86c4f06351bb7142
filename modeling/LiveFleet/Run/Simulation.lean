/-
This file holds whole runs. A run is built from settings, a scenario and a
solver, which is given a seed drawn from the random model of the run. It goes
on until the scenario is complete or its time is over, and then reports what
was achieved. A run may be called again; it goes on where it stopped.
-/
import LiveFleet.Run.Fleet
import LiveFleet.Run.Settings

namespace LiveFleet

/-- Why a run cannot be built, or has failed. -/
inductive RunError where
  | noVehicles
  | settings (error : SettingsError)
  | ticks (error : TickError Refusal)
  | solver (error : SolverError)
  deriving DecidableEq, Repr

/-- The text of a run error. -/
def RunError.message : RunError → String
  | noVehicles => "scenario has no vehicles"
  | settings error => error.message
  | ticks error => error.message Refusal.message
  | solver error => error.message

/-- What a run has achieved. -/
structure RunReport where
  summary : RunSummary
  parcels : Nat
  delivered : Nat
  /-- The number of snapshots handed to the solver. -/
  dispatches : Nat
  /-- The number of schedule versions that did not fit some vehicle. -/
  repairs : Nat
  transitions : Nat
  deriving DecidableEq, Repr

/-- A run that is ready to go, or to go on. -/
structure Simulation (Surroundings : Type) where
  loop : TickLoop
  stop : StopRule
  fleet : Fleet Surroundings

namespace Simulation

variable {Surroundings : Type}

/-- The world before the first tick, with its vehicles in the order of the scenario. -/
def initialWorld (scenario : Scenario) : World :=
  scenario.vehicles.foldl (fun world profile => (world.addVehicle profile).2)
    (World.empty scenario.depot)

/-- The fleet before the first tick. -/
def initialFleet (scenario : Scenario) (pace : Pace) (surroundings : Surroundings) :
    Fleet Surroundings :=
  { scene := { world := initialWorld scenario, pending := scenario.orders.length }
    announcer := .ofOrders scenario.orders
    reported := 0
    couriers := (List.range scenario.vehicles.length).map fun index => .start ⟨index⟩
    repairs := .clear
    desk := .opened (.start pace)
    surroundings }

/-- When a run with these settings ends. -/
def stopRule (settings : Settings) : StopRule :=
  .anyOf [.timeOut settings.timeOut, .scenarioComplete]

/-- The seed that the solver of a run is given: the first word of the random model. -/
def solverSeed (settings : Settings) : UInt64 :=
  (RandomModel.ofSeed settings.seed : RandomModel Unit).seed.1

/-- Build a run. The solver is started with its seed; if that fails, there is no run. -/
def build (settings : Settings) (scenario : Scenario)
    (startSolver : UInt64 → Except SolverFailure Surroundings) :
    Except RunError (Simulation Surroundings) := do
  if scenario.vehicles.isEmpty then throw .noVehicles
  settings.validate.mapError .settings
  let loop ← (TickLoop.start settings.ticks).mapError .ticks
  let surroundings ← (startSolver (solverSeed settings)).mapError fun failure =>
    .solver failure.error
  return {
    loop
    stop := stopRule settings
    fleet := initialFleet scenario settings.initialPace surroundings }

/-- What the run has achieved so far, after a call that ended with a summary. -/
def report (simulation : Simulation Surroundings) (summary : RunSummary) : RunReport :=
  { summary
    parcels := simulation.fleet.scene.world.parcels.length
    delivered := simulation.fleet.scene.world.deliveredCount
    dispatches := simulation.fleet.desk.newest
    repairs := simulation.fleet.repairs.repairs
    transitions := simulation.fleet.desk.switch.transitions }

/-- The members of the run and its observers, who come after them. -/
def setup (simulation : Simulation Surroundings) (worker : Worker Surroundings)
    (observers : List (Fleet.Member Surroundings)) : TickLoop.Setup (Fleet Surroundings) Refusal :=
  { listeners := Fleet.members worker simulation.fleet.couriers.length ++ observers
    pace := fun fleet => fleet.desk.switch.pace }

/-- Run until the stop rule holds or a tick fails. -/
def runObserved (worker : Worker Surroundings) (observers : List (Fleet.Member Surroundings)) :
    Attempt (Simulation Surroundings) (Failure RunError) RunReport := fun simulation =>
  let started := (Fleet.turn worker simulation.fleet).2
  let stop := fun (fleet : Fleet Surroundings) lapse => simulation.stop.isMet fleet.scene lapse
  match (simulation.setup worker observers).run stop simulation.loop started with
  | (.ok summary, loop, fleet) =>
    let reached := { simulation with loop, fleet }
    (.ok (reached.report summary), reached)
  | (.error failure, loop, fleet) =>
    (.error (failure.map .ticks), { simulation with loop, fleet })

/-- Run with nobody observing. -/
def run (worker : Worker Surroundings) :
    Attempt (Simulation Surroundings) (Failure RunError) RunReport :=
  runObserved worker []

end Simulation

end LiveFleet
