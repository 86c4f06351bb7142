/-
This file says how a run is followed by hand: from one tick to the next until a
call ends, through the members of a tick with one vehicle, and from one round of
driving to the next. It is what examples of runs are worked out with.
-/
import LiveFleet.Proofs.Run.Calls

namespace LiveFleet

open Attempt

/-! ### From tick to tick -/

namespace TickLoop

variable {Context Refusal : Type} {setup : Setup Context Refusal}
  {stop : Context → TimeLapse → Bool} {ticks realTimeTicks : Nat} {loop : TickLoop}
  {context reached : Context} {lapse : TimeLapse} {clock : TickClock}
  {failure : Failure (TickError Refusal)}

theorem runFrom_of_stop {tick start finish : Nat}
    (covered : loop.clock.lapse = .ok ⟨tick, start, finish⟩)
    (stops : stop context ⟨tick, start, finish⟩ = true) :
    setup.runFrom stop ticks realTimeTicks loop context =
      (.ok ⟨ticks, realTimeTicks, start, .condition⟩, loop, context) := by
  rw [Setup.runFrom, covered]
  exact if_pos stops

theorem runFrom_of_crash {crash : Crash} (beyond : loop.clock.lapse = .error crash) :
    setup.runFrom stop ticks realTimeTicks loop context =
      (.error (.crashed crash), loop, context) := by
  rw [Setup.runFrom, beyond]

theorem runFrom_of_failed (covered : loop.clock.lapse = .ok lapse)
    (goes : stop context lapse = false) (allowed : loop.isExhausted ticks = false)
    (failed : runTick setup.listeners lapse context = (.error failure, reached)) :
    setup.runFrom stop ticks realTimeTicks loop context = (.error failure, loop, reached) := by
  rw [Setup.runFrom, covered]
  simp only [goes, allowed, failed, Bool.false_eq_true, if_false]

theorem runFrom_of_tick (covered : loop.clock.lapse = .ok lapse) (goes : stop context lapse = false)
    (allowed : loop.isExhausted ticks = false)
    (ran : runTick setup.listeners lapse context = (.ok (), reached))
    (advanced : loop.clock.advance = .ok clock) :
    setup.runFrom stop ticks realTimeTicks loop context =
      setup.runFrom stop (ticks + 1)
        (realTimeTicks + if setup.pace context = .realTime then 1 else 0)
        { loop with clock } reached := by
  rw [Setup.runFrom, covered]
  simp only [goes, allowed, ran, Bool.false_eq_true, if_false]
  split <;> simp_all

end TickLoop

/-! ### The members of a tick -/

namespace Fleet

variable {Surroundings : Type} {worker : Worker Surroundings} {lapse : TimeLapse}

/-- A driver adopts what is on the board, and then drives. -/
theorem driveOne_of_drive {fleet : Fleet Surroundings} {index : Nat} {courier : Courier}
    {cab reached : Cab (Desk × Surroundings)} {result : Except (Failure WorldError) Unit}
    (found : fleet.couriers[index]? = some courier)
    (adopted : Cab.adopt (readBoard worker) (fleet.cab courier) = (.ok (), cab))
    (driven : Cab.drive (readBoard worker) lapse (fleet.scene.pending = 0) lapse.start cab =
      (result, reached)) :
    driveOne worker index lapse fleet =
      (result.mapError (Failure.map .world), putBack index reached fleet) := by
  unfold driveOne
  rw [get_bind_apply, found]
  dsimp only [within]
  rw [Cab.tick_apply, adopted]
  dsimp only
  rw [driven]
  cases result <;> rfl

variable {fleet announced informed driven reached : Fleet Surroundings} {failure : Failure Refusal}

/-- A tick with one vehicle in which every member succeeds. -/
theorem runTick_alone (began : announcing.before lapse fleet = (.ok (), announced))
    (told : reportNews worker lapse announced = (.ok (), informed))
    (drove : driveOne worker 0 lapse informed = (.ok (), driven))
    (closed : reportRepairs worker lapse driven = (.ok (), reached)) :
    TickLoop.runTick (members worker 1 ++ []) lapse fleet = (.ok (), reached) := by
  have notified : Listener.notify (members worker 1 ++ []) lapse fleet = (.ok (), reached) := by
    have before : (members worker 1 ++ []).forM (fun member => member.before lapse) fleet =
        (.ok (), driven) :=
      (bind_of_ok began).trans ((bind_of_ok told).trans (bind_of_ok drove))
    exact (bind_of_ok before).trans (bind_of_ok closed)
  dsimp only [TickLoop.runTick, within, id]
  rw [notified]

/-- A tick with one vehicle that ends when the driver fails. -/
theorem runTick_alone_of_failed (began : announcing.before lapse fleet = (.ok (), announced))
    (told : reportNews worker lapse announced = (.ok (), informed))
    (drove : driveOne worker 0 lapse informed = (.error failure, driven)) :
    TickLoop.runTick (members worker 1 ++ []) lapse fleet =
      (.error (failure.map (.listener lapse.tick)), driven) := by
  have notified : Listener.notify (members worker 1 ++ []) lapse fleet = (.error failure, driven) :=
    bind_of_failed ((bind_of_ok began).trans ((bind_of_ok told).trans (bind_of_failed drove)))
  dsimp only [TickLoop.runTick, within, id]
  rw [notified]

end Fleet

/-! ### Calls -/

namespace Simulation

variable {Surroundings : Type} {worker : Worker Surroundings}
  {observers : List (Fleet.Member Surroundings)} {simulation : Simulation Surroundings}
  {loop : TickLoop} {fleet : Fleet Surroundings}

theorem runObserved_of_ok {summary : RunSummary}
    (ran : (simulation.setup worker observers).runFrom
      (fun fleet lapse => simulation.stop.isMet fleet.scene lapse) 0 0 simulation.loop
      (Fleet.turn worker simulation.fleet).2 = (.ok summary, loop, fleet)) :
    runObserved worker observers simulation =
      (.ok (report { simulation with loop, fleet } summary), { simulation with loop, fleet }) := by
  unfold runObserved TickLoop.Setup.run
  dsimp only
  rw [ran]

theorem runObserved_of_failed {failure : Failure (TickError Refusal)}
    (ran : (simulation.setup worker observers).runFrom
      (fun fleet lapse => simulation.stop.isMet fleet.scene lapse) 0 0 simulation.loop
      (Fleet.turn worker simulation.fleet).2 = (.error failure, loop, fleet)) :
    runObserved worker observers simulation =
      (.error (failure.map .ticks), { simulation with loop, fleet }) := by
  unfold runObserved TickLoop.Setup.run
  dsimp only
  rw [ran]

/-! ### The smallest run -/

/-- A run with one order, all at one place, and with a solver. -/
def crewed {Surroundings : Type} (settings : Settings) (vehicles : List VehicleProfile)
    (order : TransportOrder) (positive : 0 < settings.tickLength) (surroundings : Surroundings) :
    Simulation Surroundings :=
  { loop := ⟨⟨settings.tickLength, 0, positive⟩, none⟩
    stop := stopRule settings
    fleet :=
      { initialFleet ⟨.origin, vehicles, [order]⟩ settings.initialPace surroundings with
        announcer := ⟨[order]⟩ } }

theorem build_crewed {settings : Settings} {vehicles : List VehicleProfile}
    (staffed : vehicles.isEmpty = false) (order : TransportOrder)
    (positive : 0 < settings.tickLength) (timed : settings.timeOut ≠ 0)
    {startSolver : UInt64 → Except SolverFailure Surroundings} {surroundings : Surroundings}
    (started : startSolver (solverSeed settings) = .ok surroundings) :
    build settings ⟨.origin, vehicles, [order]⟩ startSolver =
      .ok (crewed settings vehicles order positive surroundings) := by
  have valid : settings.validate = .ok () :=
    Settings.validate_eq_ok_iff.2 ⟨Nat.pos_iff_ne_zero.1 positive, timed⟩
  have looped : (TickLoop.start settings.ticks : Except (TickError Refusal) TickLoop) = _ :=
    start_ticks positive
  have sorted : Announcer.ofOrders [order] = ⟨[order]⟩ := by
    simp only [Announcer.ofOrders, List.mergeSort_singleton]
  unfold build
  rw [valid, looped, started, staffed]
  show Except.ok _ = _
  unfold initialFleet crewed
  rw [sorted]
  rfl

/-- A run of one vehicle with one order, all at one place, and with a solver. -/
def lone {Surroundings : Type} (settings : Settings) (order : TransportOrder)
    (positive : 0 < settings.tickLength) (surroundings : Surroundings) :
    Simulation Surroundings :=
  { loop := ⟨⟨settings.tickLength, 0, positive⟩, none⟩
    stop := stopRule settings
    fleet :=
      { initialFleet ⟨.origin, [.standard], [order]⟩ settings.initialPace surroundings with
        announcer := ⟨[order]⟩ } }

theorem build_lone {settings : Settings} (order : TransportOrder)
    (positive : 0 < settings.tickLength) (timed : settings.timeOut ≠ 0)
    {startSolver : UInt64 → Except SolverFailure Surroundings} {surroundings : Surroundings}
    (started : startSolver (solverSeed settings) = .ok surroundings) :
    build settings ⟨.origin, [.standard], [order]⟩ startSolver =
      .ok (lone settings order positive surroundings) :=
  build_crewed rfl order positive timed started

/-- A run of one vehicle with one order, all at one place. -/
def standing (settings : Settings) (order : TransportOrder) (positive : 0 < settings.tickLength) :
    Simulation Unit :=
  { loop := ⟨⟨settings.tickLength, 0, positive⟩, none⟩
    stop := stopRule settings
    fleet :=
      { initialFleet ⟨.origin, [.standard], [order]⟩ settings.initialPace () with
        announcer := ⟨[order]⟩ } }

theorem build_standing {settings : Settings} (order : TransportOrder)
    (positive : 0 < settings.tickLength) (timed : settings.timeOut ≠ 0) :
    build settings ⟨.origin, [.standard], [order]⟩ (fun _ => .ok ()) =
      .ok (standing settings order positive) :=
  build_lone order positive timed rfl

end Simulation

end LiveFleet
