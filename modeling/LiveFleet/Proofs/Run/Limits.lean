/-
This file proves how much room a run needs in the range of times. The settings bound
the number of ticks, and with it the start and the end of every lapse; the orders
bound how far a service goes beyond the tick in which it begins. If both bounds are
in the range, then no call crashes in counting ticks or in dividing the time into
lapses, and every service that begins ends in the range, as the log shows. What is
left is the time of a journey, which is added before it is cut off at the end of the
lapse. Nothing checks the bounds: settings and orders that exceed them are accepted,
and the run crashes.
-/
import LiveFleet.Proofs.Run.Crashes
import LiveFleet.Proofs.Run.ParcelCourse
import LiveFleet.Proofs.Run.Roster

namespace LiveFleet

open Attempt

/-! ### The clock -/

namespace TickClock

/-- A clock that has not passed its limit covers a lapse, if the limit is in the range. -/
theorem lapse_of_le {clock : TickClock} {limit : Nat} (early : clock.tick ≤ limit)
    (room : (limit + 1) * clock.tickLength < Checked.range) :
    clock.lapse = .ok
      ⟨clock.tick, clock.tick * clock.tickLength, (clock.tick + 1) * clock.tickLength⟩ := by
  refine lapse_eq_ok_iff.2 ⟨rfl, Nat.lt_of_le_of_lt ?_ room⟩
  exact Nat.mul_le_mul_right _ (Nat.succ_le_succ early)

theorem advance_of_lapse_eq_ok {clock : TickClock} {lapse : TimeLapse}
    (covered : clock.lapse = .ok lapse) :
    clock.advance = .ok { clock with tick := clock.tick + 1 } :=
  advance_eq_ok_iff.2 ⟨rfl, tick_lt_of_lapse covered⟩

end TickClock

namespace TickLoop

variable {Context Refusal : Type} {setup : Setup Context Refusal}
  {stop : Context → TimeLapse → Bool}

/-- A clock with ticks of the given length that has not passed the given tick. -/
def IsWithin (limit length : Nat) (clock : TickClock) : Prop :=
  clock.tick ≤ limit ∧ clock.tickLength = length

/-- If the stop condition is met at a limit that is in the range, then a call does not pass the
limit. What the ticks before the limit keep holds at its end, and it crashes only in one of them. -/
theorem Setup.runFrom_within {Known : Context → Prop} {limit length : Nat}
    (room : (limit + 1) * length < Checked.range)
    (stops : ∀ context lapse, limit * length ≤ lapse.start → stop context lapse = true)
    (kept : ∀ clock lapse, IsWithin limit length clock → clock.tick < limit →
      clock.lapse = .ok lapse → Maintains Known (runTick setup.listeners lapse))
    (ticks realTimeTicks : Nat) (loop : TickLoop) (context : Context)
    (within : IsWithin limit length loop.clock) (known : Known context) :
    IsWithin limit length (setup.runFrom stop ticks realTimeTicks loop context).2.1.clock ∧
      Known (setup.runFrom stop ticks realTimeTicks loop context).2.2 ∧
      ∀ crash, (setup.runFrom stop ticks realTimeTicks loop context).1 =
          .error (.crashed crash) →
        ∃ clock lapse before, IsWithin limit length clock ∧ clock.tick < limit ∧
          clock.lapse = .ok lapse ∧ Known before ∧
          runTick setup.listeners lapse before = (.error (.crashed crash),
            (setup.runFrom stop ticks realTimeTicks loop context).2.2) := by
  -- A tick that is run begins before the limit.
  have early {clock : TickClock} {lapse : TimeLapse} {context : Context}
      (within : IsWithin limit length clock) (covered : clock.lapse = .ok lapse)
      (goes : ¬ stop context lapse = true) : clock.tick < limit := by
    refine Nat.lt_of_not_le fun late => goes (stops context lapse ?_)
    obtain ⟨-, rfl⟩ := within
    rw [(TickClock.lapse_eq_ok_iff.1 covered).1]
    exact Nat.mul_le_mul_right _ late
  fun_induction setup.runFrom stop ticks realTimeTicks loop context with
  | case1 ticks realTimeTicks loop context crash uncovered =>
    obtain ⟨inTime, rfl⟩ := within
    rw [TickClock.lapse_of_le inTime room] at uncovered
    cases uncovered
  | case2 | case3 =>
    refine ⟨within, known, fun crash same => ?_⟩
    cases same
  | case4 ticks realTimeTicks loop context lapse covered goes _ failure reached ran =>
    have ends := kept _ _ within (early within covered goes) covered context known
    rw [ran] at ends
    refine ⟨within, ends, fun crash same => ?_⟩
    cases same
    exact ⟨loop.clock, lapse, context, within, early within covered goes, covered, known, ran⟩
  | case5 ticks realTimeTicks loop context lapse covered _ _ reached ran crash crashed =>
    rw [TickClock.advance_of_lapse_eq_ok covered] at crashed
    cases crashed
  | case6 ticks realTimeTicks loop context lapse covered goes _ reached ran clock advanced paced
      inductionHypothesis =>
    have ends := kept _ _ within (early within covered goes) covered context known
    rw [ran] at ends
    refine inductionHypothesis ?_ ends
    obtain ⟨rfl, -⟩ := TickClock.advance_eq_ok_iff.1 advanced
    exact ⟨early within covered goes, within.2⟩

end TickLoop

/-! ### The ends of services -/

/-- Every service that has begun, whether or not its driver knows of it, ends in the range of
times. -/
def Ledger.ServicesEndInRange (ledger : Ledger) : Prop :=
  ∀ event ∈ ledger.events, ∀ kind : StopKind, event.kind = kind.startEvent →
    ∃ known, ledger.parcel? event.parcel = some known ∧
      event.time + kind.duration known.order < Checked.range

namespace Ledger.ServicesEndInRange

variable {ledger after : Ledger} {vehicle : VehicleId} {parcel : ParcelId} {kind : StopKind}
  {time : Nat}

theorem write (inRange : ledger.ServicesEndInRange) {new : List Event}
    (written : after.events = ledger.events ++ new)
    (orders : ∀ parcel known, ledger.parcel? parcel = some known →
      ∃ later, after.parcel? parcel = some later ∧ later.order = known.order)
    (fits : ∀ event ∈ new, ∀ kind : StopKind, event.kind = kind.startEvent →
      ∃ known, ledger.parcel? event.parcel = some known ∧
        event.time + kind.duration known.order < Checked.range) :
    after.ServicesEndInRange := by
  intro event member kind starts
  rw [written, List.mem_append] at member
  obtain ⟨known, found, ends⟩ := member.elim (fun old => inRange event old kind starts)
    fun late => fits event late kind starts
  obtain ⟨later, foundLater, same⟩ := orders _ known found
  exact ⟨later, foundLater, by rwa [same]⟩

theorem reload (inRange : ledger.ServicesEndInRange) (vehicle : VehicleId)
    (change : Load → Load) : (ledger.reload vehicle change).ServicesEndInRange := inRange

theorem begun (inRange : ledger.ServicesEndInRange) {known : Parcel}
    (found : ledger.parcel? parcel = some known) (ready : known.state = kind.stateBefore vehicle)
    (fits : time + kind.duration known.order < Checked.range) :
    (ledger.begun vehicle parcel time kind).ServicesEndInRange := by
  refine inRange.write (events_begun vehicle parcel time kind)
    (advances_begun ⟨known, found, ready⟩).orders fun event isNew other starts => ?_
  obtain rfl := List.mem_singleton.1 isNew
  obtain rfl := StopKind.startEvent_injective starts
  exact ⟨known, found, fits⟩

theorem ended (inRange : ledger.ServicesEndInRange)
    (aboard : ledger.Has parcel (.inCargo vehicle)) :
    (ledger.ended vehicle parcel time kind).ServicesEndInRange := by
  refine inRange.write (events_ended vehicle parcel time kind) (advances_ended aboard).orders
    fun event isNew other starts => ?_
  obtain rfl := List.mem_singleton.1 isNew
  exact absurd starts.symm (StopKind.startEvent_ne_endEvent other kind)

theorem announced {world : World} (inRange : world.ledger.ServicesEndInRange)
    (order : TransportOrder) (time : Nat) :
    (world.announce order time).2.ledger.ServicesEndInRange := by
  refine inRange.write (congrArg Ledger.events (world.ledger_announce order time))
    (world.passesBy_announce order time ⟨0⟩).orders fun event isNew kind starts => ?_
  obtain rfl := List.mem_singleton.1 isNew
  cases kind <;> cases starts

theorem refreshed {world : World} (inRange : world.ledger.ServicesEndInRange) (time : Nat) :
    (world.refresh time).2.ledger.ServicesEndInRange := by
  have written : (world.refresh time).2.ledger.events = world.ledger.events ++ [] := by
    rw [world.ledger_refresh, List.append_nil]
    rfl
  exact inRange.write written (world.passesBy_refresh time ⟨0⟩).orders nofun

end Ledger.ServicesEndInRange

namespace Cab

variable {Board : Type} {read : ReadBoard Board} {lapse : TimeLapse} {time : Nat}
  {cab after : Cab Board}

theorem Adoption.servicesEndInRange (adoption : Adoption read cab after)
    (inRange : cab.world.ledger.ServicesEndInRange) :
    after.world.ledger.ServicesEndInRange := by
  cases adoption with
  | busy | current => exact inRange
  | accepted _ _ _ _ _ _ ledger | rejected _ _ _ ledger =>
    rw [ledger]
    exact inRange.reload _ _

/-- If there is room for every service that can begin in a round, then one that begins ends in the
range. -/
theorem Turn.servicesEndInRange {result : Except (Failure WorldError) (Option Nat)}
    (turn : Turn read lapse time cab result after)
    (fits : ∀ stop known kind moment, Opens lapse time cab stop known kind moment →
      moment + kind.duration known.order < Checked.range)
    (inRange : cab.world.ledger.ServicesEndInRange) :
    after.world.ledger.ServicesEndInRange := by
  cases turn with
  | waits | ranOut => exact inRange
  | drove _ _ same | strayed _ _ _ _ same =>
    rw [(Prod.mk.inj same).1]
    exact inRange
  | ended _ _ aboard ledger _ adoption =>
    refine adoption.servicesEndInRange ?_
    rw [ledger]
    exact (inRange.ended aboard).reload _ _
  | skipped _ _ _ _ _ _ ledger =>
    rw [ledger]
    exact inRange.reload _ _
  | began opens ledger | lost opens ledger =>
    rw [ledger]
    exact inRange.begun opens.listed opens.ready (fits _ _ _ _ opens)

end Cab

/-! ### Rounds with room -/

/-- The settings leave room for the ticks of a run, and for the services that begin in its last
tick. -/
structure Settings.LeavesRoom (settings : Settings) (orders : List TransportOrder) : Prop where
  ticks : (settings.timeOut / settings.tickLength + 2) * settings.tickLength < Checked.range
  services : ∀ order ∈ orders, ∀ kind : StopKind,
    (settings.timeOut / settings.tickLength + 1) * settings.tickLength + kind.duration order <
      Checked.range

/-- The tick before which a run stops at the latest. -/
def Simulation.lastTick (settings : Settings) : Nat := settings.timeOut / settings.tickLength + 1

namespace Fleet

open Simulation (lastTick)

variable {Surroundings : Type} {worker : Worker Surroundings} {lapse : TimeLapse}
  {first fleet reached : Fleet Surroundings} {settings : Settings} {scenario : Scenario}

/-- A moment on the path of a run that plays out a scenario, at which the drivers are ready and
every service that has begun ends in the range of times. -/
structure RunsInRange (worker : Worker Surroundings) (first : Fleet Surroundings)
    (scenario : Scenario) (fleet : Fleet Surroundings) : Prop where
  path : Path worker first fleet
  manned : fleet.IsManned
  plays : PlaysOut scenario fleet.scene fleet.announcer.queue
  services : fleet.scene.world.ledger.ServicesEndInRange

namespace RunsInRange

/-- At the start nothing has begun. -/
theorem initial (scenario : Scenario) (pace : Pace) (surroundings : Surroundings) :
    RunsInRange worker (Simulation.initialFleet scenario pace surroundings) scenario
      (Simulation.initialFleet scenario pace surroundings) where
  path := .refl
  manned := isManned_initial _ _ _
  plays := .initial _ _ _
  services := by
    have written : (Simulation.initialFleet scenario pace surroundings).scene.world.ledger.events =
        [] := congrArg World.events (Simulation.initialWorld_eq scenario)
    exact fun event member => absurd (written ▸ member) List.not_mem_nil

variable (runs : RunsInRange worker first scenario fleet)

include runs

/-- There is room for every service that can begin in a round. -/
theorem fits (room : settings.LeavesRoom scenario.orders)
    (early : lapse.finish ≤ lastTick settings * settings.tickLength) {time moment : Nat}
    {stop : ParcelId} {known : Parcel} {kind : StopKind} {courier : Courier}
    (opens : Cab.Opens lapse time (fleet.cab courier) stop known kind moment) :
    moment + kind.duration known.order < Checked.range := by
  -- The order is one of the scenario.
  have listed : known.order ∈ fleet.scene.world.parcels.map Parcel.order :=
    List.mem_map_of_mem (List.mem_of_getElem? opens.listed)
  have ordered := runs.plays.orders.mem_iff.1 (List.mem_append_left _ listed)
  have fits := room.services known.order ordered kind
  have inTime := Nat.le_trans opens.inTime early
  unfold lastTick at inTime
  omega

variable {index : Nat}

section

variable {courier : Courier} (found : fleet.couriers[index]? = some courier)

include found

theorem adopt :
    RunsInRange worker first scenario
      (putBack index (Cab.adopt (readBoard worker) (fleet.cab courier)).2 fleet) where
  path := runs.path.tail (.inl (.adopted found))
  manned := Takes.isManned (.inl (.adopted found)) runs.manned
  plays := runs.plays.of_roster
    (Cab.adopt_within (World.survives_roster _ _) _ (fleet.cab courier) ⟨rfl, rfl⟩).2
  services := (runs.manned.adoption found worker).servicesEndInRange runs.services

theorem round (room : settings.LeavesRoom scenario.orders)
    (early : lapse.finish ≤ lastTick settings * settings.tickLength) (mayReturn : Bool)
    (time : Nat) :
    RunsInRange worker first scenario
      (fleet.round worker index courier lapse mayReturn time).2 where
  path := runs.path.tail (takes_round found lapse mayReturn time)
  manned := isManned_round runs.manned found lapse mayReturn time
  plays := runs.plays.of_roster
    (Cab.round_within (World.survives_roster _ _) _ lapse mayReturn time (fleet.cab courier)
      ⟨rfl, rfl⟩).2
  services := (Cab.round_turn (runs.manned.isReady found) _ lapse mayReturn time).servicesEndInRange
    (fun _ _ _ _ opens => runs.fits room early opens) runs.services

/-- A round that crashes in a tick for which there is room has strayed from its way. -/
theorem strays_of_round (room : settings.LeavesRoom scenario.orders)
    (early : lapse.finish ≤ lastTick settings * settings.tickLength) {mayReturn : Bool}
    {time : Nat} {crash : Crash}
    (crashed : (fleet.round worker index courier lapse mayReturn time).1 =
      .error (.crashed crash)) :
    crash = .addOverflow ∧ courier.service = none ∧ ∃ carrier target,
      fleet.scene.world.vehicle? courier.vehicle = some carrier ∧
        (fleet.cab courier).SetsOutFor carrier target ∧
        carrier.Strays target time lapse.finish := by
  have turn := Cab.round_turn (runs.manned.isReady found) (readBoard worker) lapse mayReturn time
  generalize (Cab.round (readBoard worker) lapse mayReturn time (fleet.cab courier)).2 = after
    at turn
  have crashed : (Cab.round (readBoard worker) lapse mayReturn time (fleet.cab courier)).1 = _ :=
    crashed
  rw [crashed] at turn
  cases turn with
  | lost opens _ beyond => exact absurd (runs.fits room early opens) (Nat.not_lt.2 beyond)
  | strayed idle present bound strays => exact ⟨rfl, idle, _, _, present, bound, strays⟩

end

/-- Wherever a driver comes in a tick for which there is room, the run is in the range. -/
theorem drivesTo (room : settings.LeavesRoom scenario.orders)
    (early : lapse.finish ≤ lastTick settings * settings.tickLength) {time : Nat}
    {last : Cab (Desk × Surroundings)} (drives : fleet.DrivesTo worker index lapse time last) :
    RunsInRange worker first scenario (putBack index last fleet) := by
  obtain ⟨courier, cab, found, looked, drives⟩ := drives
  have adopted := runs.adopt found
  rw [looked] at adopted
  have along : ∀ {reached : Nat × Cab (Desk × Surroundings)},
      Cab.DrivesTo (readBoard worker) lapse (fleet.scene.pending = 0) (lapse.start, cab) reached →
        RunsInRange worker first scenario (putBack index reached.2 fleet) := by
    intro reached drives
    induction drives with
    | refl => exact adopted
    | @tail between next _ gone inductionHypothesis =>
      have rounds := inductionHypothesis.round (couriers_putBack found between.2) room early
        (fleet.scene.pending = 0) between.1
      rw [round_putBack, gone] at rounds
      exact rounds
  exact along drives

end RunsInRange

/-- A tick for which there is room, by the number of its clock. -/
theorem finish_le_of_early {clock : TickClock}
    (within : TickLoop.IsWithin (lastTick settings) settings.tickLength clock)
    (early : clock.tick < lastTick settings) (covered : clock.lapse = .ok lapse) :
    lapse.finish ≤ lastTick settings * settings.tickLength := by
  obtain ⟨-, length⟩ := within
  obtain ⟨rfl, -⟩ := TickClock.lapse_eq_ok_iff.1 covered
  rw [← length]
  exact Nat.mul_le_mul_right _ early

/-- Whoever takes part in a tick before the last one leaves the run in the range. -/
theorem runsInRange_upkeep (room : settings.LeavesRoom scenario.orders)
    (worker : Worker Surroundings) (first : Fleet Surroundings) :
    Upkeep worker fun clock fleet =>
      TickLoop.IsWithin (lastTick settings) settings.tickLength clock →
        clock.tick < lastTick settings → RunsInRange worker first scenario fleet := by
  have others := ((path_upkeep worker first).and (manned_upkeep worker)).and
    (plays_upkeep worker scenario)
  refine ⟨?_, ?_, ?_, ?_, ?_⟩
  · intro clock fleet known within early
    have runs := known within early
    obtain ⟨⟨path, manned⟩, plays⟩ :=
      others.turn clock fleet ⟨⟨runs.path, runs.manned⟩, runs.plays⟩
    exact ⟨path, manned, plays, runs.services⟩
  · intro clock lapse covered fleet known within early
    have runs := known within early
    obtain ⟨⟨path, manned⟩, plays⟩ :=
      others.announcing clock lapse covered fleet ⟨⟨runs.path, runs.manned⟩, runs.plays⟩
    have services : Maintains (fun fleet : Fleet Surroundings =>
        fleet.scene.world.ledger.ServicesEndInRange) (announcing.before lapse) :=
      maintains_announcing (fun _ _ _ inRange => inRange)
        (fun _ order _ inRange => inRange.announced order _) fun _ inRange => inRange.refreshed _
    exact ⟨path, manned, plays, services fleet runs.services⟩
  · intro clock fleet time known within early
    have runs := known within early
    obtain ⟨⟨path, manned⟩, plays⟩ :=
      others.handing clock fleet time ⟨⟨runs.path, runs.manned⟩, runs.plays⟩
    exact ⟨path, manned, plays, runs.services⟩
  · intro clock lapse index covered fleet known within early
    have finish := finish_le_of_early within early covered
    exact maintains_driveOne
      (fun _ _ mayReturn time found _ runs => runs.round found room finish mayReturn time)
      (fun _ _ found runs => runs.adopt found) fleet (known within early)
  · intro clock next fleet advanced known within early
    obtain ⟨rfl, -⟩ := TickClock.advance_eq_ok_iff.1 advanced
    have before : clock.tick < lastTick settings := Nat.lt_of_succ_lt early
    exact known ⟨Nat.le_of_lt before, within.2⟩ before

/-- A crash in a tick for which there is room is the crash of a round of a driver, with which the
tick ends. -/
theorem runTick_crashed (room : settings.LeavesRoom scenario.orders) {vehicles : Nat}
    {clock : TickClock} {crash : Crash}
    (within : TickLoop.IsWithin (lastTick settings) settings.tickLength clock)
    (early : clock.tick < lastTick settings) (covered : clock.lapse = .ok lapse)
    (runs : RunsInRange worker first scenario fleet)
    (crashed : TickLoop.runTick (members worker vehicles ++ []) lapse fleet =
      (.error (.crashed crash), reached)) :
    ∃ middle index courier mayReturn moment, RunsInRange worker first scenario middle ∧
      middle.couriers[index]? = some courier ∧ lapse.start ≤ moment ∧
        middle.round worker index courier lapse mayReturn moment =
          (.error (.crashed crash), reached) := by
  have upkeep := runsInRange_upkeep room worker first
  have finish := finish_le_of_early within early covered
  obtain ⟨member, isMember, blame, last, told, runsLast, blamed⟩ :=
    TickLoop.runTick_failed (upkeep.before covered) (upkeep.after clock) (fun _ _ => runs) crashed
  have blame : blame = .crashed crash := by
    cases blame with
    | crashed other =>
      cases told
      rfl
    | refused reason => cases told
  subst blame
  simp only [members, List.append_nil, List.mem_cons, List.mem_map] at isMember
  rcases isMember with rfl | rfl | ⟨index, -, rfl⟩
  · rcases blamed with began | ended
    · cases began
    · cases ended
  · -- The liaison fails with an error of the solver, and never crashes.
    rcases blamed with began | ended
    · obtain ⟨error, refused⟩ := reportNews_failed began
      cases refused
    · obtain ⟨error, refused⟩ := reportRepairs_failed ended
      cases refused
  · rcases blamed with began | ended
    · have runsLast := runsLast within early
      obtain ⟨time, before, reason, after, same, drives, fails, rfl⟩ :=
        driveOne_failed runsLast.manned began
      obtain rfl : reason = .crashed crash := by
        cases reason <;> cases same
        rfl
      refine ⟨putBack index before last, index, before.courier, last.scene.pending = 0, time,
        runsLast.drivesTo room finish drives, drives.seated, drives.later, ?_⟩
      rw [round_putBack, fails]
    · cases ended

end Fleet

/-! ### Runs -/

namespace Simulation

open TickLoop Fleet

variable {Surroundings : Type} {settings : Settings} {scenario : Scenario}
  {startSolver : UInt64 → Except SolverFailure Surroundings} {simulation : Simulation Surroundings}

/-- At a moment of the run, in a tick that the settings allow, a driver without a service sets out
for its next stop, or for the depot if it has none, and its round crashes because the time of this
journey leaves the range. That is the end of the call. -/
def HasStrayed (settings : Settings) (worker : Worker Surroundings)
    (simulation : Simulation Surroundings) (last : Fleet Surroundings) : Prop :=
  ∃ (moment : Fleet Surroundings) (index : Nat) (courier : Courier) (carrier : Vehicle)
      (target : Point) (lapse : TimeLapse) (mayReturn : Bool) (time : Nat),
    Path worker simulation.fleet moment ∧ moment.couriers[index]? = some courier ∧
      courier.service = none ∧
      moment.scene.world.vehicle? courier.vehicle = some carrier ∧
      lapse.tick ≤ settings.timeOut / settings.tickLength ∧
      lapse.start = lapse.tick * settings.tickLength ∧
      lapse.finish = (lapse.tick + 1) * settings.tickLength ∧ lapse.start ≤ time ∧
      (moment.cab courier).SetsOutFor carrier target ∧
      carrier.Strays target time lapse.finish ∧
      moment.round worker index courier lapse mayReturn time =
        (.error (.crashed .addOverflow), last)

theorem stopRule_isMet_of_le {scene : Scene} {lapse : TimeLapse}
    (positive : 0 < settings.tickLength)
    (late : lastTick settings * settings.tickLength ≤ lapse.start) :
    (stopRule settings).isMet scene lapse = true := by
  have beyond : settings.timeOut < lastTick settings * settings.tickLength :=
    Nat.lt_mul_of_div_lt (Nat.lt_succ_self _) positive
  have stopped : settings.timeOut < lapse.start := Nat.lt_of_lt_of_le beyond late
  simp [stopRule, StopRule.isMet, StopRule.isAnyMet, stopped]

variable {worker : Worker Surroundings} {first : Fleet Surroundings}

/-- A run that has not passed its last tick, and has stayed in the range until now. -/
structure IsInRange (settings : Settings) (scenario : Scenario) (worker : Worker Surroundings)
    (first : Fleet Surroundings) (simulation : Simulation Surroundings) : Prop where
  within : IsWithin (lastTick settings) settings.tickLength simulation.loop.clock
  rule : simulation.stop = stopRule settings
  runs : RunsInRange worker first scenario simulation.fleet

/-- A call of a run in the range leaves it in the range, and crashes only in a tick before the last
one. -/
theorem IsInRange.run (room : settings.LeavesRoom scenario.orders)
    (positive : 0 < settings.tickLength) {simulation : Simulation Surroundings}
    (inRange : IsInRange settings scenario worker first simulation) :
    IsInRange settings scenario worker first (run worker simulation).2 ∧
      ∀ crash, (Simulation.run worker simulation).1 = .error (.crashed crash) →
        ∃ clock lapse before vehicles,
          IsWithin (lastTick settings) settings.tickLength clock ∧
          clock.tick < lastTick settings ∧ clock.lapse = .ok lapse ∧
          RunsInRange worker first scenario before ∧
          runTick (members worker vehicles ++ []) lapse before =
            (.error (.crashed crash), (Simulation.run worker simulation).2.fleet) := by
  obtain ⟨within, rule, runs⟩ := inRange
  have upkeep := runsInRange_upkeep room worker first
  have stops : ∀ (fleet : Fleet Surroundings) lapse,
      lastTick settings * settings.tickLength ≤ lapse.start →
        simulation.stop.isMet fleet.scene lapse = true := by
    intro fleet lapse late
    rw [rule]
    exact stopRule_isMet_of_le positive late
  have kept : ∀ clock lapse, IsWithin (lastTick settings) settings.tickLength clock →
      clock.tick < lastTick settings → clock.lapse = .ok lapse →
        Maintains (RunsInRange worker first scenario)
          (runTick (simulation.setup worker []).listeners lapse) :=
    fun clock lapse within early covered context runs =>
      maintains_runTick (upkeep.before covered) (upkeep.after clock) context (fun _ _ => runs)
        within early
  have turned : RunsInRange worker first scenario (turn worker simulation.fleet).2 :=
    ⟨(path_upkeep worker first).turn simulation.loop.clock _ runs.path, runs.manned, runs.plays,
      runs.services⟩
  obtain ⟨withinThen, runsThen, crashes⟩ :=
    Setup.runFrom_within room.ticks stops kept 0 0 simulation.loop _ within turned
  unfold Simulation.run runObserved Setup.run
  dsimp only
  generalize (simulation.setup worker []).runFrom _ 0 0 simulation.loop
    (turn worker simulation.fleet).2 = outcome at withinThen runsThen crashes
  obtain ⟨result, loop, fleet⟩ := outcome
  cases result with
  | ok summary => exact ⟨⟨withinThen, rule, runsThen⟩, nofun⟩
  | error failure =>
    refine ⟨⟨withinThen, rule, runsThen⟩, fun crash same => ?_⟩
    cases failure with
    | refused _ => cases same
    | crashed other =>
      cases same
      obtain ⟨clock, lapse, before, withinBefore, early, covered, runsBefore, ran⟩ := crashes _ rfl
      exact ⟨clock, lapse, before, _, withinBefore, early, covered, runsBefore, ran⟩

/-- However the calls before have ended, the run is in the range. -/
theorem isInRange_after (built : build settings scenario startSolver = .ok simulation)
    (room : settings.LeavesRoom scenario.orders) (worker : Worker Surroundings) (calls : Nat) :
    IsInRange settings scenario worker simulation.fleet (simulation.after worker [] calls) := by
  obtain ⟨-, surroundings, positive, -, rfl⟩ := build_eq_ok built
  induction calls with
  | zero => exact ⟨⟨Nat.zero_le _, rfl⟩, rfl, .initial _ _ _⟩
  | succ calls inductionHypothesis => exact (inductionHypothesis.run room positive).1

/-- If the settings leave room, no call crashes in counting ticks, in dividing the time into lapses
or in timing a service: the clock always has a lapse in the range, every service that has begun
when a call is over ends in the range, and a call that crashes ends with the round of a driver whose
journey to its next stop or to the depot leaves the range of times. -/
theorem journeys_alone_overflow (built : build settings scenario startSolver = .ok simulation)
    (room : settings.LeavesRoom scenario.orders) (worker : Worker Surroundings) (calls : Nat) :
    ((simulation.after worker [] calls).loop.clock.tick + 1) *
        (simulation.after worker [] calls).loop.clock.tickLength < Checked.range ∧
      (simulation.after worker [] (calls + 1)).fleet.scene.world.ledger.ServicesEndInRange ∧
      ((∀ crash, (run worker (simulation.after worker [] calls)).1 ≠ .error (.crashed crash)) ∨
        (run worker (simulation.after worker [] calls)).1 = .error (.crashed .addOverflow) ∧
          simulation.HasStrayed settings worker
            (simulation.after worker [] (calls + 1)).fleet) := by
  obtain ⟨-, -, positive, -⟩ := build_eq_ok built
  have now := isInRange_after built room worker calls
  obtain ⟨later, crashes⟩ := now.run room positive
  have inRange : ((simulation.after worker [] calls).loop.clock.tick + 1) *
      (simulation.after worker [] calls).loop.clock.tickLength < Checked.range := by
    rw [now.within.2]
    exact Nat.lt_of_le_of_lt (Nat.mul_le_mul_right _ (Nat.succ_le_succ now.within.1)) room.ticks
  refine ⟨inRange, later.runs.services, ?_⟩
  cases ended : (run worker (simulation.after worker [] calls)).1 with
  | ok _ => exact .inl nofun
  | error failure =>
    cases failure with
    | refused _ => exact .inl nofun
    | crashed crash =>
      obtain ⟨clock, lapse, before, vehicles, within, early, covered, runsBefore, ran⟩ :=
        crashes crash ended
      obtain ⟨moment, index, courier, mayReturn, time, runs, found, since, fails⟩ :=
        runTick_crashed room within early covered runsBefore ran
      obtain ⟨rfl, idle, carrier, target, present, bound, strays⟩ :=
        runs.strays_of_round found room (finish_le_of_early within early covered)
          (congrArg Prod.fst fails)
      obtain ⟨rfl, -⟩ := TickClock.lapse_eq_ok_iff.1 covered
      refine .inr ⟨rfl, moment, index, courier, carrier, target, _, mayReturn, time, runs.path,
        found, idle, present, Nat.le_of_lt_succ early, ?_, ?_, since, bound, strays, fails⟩
      · rw [within.2]
      · rw [within.2]

/-- In the run of a parcel that is loaded and unloaded in no time, no call crashes but for a
journey. -/
theorem journeys_alone_overflow_errand :
    build oneTick ⟨.origin, [.standard], [(OrderDraft.between .origin .origin).order]⟩
        (fun _ => .ok ()) = .ok errand ∧
      oneTick.LeavesRoom [(OrderDraft.between .origin .origin).order] ∧
      (((errand.after eager [] 1).loop.clock.tick + 1) *
          (errand.after eager [] 1).loop.clock.tickLength < Checked.range ∧
        (errand.after eager [] 2).fleet.scene.world.ledger.ServicesEndInRange ∧
        ((∀ crash, (run eager (errand.after eager [] 1)).1 ≠ .error (.crashed crash)) ∨
          (run eager (errand.after eager [] 1)).1 = .error (.crashed .addOverflow) ∧
            errand.HasStrayed oneTick eager (errand.after eager [] 2).fleet)) := by
  have built : build oneTick _ _ = .ok errand := build_standing _ (by decide) (by decide)
  have room : oneTick.LeavesRoom [(OrderDraft.between .origin .origin).order] := by
    refine ⟨by decide, fun order member kind => ?_⟩
    obtain rfl := List.mem_singleton.1 member
    cases kind <;> decide
  exact ⟨built, room, journeys_alone_overflow built room eager 1⟩

/-! ### Runs without room -/

/-- One tick that takes half of the range of times. -/
def halfRange : Settings :=
  { tickLength := 9223372036854775808, initialPace := .simulated, seed := 0, timeOut := 1 }

/-- A run of a parcel that becomes known after that tick. -/
def remote : Simulation Unit :=
  standing halfRange
    { (OrderDraft.between .origin .origin).order with
      announceTime := 9223372036854775808 } (by decide)

/-- The lapse of that tick. -/
def firstHalf : TimeLapse := ⟨0, 0, 9223372036854775808⟩

/-- In that tick nothing happens, and after it there is no lapse left in the range. -/
theorem run_remote : (run eager remote).1 = .error (.crashed .addOverflow) := by
  have rests : Cab.drive (readBoard eager) firstHalf false 0 (remote.fleet.cab (.start ⟨0⟩)) =
      (.ok (), remote.fleet.cab (.start ⟨0⟩)) := Cab.drive_of_over rfl
  have drove : driveOne eager 0 firstHalf remote.fleet = (.ok (), remote.fleet) :=
    (driveOne_of_drive rfl rfl rests).trans rfl
  have ticked : runTick (members eager 1 ++ []) firstHalf remote.fleet = (.ok (), remote.fleet) :=
    runTick_alone rfl rfl drove rfl
  have ran : (remote.setup eager []).runFrom
      (fun fleet lapse => remote.stop.isMet fleet.scene lapse) 0 0 remote.loop remote.fleet =
        (.error (.crashed .addOverflow), ⟨⟨9223372036854775808, 1, by decide⟩, none⟩,
          remote.fleet) :=
    (runFrom_of_tick rfl rfl rfl ticked rfl).trans (runFrom_of_crash rfl)
  exact congrArg Prod.fst (runObserved_of_failed ran)

/-- The settings are valid, the orders are accepted and the vehicle is finite, and yet the run
crashes: in one run the end of a delivery leaves the range of times, and in the other one the end of
the lapse after the last tick. -/
theorem accepted_inputs_overflow :
    VehicleProfile.standard.speed.isFinite = true ∧
      VehicleProfile.standard.start.x.isFinite = true ∧
      VehicleProfile.standard.start.y.isFinite = true ∧
    (oneTick.validate = .ok () ∧
      ((OrderDraft.between .origin .origin).applyAll
          [.pickupDuration 1, .deliveryDuration Checked.largest]).accept =
        .ok { (OrderDraft.between .origin .origin).order with
          pickupDuration := 1
          deliveryDuration := Checked.largest } ∧
      build oneTick
          ⟨.origin, [.standard], [{ (OrderDraft.between .origin .origin).order with
            pickupDuration := 1
            deliveryDuration := Checked.largest }]⟩ (fun _ => .ok ()) = .ok overlong ∧
      (run eager overlong).1 = .error (.crashed .addOverflow)) ∧
    (halfRange.validate = .ok () ∧
      ((OrderDraft.between .origin .origin).applyAll [.announceTime 9223372036854775808]).accept =
        .ok { (OrderDraft.between .origin .origin).order with
          announceTime := 9223372036854775808 } ∧
      build halfRange
          ⟨.origin, [.standard], [{ (OrderDraft.between .origin .origin).order with
            announceTime := 9223372036854775808 }]⟩ (fun _ => .ok ()) = .ok remote ∧
      (run eager remote).1 = .error (.crashed .addOverflow)) := by
  refine ⟨by decide, by decide, by decide, ⟨rfl, rfl, ?_, ?_⟩, ⟨rfl, rfl, ?_, run_remote⟩⟩
  · exact build_standing _ (by decide) (by decide)
  · rw [run_overlong]
  · exact build_standing _ (by decide) (by decide)

end Simulation

end LiveFleet
