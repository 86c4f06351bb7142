/-
This file proves that vehicles keep time. In every tick of the first call that does
not crash, a vehicle writes its events in order and within the lapse, and a service
takes as long as the order says. A service that is left open at the end of a tick
holds the vehicle where it is: step by step, neither the driver nor the vehicle
changes between the start of the service and its end.
-/
import LiveFleet.Proofs.Run.ParcelCourse
import LiveFleet.Proofs.Run.Timekeeping
import Mathlib.Data.List.Nodup

namespace LiveFleet

open Attempt

/-! ### A service under way -/

/-- What has happened to a parcel stays in the log. -/
theorem World.Notes.mem_historyOf {world after : World} (notes : world.Notes after)
    {parcel : ParcelId} {entry : EventKind × Option VehicleId}
    (member : entry ∈ world.historyOf parcel) : entry ∈ after.historyOf parcel := by
  rcases notes with same | ⟨event, written, -⟩
  · unfold historyOf
    rw [same]
    exact member
  · rw [historyOf_append written]
    exact List.mem_append_left _ member

namespace Cab

variable {Board : Type} {read : ReadBoard Board} {lapse : TimeLapse} {time : Nat}
  {cab after : Cab Board}

/-- Only a driver that does not look at the board has a service under way after the look. -/
theorem Adoption.of_serving (adoption : Adoption read cab after) {service : Service}
    (underWay : after.courier.service = some service) : after = cab := by
  cases adoption with
  | busy => rfl
  | current idle => cases idle.symm.trans underWay
  | accepted idle _ _ _ _ _ _ courier | rejected idle _ _ _ courier =>
    rw [courier] at underWay
    cases idle.symm.trans underWay

/-- A service that is under way after a round has begun in it, or the round has changed nothing. -/
theorem Turn.of_serving {result : Except (Failure WorldError) (Option Nat)}
    (turn : Turn read lapse time cab result after) {service : Service}
    (underWay : after.courier.service = some service) :
    after = cab ∨ cab.courier.service = none ∧
      cab.world.ledger.Has service.parcel (service.kind.stateBefore cab.courier.vehicle) := by
  cases turn with
  | waits | ranOut => exact .inl rfl
  | ended _ _ _ _ courier adoption =>
    obtain rfl := adoption.of_serving underWay
    rw [courier] at underWay
    cases underWay
  | drove idle _ same | strayed idle _ _ _ same =>
    have courier : after.courier = cab.courier := congrArg (fun books => books.2.1) same
    rw [courier] at underWay
    cases idle.symm.trans underWay
  | skipped idle _ _ _ _ _ _ courier =>
    rw [courier] at underWay
    cases idle.symm.trans underWay
  | lost opens _ _ courier =>
    rw [courier] at underWay
    cases opens.idle.symm.trans underWay
  | began opens _ _ courier =>
    rw [courier] at underWay
    cases underWay
    exact .inr ⟨opens.idle, _, opens.listed, opens.ready⟩

end Cab

namespace Fleet

variable {Surroundings : Type} {worker : Worker Surroundings} {index : Nat}
  {fleet after : Fleet Surroundings}

/-- A driver without a service whose vehicle may begin one has not begun it before. -/
theorem unbegun_of_ready {world : World} {couriers : List Courier}
    (orderly : Orderly world couriers) {courier : Courier}
    (found : couriers[index]? = some courier) (idle : courier.service = none)
    {stop : ParcelId} {kind : StopKind}
    (ready : world.ledger.Has stop (kind.stateBefore courier.vehicle)) :
    (kind.startEvent, some courier.vehicle) ∉ world.historyOf stop := by
  have stage := orderly.staged stop
  have unserved := orderly.not_serves found idle stop
  have state : world.stateOf stop = some (kind.stateBefore courier.vehicle) := by
    obtain ⟨known, listed, same⟩ := ready
    exact (congrArg (Option.map Parcel.state) listed).trans (congrArg some same)
  rw [state] at stage
  generalize world.historyOf stop = history at stage
  cases kind with
  | pickup =>
    cases stage with
    | unclaimed => exact nofun
  | delivery =>
    cases stage with
    | unclaimed unassigned => cases unassigned
    | loading served => exact absurd ((served _ _).2 ⟨rfl, rfl⟩) (unserved .pickup)
    | aboard => simp [StopKind.startEvent]
    | unloading served => exact absurd ((served _ _).2 ⟨rfl, rfl⟩) (unserved .delivery)

/-- If a service that has begun is under way after a step, then neither the driver nor its vehicle
has changed in the step. -/
theorem Stride.unmoved (stride : Stride worker [] fleet after) (manned : fleet.IsManned)
    (orderly : fleet.IsOrderly) {courier : Courier} {service : Service}
    (there : after.couriers[index]? = some courier) (underWay : courier.service = some service)
    (begun : (service.kind.startEvent, some ⟨index⟩) ∈
      fleet.scene.world.historyOf service.parcel) :
    fleet.couriers[index]? = some courier ∧
      fleet.scene.world.vehicle? ⟨index⟩ = after.scene.world.vehicle? ⟨index⟩ := by
  have takes : Takes worker fleet after := .inl stride
  cases takes.move manned index with
  | spared same vehicle => exact ⟨same ▸ there, vehicle.symm⟩
  | @adopted driver cab found adoption returned =>
    subst returned
    obtain rfl := Option.some.inj ((couriers_putBack found cab).symm.trans there)
    obtain rfl := adoption.of_serving underWay
    exact ⟨found, rfl⟩
  | @drove driver cab lapse time result found turn returned =>
    subst returned
    obtain rfl := Option.some.inj ((couriers_putBack found cab).symm.trans there)
    rcases turn.of_serving underWay with rfl | ⟨idle, ready⟩
    · exact ⟨found, rfl⟩
    · have named : driver.vehicle = ⟨index⟩ := manned.crewed.named index driver found
      rw [← named] at begun
      exact absurd begun (unbegun_of_ready orderly found idle ready)

/-- As long as a service is under way, neither the driver nor its vehicle changes. -/
theorem Trail.unmoved (trail : Trail worker [] fleet after) (manned : fleet.IsManned)
    (orderly : fleet.IsOrderly) {courier : Courier} {service : Service}
    (there : after.couriers[index]? = some courier) (underWay : courier.service = some service)
    (begun : (service.kind.startEvent, some ⟨index⟩) ∈
      fleet.scene.world.historyOf service.parcel) :
    fleet.couriers[index]? = some courier ∧
      fleet.scene.world.vehicle? ⟨index⟩ = after.scene.world.vehicle? ⟨index⟩ := by
  -- Each step is compared with the one after it, from the last one back to the first.
  induction trail using Relation.ReflTransGen.head_induction_on with
  | refl => exact ⟨there, rfl⟩
  | @head fleet middle stride _ inductionHypothesis =>
    have takes : Takes worker fleet middle := .inl stride
    obtain ⟨notes, orderlyThen⟩ := stride.orderly orderly
    obtain ⟨driver, vehicle⟩ := inductionHypothesis (takes.isManned manned) orderlyThen
      (notes.mem_historyOf begun)
    obtain ⟨driverBefore, vehicleBefore⟩ := stride.unmoved manned orderly driver underWay begun
    exact ⟨driverBefore, vehicleBefore.trans vehicle⟩

end Fleet

/-! ### The ticks of a call -/

/-- What holds before a tick that ends well holds before the next one. -/
theorem TickLoop.Setup.runTicks_of_ok {Context Refusal : Type} {setup : Setup Context Refusal}
    {Holds : TickClock → Context → Prop}
    (goes : ∀ clock lapse next context reached, clock.lapse = .ok lapse →
      clock.advance = .ok next → Holds clock context →
        runTick setup.listeners lapse context = (.ok (), reached) → Holds next reached)
    (count : Nat) (loop : TickLoop) (context : Context) (holds : Holds loop.clock context)
    {final : TickLoop} {reached : Context}
    (went : setup.runTicks count loop context = (.ok (), final, reached)) :
    Holds final.clock reached := by
  fun_induction setup.runTicks count loop context with
  | case1 =>
    cases went
    exact holds
  | case2 | case3 | case4 => cases went
  | case5 count loop context lapse covered middle ran clock advanced inductionHypothesis =>
    exact inductionHypothesis (goes _ _ _ _ _ covered advanced holds ran) went

namespace World

/-- On its course a parcel has no two events of the same kind. -/
theorem KeepsCourse.event_unique {world : World} {parcel : ParcelId}
    (keeps : world.KeepsCourse parcel) {event other : Event} (member : event ∈ world.events)
    (about : event.parcel = parcel) (otherMember : other ∈ world.events)
    (otherAbout : other.parcel = parcel) (same : event.kind = other.kind) : event = other := by
  obtain ⟨vehicle, onCourse, -⟩ := keeps
  have kinds : ((world.events.filter fun event => event.parcel = parcel).map Event.kind).Nodup := by
    have whole : ((course vehicle).map Prod.fst).Nodup := by
      show [EventKind.newParcel, .startPickup, .endPickup, .startDelivery, .endDelivery].Nodup
      decide
    have part := (onCourse.map Prod.fst).sublist.nodup whole
    rwa [historyOf, List.map_map] at part
  exact List.inj_on_of_nodup_map kinds
    (List.mem_filter.2 ⟨member, decide_eq_true about⟩)
    (List.mem_filter.2 ⟨otherMember, decide_eq_true otherAbout⟩) same

/-- Every service of the vehicle that has ended had begun, and has taken as long as the order
says. -/
def TakesItsTime (world : World) (vehicle : VehicleId) : Prop :=
  ∀ event ∈ eventsBy vehicle world.events, ∀ kind : StopKind, event.kind = kind.endEvent →
    ∃ known, world.parcel? event.parcel = some known ∧
      (∃ begun ∈ eventsBy vehicle world.events,
        begun.kind = kind.startEvent ∧ begun.parcel = event.parcel) ∧
      ∀ begun ∈ world.events, begun.kind = kind.startEvent → begun.parcel = event.parcel →
        event.time = begun.time + kind.duration known.order

theorem takesItsTime_of_timely {world : World} {vehicle : VehicleId} {first : List Event}
    {start time : Nat} (timely : world.ledger.IsTimely vehicle first start time)
    (keeps : ∀ parcel, world.KeepsCourse parcel) : world.TakesItsTime vehicle := by
  intro event member kind ends
  obtain ⟨moment, known, begun, found, inTime⟩ := timely.lasted event member kind ends
  refine ⟨known, found, ⟨_, mem_eventsBy.2 ⟨begun, rfl⟩, rfl, rfl⟩, ?_⟩
  intro other isMember isStart about
  rw [inTime, (keeps event.parcel).event_unique isMember about begun rfl isStart]

end World

/-! ### Runs -/

namespace Fleet

variable {Surroundings : Type} {index : Nat} {fleet : Fleet Surroundings}

/-- At the end of a lapse a vehicle is serving the first stop of its route. It has the parcel
aboard, the service goes on beyond the lapse, and at all moments since it has begun the vehicle and
its driver have been as they are. -/
structure IsServing (worker : Worker Surroundings) (first fleet : Fleet Surroundings) (finish : Nat)
    (courier : Courier) (carrier : Vehicle) (service : Service) : Prop where
  aboard : service.parcel ∈ carrier.contents
  next : carrier.route.head? = some service.parcel
  outlasts : finish < service.endsAt
  runs : fleet.scene.world.ledger.RunsUntil courier.vehicle service.parcel service.kind
    service.endsAt
  still : ∀ moment, Trail worker [] first moment → Trail worker [] moment fleet →
    (service.kind.startEvent, some courier.vehicle) ∈
        moment.scene.world.historyOf service.parcel →
      moment.couriers[courier.vehicle.index]? = some courier ∧
        moment.scene.world.vehicle? courier.vehicle = some carrier

/-- Before a tick the driver has kept time, and a service under way ends after the lapse before. -/
def IsOnTime (since index : Nat) (clock : TickClock) (fleet : Fleet Surroundings) : Prop :=
  fleet.KeepsTime fleet.scene.world.events since (clock.tick * clock.tickLength)
    (clock.tick * clock.tickLength + 1) index

/-- A driver that is on time before a tick is on time before the next one. -/
theorem IsOnTime.onward {worker : Worker Surroundings} {clock next : TickClock} {lapse : TimeLapse}
    {since : Nat} {vehicles : Nat} {reached : Fleet Surroundings}
    (onTime : fleet.IsOnTime since index clock) (inside : index < vehicles)
    (covered : clock.lapse = .ok lapse) (advanced : clock.advance = .ok next)
    (ran : tick worker vehicles lapse fleet = (.ok (), reached)) :
    reached.IsOnTime since index next := by
  obtain ⟨rfl, -⟩ := TickClock.advance_eq_ok_iff.1 advanced
  obtain ⟨rfl, -⟩ := TickClock.lapse_eq_ok_iff.1 covered
  rcases keepsTime_of_tick inside covered (onTime.rebase (Nat.le_succ _) _) ran nofun with
    keeps | ⟨failed, -⟩
  · exact keeps.rebase (Nat.le_refl _) since
  · exact absurd rfl failed

theorem keepsTime_initial (scenario : Scenario) (pace : Pace) (surroundings : Surroundings)
    (since time due index : Nat) :
    (Simulation.initialFleet scenario pace surroundings).KeepsTime [] since time due index := by
  refine ⟨isManned_initial _ _ _, fun courier found => .of_idle ?_ ?_⟩
  · have none : ((Simulation.initialFleet scenario pace surroundings).cab
        courier).world.ledger.events = [] :=
      congrArg Ledger.events (initial_ledger scenario pace surroundings)
    refine ⟨⟨[], ?_, nofun⟩, ?_, ?_, ?_⟩
    all_goals rw [none]
    · rfl
    · exact nofun
    · exact .nil
    · exact nofun
  · rw [Simulation.initialFleet_courier found]
    rfl

end Fleet

namespace Simulation

open TickLoop Fleet

variable {Surroundings : Type} {settings : Settings} {scenario : Scenario}
  {startSolver : UInt64 → Except SolverFailure Surroundings} {simulation : Simulation Surroundings}
  {before fleet : Fleet Surroundings} {loop : TickLoop} {lapse : TimeLapse}

/-- Between the ticks of the first call every driver is on time. -/
theorem isOnTime_atTick (built : build settings scenario startSolver = .ok simulation)
    (worker : Worker Surroundings) {tick : Nat}
    (begun : simulation.atTick worker [] tick = (.ok (), loop, before)) {index : Nat}
    (inside : index < simulation.fleet.couriers.length) (since : Nat) :
    before.IsOnTime since index loop.clock := by
  have first : (turn worker simulation.fleet).2.IsOnTime since index simulation.loop.clock := by
    obtain ⟨-, surroundings, positive, -, rfl⟩ := build_eq_ok built
    have keeps := keepsTime_initial scenario settings.initialPace surroundings since 0 1 index
    have start : 0 * settings.tickLength = 0 := Nat.zero_mul _
    unfold IsOnTime
    dsimp only
    rw [start]
    exact (keeps.rebase (Nat.le_refl _) since).aside rfl rfl
  refine Setup.runTicks_of_ok ?_ tick simulation.loop _ first begun
  intro clock lapse next context reached covered advanced onTime ran
  exact onTime.onward inside covered advanced ran

/-- A fresh run and its moments are orderly, and their drivers are ready. -/
theorem orderly_of_trail (built : build settings scenario startSolver = .ok simulation)
    {worker : Worker Surroundings} (trail : Trail worker [] simulation.fleet fleet) :
    fleet.IsManned ∧ fleet.IsOrderly := by
  obtain ⟨surroundings, fresh⟩ := build_fleet built
  have manned : simulation.fleet.IsManned := by
    rw [fresh]
    exact isManned_initial _ _ _
  have orderly : simulation.fleet.IsOrderly := by
    rw [fresh]
    exact .initial _ _ _
  exact ⟨trail.path.isManned manned, trail.orderly orderly⟩

/-- A driver that keeps time is serving the first stop of its route, and stands still. -/
theorem isServing_of_keepsTime (built : build settings scenario startSolver = .ok simulation)
    (worker : Worker Surroundings) {first : List Event} {start finish index : Nat}
    (keeps : fleet.KeepsTime first start finish (finish + 1) index) {courier : Courier}
    (found : fleet.couriers[index]? = some courier) {service : Service}
    (underWay : courier.service = some service) {carrier : Vehicle}
    (present : fleet.scene.world.vehicles[index]? = some carrier) :
    IsServing worker simulation.fleet fleet finish courier carrier service := by
  have named : courier.vehicle = ⟨index⟩ := keeps.manned.crewed.named index courier found
  obtain ⟨attends, outlasts⟩ := (keeps.driver courier found).attends service underWay
  obtain ⟨load, loaded, aboard, next⟩ := attends.next
  have loaded : fleet.scene.world.ledger.load? courier.vehicle = some load := loaded
  have carries : fleet.scene.world.vehicle? courier.vehicle = some carrier := named ▸ present
  rw [World.ledger_load?_of_vehicle? carries] at loaded
  cases loaded
  refine ⟨aboard, next, outlasts, attends.runs, fun moment before after started => ?_⟩
  obtain ⟨manned, orderly⟩ := orderly_of_trail built before
  rw [named] at started carries ⊢
  obtain ⟨driver, vehicle⟩ := after.unmoved manned orderly found underWay started
  exact ⟨driver, vehicle.trans carries⟩

/-- In every tick of the first call that does not crash, every vehicle writes its events in order
and within the lapse, and every service takes as long as the order says. A service that is under way
at the end of the tick is the first stop of the route; it ends after the tick, and since it has begun
the vehicle has neither moved nor followed another schedule. -/
theorem vehicles_keep_time (built : build settings scenario startSolver = .ok simulation)
    (worker : Worker Surroundings) (tick : Nat)
    (begun : simulation.atTick worker [] tick = (.ok (), loop, before))
    (covered : loop.clock.lapse = .ok lapse)
    {result : Except (Failure (TickError Refusal)) Unit}
    (ended : runTick (simulation.setup worker []).listeners lapse before = (result, fleet))
    (whole : ∀ crash, result ≠ .error (.crashed crash)) (index : Nat) (carrier : Vehicle)
    (present : fleet.scene.world.vehicles[index]? = some carrier) :
    (∃ new, eventsBy ⟨index⟩ fleet.scene.world.events =
        eventsBy ⟨index⟩ before.scene.world.events ++ new ∧
      ∀ event ∈ new, lapse.start ≤ event.time ∧ event.time ≤ lapse.finish) ∧
    ((eventsBy ⟨index⟩ fleet.scene.world.events).Pairwise
      fun earlier later => earlier.time ≤ later.time) ∧
    fleet.scene.world.TakesItsTime ⟨index⟩ ∧
    (Trail worker [] simulation.fleet before ∧ Trail worker [] before fleet) ∧
    (result = .ok () → ∀ courier service, fleet.couriers[index]? = some courier →
      courier.service = some service →
        IsServing worker simulation.fleet fleet lapse.finish courier carrier service) := by
  have vehicles : (simulation.setup worker []).listeners =
      members worker simulation.fleet.couriers.length ++ [] := rfl
  -- The moments of the tick.
  have ticked : Ends worker [] simulation.fleet _ _ := ends_atTick simulation tick
  rw [begun] at ticked
  have earlier := ticked.trail_of_ok
  have ends := ends_runTick vehicles lapse before
  rw [ended] at ends
  have later : Trail worker [] before fleet := ends.trail fun crash => absurd crash (whole _)
  obtain ⟨manned, orderly⟩ := orderly_of_trail built (earlier.trans later)
  -- The driver of the vehicle.
  have upkeep := counted_upkeep worker simulation.fleet.couriers.length
  have counted := upkeep_atTick upkeep rfl tick
  rw [begun] at counted
  have countedThen := (upkeep.upholds simulation).tick loop.clock lapse covered before counted
  rw [ended] at countedThen
  have driven : index < fleet.couriers.length := IsCrewed.lt_couriers manned.crewed present
  have found := List.getElem?_eq_getElem driven
  generalize fleet.couriers[index] = courier at found
  have named : courier.vehicle = ⟨index⟩ := manned.crewed.named index courier found
  have onTime := isOnTime_atTick built worker begun (countedThen ▸ driven) 0
  obtain ⟨starts, -⟩ := TickClock.lapse_eq_ok_iff.1 covered
  have keeps : before.KeepsTime before.scene.world.events lapse.start lapse.start lapse.start
      index := by
    have keeps := onTime.rebase (Nat.le_succ _) lapse.start
    rwa [starts] at keeps ⊢
  have takesTime := Nat.le_of_lt (TickClock.takes_time covered)
  have keepsThen : ∃ time due, time ≤ lapse.finish ∧
      fleet.KeepsTime before.scene.world.events lapse.start time due index := by
    rcases keepsTime_of_tick (countedThen ▸ driven) covered keeps ended whole with kept | ⟨-, kept⟩
    · exact ⟨_, _, Nat.le_refl _, kept⟩
    · exact ⟨_, _, takesTime, kept⟩
  obtain ⟨time, due, inTime, kept⟩ := keepsThen
  have timely : fleet.scene.world.ledger.IsTimely courier.vehicle before.scene.world.events
    lapse.start time := (kept.driver courier found).timely
  rw [named] at timely
  refine ⟨?_, timely.ordered, World.takesItsTime_of_timely timely orderly.keepsCourse,
    ⟨earlier, later⟩, ?_⟩
  · obtain ⟨new, written, notBefore⟩ := timely.since
    refine ⟨new, written, fun event member => ⟨notBefore event member, ?_⟩⟩
    refine Nat.le_trans (timely.past event ?_) inTime
    show event ∈ eventsBy ⟨index⟩ fleet.scene.world.ledger.events
    rw [written]
    exact List.mem_append_right _ member
  · rintro rfl driver service there underWay
    rcases keepsTime_of_tick (countedThen ▸ driven) covered keeps ended whole with
      kept | ⟨failed, -⟩
    · exact isServing_of_keepsTime built worker kept there underWay present
    · exact absurd rfl failed

/-- A run of a parcel whose unloading goes on beyond the tick. -/
def lengthy : Simulation Unit :=
  standing oneTick
    { (OrderDraft.between .origin .origin).order with
      pickupDuration := 1
      deliveryDuration := 5 } oneTick_positive

/-- The fleet of that run at the end of the tick. -/
def unloading : Fleet Unit :=
  putBack 0 (driven (informed lengthy) [0, 0, 1, 1]) (informed lengthy)

/-- In that run the vehicle has loaded the parcel within a millisecond, and is unloading it. -/
theorem vehicles_keep_time_lengthy :
    build oneTick
        ⟨.origin, [.standard], [{ (OrderDraft.between .origin .origin).order with
          pickupDuration := 1
          deliveryDuration := 5 }]⟩ (fun _ => .ok ()) = .ok lengthy ∧
      runTick (lengthy.setup eager []).listeners onlyLapse lengthy.fleet = (.ok (), unloading) ∧
      (eventsBy ⟨0⟩ unloading.scene.world.events).map (fun event => (event.kind, event.time)) =
        [(.startPickup, 0), (.endPickup, 1), (.startDelivery, 1)] ∧
      unloading.scene.world.TakesItsTime ⟨0⟩ ∧
      ∃ carrier, unloading.scene.world.vehicles[0]? = some carrier ∧
        IsServing eager lengthy.fleet unloading 2 ⟨⟨0⟩, 1, some ⟨⟨0⟩, .delivery, 6⟩⟩ carrier
          ⟨⟨0⟩, .delivery, 6⟩ := by
  have rounds : Cab.drive (readBoard eager) onlyLapse true 0 (driven (informed lengthy) []) =
      (.ok (), driven (informed lengthy) [0, 0, 1, 1]) :=
    (Cab.drive_of_next rfl).trans ((Cab.drive_of_next rfl).trans ((Cab.drive_of_next rfl).trans
      (Cab.drive_of_over rfl)))
  have drove : driveOne eager 0 onlyLapse (informed lengthy) = (.ok (), unloading) :=
    (driveOne_of_drive rfl rfl rounds).trans rfl
  have ended : runTick (members eager 1 ++ []) onlyLapse lengthy.fleet = (.ok (), unloading) :=
    runTick_alone rfl rfl drove rfl
  have built : build oneTick _ _ = .ok lengthy := build_standing _ oneTick_positive (by decide)
  have begun : lengthy.atTick eager [] 0 = (.ok (), lengthy.loop, lengthy.fleet) := rfl
  obtain ⟨-, -, inTime, -, serving⟩ :=
    vehicles_keep_time built eager 0 begun rfl ended nofun 0 _ rfl
  exact ⟨built, ended, rfl, inTime, _, rfl, serving rfl _ _ rfl rfl⟩

end Simulation

end LiveFleet
