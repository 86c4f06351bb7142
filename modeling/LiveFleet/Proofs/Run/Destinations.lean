/-
This file proves what the world tells about the targets of its vehicles. At the end
of every tick that ends well, in every run, the destination of a vehicle is the first
stop of its route, and there is none if the route is empty, with one exception: a
vehicle that has ended a service exactly at the end of the tick is still said to be
going to the stop that it has just served. The file ends with a run in which that
happens, and in which the stop is not even on the route any more.
-/
import LiveFleet.Proofs.Run.Heading
import LiveFleet.Proofs.Run.Refusals

namespace LiveFleet

open Attempt

/-- Every tick takes time. -/
theorem TickClock.takes_time {clock : TickClock} {lapse : TimeLapse}
    (covered : clock.lapse = .ok lapse) : lapse.start < lapse.finish := by
  obtain ⟨rfl, -⟩ := lapse_eq_ok_iff.1 covered
  exact Nat.mul_lt_mul_of_pos_right (Nat.lt_succ_self _) clock.tickLength_pos

/-- What has been written into the log survives a driver. -/
theorem World.survives_written (vehicle : VehicleId) (event : Event) :
    World.Survives vehicle fun world => event ∈ world.events where
  changeVehicle := by
    intro change world written
    unfold World.changeVehicle
    split <;> exact written
  changeState := by
    intro parcel state world written
    unfold World.changeState
    split <;> exact written
  record := fun _ _ written => List.mem_append_left _ written

namespace Fleet

variable {Surroundings : Type} {worker : Worker Surroundings} {fleet reached : Fleet Surroundings}
  {lapse : TimeLapse} {index other : Nat} {courier : Courier} {event : Event}

/-! ### The drivers -/

theorem driveOne_of_none (none : fleet.couriers[index]? = none) :
    driveOne worker index lapse fleet = (.ok (), fleet) := by
  unfold driveOne
  rw [get_bind_apply, none]
  rfl

theorem driveOne_apply (found : fleet.couriers[index]? = some courier) :
    driveOne worker index lapse fleet =
      ((Cab.tick (readBoard worker) lapse (fleet.scene.pending = 0) (fleet.cab courier)).1.mapError
          (Failure.map .world),
        putBack index
          (Cab.tick (readBoard worker) lapse (fleet.scene.pending = 0) (fleet.cab courier)).2
            fleet) := by
  unfold driveOne
  rw [get_bind_apply, found]
  dsimp only [within]
  generalize Cab.tick (readBoard worker) lapse (fleet.scene.pending = 0) (fleet.cab courier) =
    outcome
  rcases outcome with ⟨_ | _, cab⟩ <;> rfl

theorem maintains_crewed (index : Nat) (lapse : TimeLapse) :
    Maintains IsCrewed (driveOne worker index lapse) :=
  maintains_driving (fun _ crewed => crewed) (fun _ crewed => crewed)
    (fun _ _ _ found adoption crewed => adoption.crewed crewed found)
    fun _ _ _ _ found _ deed crewed => deed.crewed crewed found

/-- A driver leaves the others and their headings alone. -/
theorem driveOne_leavesAlone (crewed : fleet.IsCrewed) (differs : index ≠ other)
    (worker : Worker Surroundings) (lapse : TimeLapse) {driver : Courier}
    (there : (driveOne worker index lapse fleet).2.couriers[other]? = some driver) :
    fleet.couriers[other]? = some driver ∧
      ((driveOne worker index lapse fleet).2.cab driver).heading? =
        (fleet.cab driver).heading? := by
  cases found : fleet.couriers[index]? with
  | none =>
    rw [driveOne_of_none found] at there ⊢
    exact ⟨there, rfl⟩
  | some courier =>
    rw [driveOne_apply found] at there ⊢
    rcases Courier.set_cases there with ⟨same, -⟩ | ⟨-, foundOther⟩
    · exact absurd same differs
    · have alone := Cab.tick_leavesAlone (readBoard worker) lapse (fleet.scene.pending = 0)
        (fleet.cab courier)
      exact ⟨foundOther, alone.2 _ (crewed.apart found foundOther differs)⟩

/-- Every driver has its vehicle and is steady. -/
structure KnowsWay (fleet : Fleet Surroundings) : Prop where
  crewed : fleet.IsCrewed
  steady : ∀ (index : Nat) (courier : Courier), fleet.couriers[index]? = some courier →
    (fleet.cab courier).IsSteady

/-- The driver at a position of the list is settled. -/
def IsSettledAt (moment index : Nat) (fleet : Fleet Surroundings) : Prop :=
  ∀ courier, fleet.couriers[index]? = some courier → (fleet.cab courier).IsSettled moment

/-- A driver that has driven is steady, and settled unless it has failed. -/
theorem driveOne_heads (knows : fleet.KnowsWay) (takesTime : lapse.start < lapse.finish)
    (worker : Worker Surroundings) (index : Nat) {driver : Courier}
    (there : (driveOne worker index lapse fleet).2.couriers[index]? = some driver) :
    ((driveOne worker index lapse fleet).2.cab driver).IsSteady ∧
      ((driveOne worker index lapse fleet).1 = .ok () →
        ((driveOne worker index lapse fleet).2.cab driver).IsSettled lapse.finish) := by
  cases found : fleet.couriers[index]? with
  | none =>
    rw [driveOne_of_none found, found] at there
    cases there
  | some courier =>
    have heads := Cab.tick_heads (knows.steady index courier found) (readBoard worker) takesTime
      (fleet.scene.pending = 0)
    rw [driveOne_apply found] at there ⊢
    generalize Cab.tick (readBoard worker) lapse (fleet.scene.pending = 0) (fleet.cab courier) =
      outcome at heads there
    obtain ⟨result, after⟩ := outcome
    rcases Courier.set_cases there with ⟨-, rfl⟩ | ⟨differs, -⟩
    · refine ⟨heads.1, fun went => heads.2 ?_⟩
      cases result with
      | error => cases went
      | ok => rfl
    · exact absurd rfl differs

theorem maintains_knowsWay (takesTime : lapse.start < lapse.finish) (index : Nat) :
    Maintains KnowsWay (driveOne worker index lapse) := by
  intro fleet knows
  refine ⟨maintains_crewed index lapse fleet knows.crewed, fun other driver there => ?_⟩
  by_cases own : index = other
  · subst own
    exact (driveOne_heads knows takesTime worker index there).1
  · obtain ⟨before, headed⟩ := driveOne_leavesAlone knows.crewed own worker lapse there
    exact (knows.steady other driver before).of_heading rfl headed

theorem maintains_written :
    Maintains (fun fleet => event ∈ fleet.scene.world.events) (driveOne worker index lapse) := by
  refine maintains_driveOne (fun fleet courier mayReturn time _ _ written => ?_)
    fun fleet courier _ written => ?_
  · exact (Cab.round_within (World.survives_written _ event) _ _ mayReturn time
      (fleet.cab courier) ⟨rfl, written⟩).2
  · exact (Cab.adopt_within (World.survives_written _ event) _ (fleet.cab courier) ⟨rfl, written⟩).2

/-- A driver leaves another one that is settled as it is. -/
theorem maintains_settledAt {moment : Nat} (differs : index ≠ other) :
    Maintains (fun fleet => fleet.IsCrewed ∧ fleet.IsSettledAt moment other)
      (driveOne worker index lapse) := by
  rintro fleet ⟨crewed, settled⟩
  refine ⟨maintains_crewed index lapse fleet crewed, fun driver there => ?_⟩
  obtain ⟨before, headed⟩ := driveOne_leavesAlone crewed differs worker lapse there
  refine (settled driver before).of_heading rfl headed fun event written => ?_
  exact maintains_written fleet written

/-- Once all drivers have driven, all of them are settled. -/
theorem settled_of_driven {indices : List Nat} (knows : fleet.KnowsWay)
    (takesTime : lapse.start < lapse.finish)
    (drove : (indices.map (driving worker)).forM (fun member => member.before lapse) fleet =
      (.ok (), reached)) :
    ∀ index ∈ indices, reached.IsSettledAt lapse.finish index := by
  induction indices generalizing fleet with
  | nil => nofun
  | cons index rest inductionHypothesis =>
    obtain ⟨_, middle, went, others⟩ := bind_eq_ok_iff.1 drove
    have went : driveOne worker index lapse fleet = (.ok (), middle) := went
    have knowsThen : middle.KnowsWay := by
      have kept : (driveOne worker index lapse fleet).2.KnowsWay :=
        maintains_knowsWay takesTime index fleet knows
      rwa [went] at kept
    have settled : middle.IsSettledAt lapse.finish index := by
      intro driver there
      have heads := @driveOne_heads _ _ _ knows takesTime worker index driver
      rw [went] at heads
      exact (heads there).2 rfl
    intro other member
    by_cases later : other ∈ rest
    · exact inductionHypothesis knowsThen others other later
    · -- Nobody that drives later is this one.
      obtain rfl : other = index := (List.mem_cons.1 member).resolve_right later
      have kept : Maintains (fun fleet => fleet.IsCrewed ∧ fleet.IsSettledAt lapse.finish other)
          ((rest.map (driving worker)).forM fun member => member.before lapse) := by
        refine maintains_forM fun driver isMember => ?_
        obtain ⟨position, inRest, rfl⟩ := List.mem_map.1 isMember
        exact maintains_settledAt fun same => later (same ▸ inRest)
      have last := kept middle ⟨knowsThen.crewed, settled⟩
      rw [others] at last
      exact last.2

/-- Every vehicle has a driver. -/
theorem IsCrewed.lt_couriers (crewed : fleet.IsCrewed) {vehicle : Vehicle}
    (present : fleet.scene.world.vehicles[index]? = some vehicle) :
    index < fleet.couriers.length := by
  refine (crewed.paired index).1 ?_
  show ((fleet.scene.world.vehicles[index]?).map Vehicle.load).isSome = true
  rw [present]
  rfl

/-- What it says of a vehicle that its driver is settled. -/
theorem IsSettledAt.vehicle {moment : Nat} (settled : fleet.IsSettledAt moment index)
    (crewed : fleet.IsCrewed) {vehicle : Vehicle}
    (present : fleet.scene.world.vehicles[index]? = some vehicle) :
    vehicle.destination = vehicle.route.head? ∨
      ∃ (parcel : ParcelId) (kind : StopKind), vehicle.destination = some parcel ∧
        ⟨kind.endEvent, moment, parcel, some ⟨index⟩⟩ ∈ fleet.scene.world.events ∧
          (fleet.couriers[index]?).map Courier.service = some none := by
  have inside := crewed.lt_couriers present
  have driver := List.getElem?_eq_getElem inside
  have named := crewed.named index _ driver
  have settled := settled _ driver
  generalize fleet.couriers[index] = courier at driver named settled
  have headed : (fleet.cab courier).heading? = some vehicle.heading := by
    rw [Cab.heading?]
    show fleet.scene.world.heading? courier.vehicle = _
    rw [named]
    exact congrArg (Option.map Vehicle.heading) present
  rcases settled with ⟨heading, found, isTrue⟩ | ⟨idle, heading, parcel, kind, found, served, written⟩
  · cases headed.symm.trans found
    exact .inl isTrue
  · cases headed.symm.trans found
    refine .inr ⟨parcel, kind, served, named ▸ written, ?_⟩
    rw [driver]
    exact congrArg some idle

/-! ### Runs -/

theorem knowsWay_initial (scenario : Scenario) (pace : Pace) (surroundings : Surroundings) :
    (Simulation.initialFleet scenario pace surroundings).KnowsWay where
  crewed := isCrewed_initial scenario pace surroundings
  steady := by
    intro index courier found
    obtain ⟨load, present⟩ := (isCrewed_initial scenario pace surroundings).load found
    obtain ⟨carrier, present, -⟩ := Option.map_eq_some_iff.1 present
    obtain rfl := Simulation.initialFleet_courier found
    exact Cab.isSteady_of_idle rfl (congrArg (Option.map Vehicle.heading) present)

/-- Whoever takes part in a run keeps the drivers steady. -/
theorem knowsWay_upkeep (worker : Worker Surroundings) :
    Upkeep worker fun _ fleet => fleet.KnowsWay where
  turn := fun _ _ knows => ⟨knows.crewed, knows.steady⟩
  announcing := fun _ _ _ =>
    maintains_announcing (fun _ _ _ knows => ⟨knows.crewed, knows.steady⟩)
      (fun _ _ _ knows => ⟨knows.crewed.of_world rfl, knows.steady⟩)
      fun _ knows => ⟨knows.crewed.of_world rfl, knows.steady⟩
  handing := fun _ _ _ knows => ⟨knows.crewed, knows.steady⟩
  driving := fun _ _ index covered => maintains_knowsWay (TickClock.takes_time covered) index
  onward := fun _ _ _ _ knows => knows

/-- At the end of a tick that ends well all drivers are settled. -/
theorem settled_of_tick {clock : TickClock} (covered : clock.lapse = .ok lapse)
    (knows : fleet.KnowsWay) {vehicles : Nat}
    (ran : TickLoop.runTick (members worker vehicles ++ []) lapse fleet = (.ok (), reached)) :
    ∀ index < vehicles, reached.IsSettledAt lapse.finish index := by
  have upkeep := knowsWay_upkeep worker
  have takesTime := TickClock.takes_time covered
  obtain ⟨announced, informed, driven, announces, informs, drives, closes⟩ := members_of_ok ran
  have knowsAnnounced := upkeep.announcing clock lapse covered fleet knows
  rw [announces] at knowsAnnounced
  have knowsInformed :=
    maintains_reportNews (upkeep.turn clock) (upkeep.handing clock) lapse announced knowsAnnounced
  rw [informs] at knowsInformed
  intro index inside
  have settled := settled_of_driven knowsInformed takesTime drives index (List.mem_range.2 inside)
  -- The liaison does nothing to the vehicles.
  have closing : Maintains (IsSettledAt lapse.finish index) (reportRepairs worker lapse) :=
    maintains_reportRepairs (fun _ settled => settled) (fun _ _ settled => settled) lapse
  have settledThen := closing driven settled
  rw [closes] at settledThen
  exact settledThen

end Fleet

namespace Simulation

open TickLoop Fleet

variable {Surroundings : Type} {settings : Settings} {scenario : Scenario}
  {startSolver : UInt64 → Except SolverFailure Surroundings} {simulation : Simulation Surroundings}
  {before fleet : Fleet Surroundings} {loop : TickLoop} {lapse : TimeLapse}

/-- At the end of every tick that ends well, the destination of a vehicle is the first stop of its
route, unless its driver has ended a service exactly then, and the destination is the stop of that
service. -/
theorem destinations_are_next_stops (built : build settings scenario startSolver = .ok simulation)
    (worker : Worker Surroundings) (calls tick : Nat)
    (begun : (simulation.after worker [] calls).atTick worker [] tick = (.ok (), loop, before))
    (covered : loop.clock.lapse = .ok lapse)
    (ended : runTick ((simulation.after worker [] calls).setup worker []).listeners lapse before =
      (.ok (), fleet)) :
    ∀ index vehicle, fleet.scene.world.vehicles[index]? = some vehicle →
      vehicle.destination = vehicle.route.head? ∨
        ∃ (parcel : ParcelId) (kind : StopKind), vehicle.destination = some parcel ∧
          ⟨kind.endEvent, lapse.finish, parcel, some ⟨index⟩⟩ ∈ fleet.scene.world.events ∧
            (fleet.couriers[index]?).map Courier.service = some none := by
  obtain ⟨surroundings, fresh⟩ := build_fleet built
  have first : simulation.fleet.KnowsWay := by
    rw [fresh]
    exact knowsWay_initial _ _ _
  have after := upkeep_after (knowsWay_upkeep worker) first calls
  have upkeep := (knowsWay_upkeep worker).and
    (counted_upkeep worker (simulation.after worker [] calls).fleet.couriers.length)
  have knows := upkeep_atTick upkeep ⟨after, rfl⟩ tick
  rw [begun] at knows
  have knowsThen := (upkeep.upholds (simulation.after worker [] calls)).tick loop.clock lapse covered
    before knows
  rw [ended] at knowsThen
  intro index vehicle present
  have inside := knowsThen.1.crewed.lt_couriers present
  exact (settled_of_tick covered knows.1 ended index (knowsThen.2 ▸ inside)).vehicle
    knowsThen.1.crewed present

/-! ### A delivery that ends with its tick -/

/-- A run of a parcel that takes a millisecond to load and one to unload, which is as long as the
tick. -/
def punctual : Simulation Unit :=
  standing oneTick
    { (OrderDraft.between .origin .origin).order with
      pickupDuration := 1
      deliveryDuration := 1 } oneTick_positive

/-- The fleet of that run at the end of the tick. -/
def arrived : Fleet Unit :=
  putBack 0 (driven (informed punctual) [0, 0, 1, 1, 2]) (informed punctual)

theorem runTick_punctual :
    runTick (members eager 1 ++ []) onlyLapse punctual.fleet = (.ok (), arrived) := by
  have rounds : Cab.drive (readBoard eager) onlyLapse true 0 (driven (informed punctual) []) =
      (.ok (), driven (informed punctual) [0, 0, 1, 1, 2]) :=
    (Cab.drive_of_next rfl).trans ((Cab.drive_of_next rfl).trans ((Cab.drive_of_next rfl).trans
      ((Cab.drive_of_next rfl).trans (Cab.drive_of_over rfl))))
  have drove : driveOne eager 0 onlyLapse (informed punctual) = (.ok (), arrived) :=
    (driveOne_of_drive rfl rfl rounds).trans rfl
  exact runTick_alone rfl rfl drove rfl

theorem build_punctual :
    build oneTick
        ⟨.origin, [.standard], [{ (OrderDraft.between .origin .origin).order with
          pickupDuration := 1
          deliveryDuration := 1 }]⟩ (fun _ => .ok ()) = .ok punctual :=
  build_standing _ oneTick_positive (by decide)

/-- In that run the vehicle has ended its delivery exactly at the end of the tick. -/
theorem destinations_are_next_stops_punctual :
    ∃ vehicle, arrived.scene.world.vehicles[0]? = some vehicle ∧
      (vehicle.destination = vehicle.route.head? ∨
        ∃ (parcel : ParcelId) (kind : StopKind), vehicle.destination = some parcel ∧
          ⟨kind.endEvent, 2, parcel, some ⟨0⟩⟩ ∈ arrived.scene.world.events ∧
            (arrived.couriers[0]?).map Courier.service = some none) := by
  have begun : (punctual.after eager [] 0).atTick eager [] 0 =
      (.ok (), punctual.loop, punctual.fleet) := rfl
  refine ⟨_, rfl, ?_⟩
  exact destinations_are_next_stops build_punctual eager 0 0 begun rfl runTick_punctual 0 _ rfl

/-- At the end of that tick the parcel is delivered and the route is empty, and the vehicle is still
said to be going to the parcel; so is the solver told by a snapshot that is taken then. -/
theorem destination_outlives_its_service :
    build oneTick
        ⟨.origin, [.standard], [{ (OrderDraft.between .origin .origin).order with
          pickupDuration := 1
          deliveryDuration := 1 }]⟩ (fun _ => .ok ()) = .ok punctual ∧
      (punctual.after eager [] 0).atTick eager [] 0 = (.ok (), punctual.loop, punctual.fleet) ∧
      punctual.loop.clock.lapse = .ok onlyLapse ∧
      runTick ((punctual.after eager [] 0).setup eager []).listeners onlyLapse punctual.fleet =
        (.ok (), arrived) ∧
      arrived.scene.world.parcels.map Parcel.state = [.delivered] ∧
      (∃ vehicle, arrived.scene.world.vehicles[0]? = some vehicle ∧ vehicle.route = [] ∧
        vehicle.destination = some ⟨0⟩ ∧ vehicle.destination ≠ vehicle.route.head?) ∧
      (Snapshot.capture arrived.scene.world 2).vehicles.map VehicleView.destination = [some ⟨0⟩] :=
  ⟨build_punctual, rfl, rfl, runTick_punctual, rfl, ⟨_, rfl, rfl, rfl, fun same =>
    Option.some_ne_none _ same⟩, rfl⟩

end Simulation

end LiveFleet
