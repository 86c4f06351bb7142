/-
This file shows what becomes of a scenario in a run. The depot and the vehicles stay
as they are, and so do the orders: at every moment each order is known as a parcel or
still to be announced, and never both. The number by which the vehicles know that
they may return, and the run that it may end, is the number of orders that are still
to be announced. Whatever the drivers do, they touch none of this.
-/
import LiveFleet.Proofs.Run.Reach
import LiveFleet.Proofs.World.Ledger

namespace LiveFleet

open Attempt

namespace World

/-! ### The roster -/

/-- The depot, the number of vehicles, and the orders of the known parcels. -/
def roster (world : World) : Point × Nat × List TransportOrder :=
  (world.depot, world.vehicles.length, world.parcels.map Parcel.order)

theorem changeState_roster (parcel : ParcelId) (state : ParcelState) :
    Keeps roster (changeState parcel state) := by
  intro world
  have orders : (world.setState parcel.index state).parcels.map Parcel.order =
      world.parcels.map Parcel.order := by
    refine List.ext_getElem? fun index => ?_
    rw [setState, List.getElem?_map, List.getElem?_map, List.getElem?_modify,
      Option.map_eq_map, Option.map_map]
    congr 1
    funext known
    dsimp only [Function.comp_apply]
    split <;> rfl
  unfold changeState
  split
  · exact congrArg (fun orders => (_, _, orders)) orders
  · rfl

theorem changeVehicle_roster (vehicle : VehicleId) (change : Vehicle → Vehicle) :
    Keeps roster (changeVehicle vehicle change) := by
  intro world
  unfold changeVehicle
  split
  · show (_, (world.vehicles.modify _ _).length, _) = _
    rw [List.length_modify]
    rfl
  · rfl

/-- The roster survives a driver. -/
theorem survives_roster (vehicle : VehicleId) (known : Point × Nat × List TransportOrder) :
    Survives vehicle fun world => world.roster = known where
  changeVehicle := fun change world same => (changeVehicle_roster vehicle change world).trans same
  changeState := fun parcel state world same => (changeState_roster parcel state world).trans same
  record := fun _ _ same => same

/-- New parcels come behind the others, and are those of their orders. -/
theorem roster_announceAll (orders : List TransportOrder) (world : World) :
    (Announcer.announceAll world orders).roster =
      (world.depot, world.vehicles.length, world.parcels.map Parcel.order ++ orders) := by
  induction orders generalizing world with
  | nil =>
    rw [List.append_nil]
    rfl
  | cons order rest inductionHypothesis =>
    refine (inductionHypothesis (world.announce order order.announceTime).2).trans ?_
    have known : (world.announce order order.announceTime).2.parcels.map Parcel.order =
        world.parcels.map Parcel.order ++ [order] := List.map_append
    rw [known, List.append_assoc]
    rfl

theorem roster_refresh (world : World) (time : Nat) :
    (world.refresh time).2.roster = world.roster := by
  have orders : (world.refresh time).2.parcels.map Parcel.order =
      world.parcels.map Parcel.order := by
    refine List.map_map.trans (List.map_congr_left fun known _ => ?_)
    dsimp only [Function.comp_apply]
    split <;> rfl
  exact congrArg (fun orders => (_, _, orders)) orders

end World

/-! ### New parcels -/

/-- Announced orders become new parcels, which nobody has claimed. -/
theorem Announcer.announceAll_parcels (orders : List TransportOrder) (world : World) :
    ∃ new, (announceAll world orders).parcels = world.parcels ++ new ∧
      new.map Parcel.order = orders ∧ ∀ parcel ∈ new, parcel.state.isUnassigned = true := by
  induction orders generalizing world with
  | nil => exact ⟨[], (List.append_nil _).symm, rfl, fun _ member => absurd member List.not_mem_nil⟩
  | cons order rest inductionHypothesis =>
    obtain ⟨new, parcels, orders, unassigned⟩ :=
      inductionHypothesis (world.announce order order.announceTime).2
    let first := world.nextParcel order order.announceTime
    refine ⟨first :: new, ?_, ?_, ?_⟩
    · show (announceAll (world.announce order order.announceTime).2 rest).parcels = _
      rw [parcels]
      exact List.append_assoc world.parcels [first] new
    · rw [List.map_cons, orders]
      rfl
    · intro parcel member
      rcases List.mem_cons.1 member with rfl | later
      · show ParcelState.isUnassigned (if _ then _ else _) = true
        split <;> rfl
      · exact unassigned parcel later

/-! ### The scenario of a run -/

/-- How far a scenario has been played out: which of its orders are known as parcels, and which ones
are still to be announced. -/
structure PlaysOut (scenario : Scenario) (scene : Scene) (queue : List TransportOrder) : Prop where
  depot : scene.world.depot = scenario.depot
  vehicles : scene.world.vehicles.length = scenario.vehicles.length
  orders : (scene.world.parcels.map Parcel.order ++ queue).Perm scenario.orders
  pending : scene.pending = queue.length

namespace PlaysOut

variable {scenario : Scenario} {scene : Scene} {queue : List TransportOrder}

theorem initial {Surroundings : Type} (scenario : Scenario) (pace : Pace)
    (surroundings : Surroundings) :
    PlaysOut scenario (Simulation.initialFleet scenario pace surroundings).scene
      (Simulation.initialFleet scenario pace surroundings).announcer.queue := by
  have sorted := List.mergeSort_perm scenario.orders fun left right =>
    left.announceTime ≤ right.announceTime
  have world : (Simulation.initialFleet scenario pace surroundings).scene.world = _ :=
    Simulation.initialWorld_eq scenario
  refine ⟨?_, ?_, ?_, sorted.length_eq.symm⟩
  · rw [world]
    rfl
  · rw [world]
    exact List.length_mapIdx
  · rw [world]
    exact sorted

/-- What happens to the world leaves the scenario where it is if it leaves the roster alone. -/
theorem of_roster (plays : PlaysOut scenario scene queue) {world : World}
    (same : world.roster = scene.world.roster) : PlaysOut scenario { scene with world } queue := by
  obtain ⟨depot, rest⟩ := Prod.mk.inj same
  obtain ⟨vehicles, orders⟩ := Prod.mk.inj rest
  exact ⟨depot.trans plays.depot, vehicles.trans plays.vehicles,
    by rw [orders]; exact plays.orders, plays.pending⟩

/-- The announcer moves the orders that are due from the queue to the world. -/
theorem announced {announcer : Announcer} (plays : PlaysOut scenario scene announcer.queue)
    (lapse : TimeLapse) :
    PlaysOut scenario (announcer.tick lapse scene).2 (announcer.tick lapse scene).1.queue := by
  have roster : (announcer.tick lapse scene).2.world.roster = _ :=
    (World.roster_refresh _ _).trans
      (World.roster_announceAll (announcer.due lapse.finish) scene.world)
  obtain ⟨depot, rest⟩ := Prod.mk.inj roster
  obtain ⟨vehicles, orders⟩ := Prod.mk.inj rest
  refine ⟨depot.trans plays.depot, vehicles.trans plays.vehicles, ?_, rfl⟩
  have split : (announcer.due lapse.finish ++ (announcer.later lapse.finish).queue).Perm
      announcer.queue := List.filter_append_perm _ _
  rw [orders, List.append_assoc]
  exact (split.append_left _).trans plays.orders

/-- Once nothing is left to be announced, the parcels are those of the scenario. -/
theorem all_announced (plays : PlaysOut scenario scene queue) (none : scene.pending = 0) :
    (scene.world.parcels.map Parcel.order).Perm scenario.orders := by
  have empty : queue = [] := List.length_eq_zero_iff.1 (plays.pending.symm.trans none)
  have orders := plays.orders
  rwa [empty, List.append_nil] at orders

end PlaysOut

/-- Whoever takes part in a run lets the scenario take its course. -/
theorem Fleet.plays_upkeep {Surroundings : Type} (worker : Worker Surroundings)
    (scenario : Scenario) :
    Upkeep worker fun _ fleet => PlaysOut scenario fleet.scene fleet.announcer.queue where
  turn := fun _ _ plays => plays
  announcing := fun _ lapse _ _ plays => plays.announced lapse
  handing := fun _ _ _ plays => plays
  driving := by
    intro _ lapse _ _
    refine maintains_driveOne (fun fleet courier mayReturn time _ _ plays => plays.of_roster ?_)
      fun fleet courier _ plays => plays.of_roster ?_
    · exact (Cab.round_within (World.survives_roster _ _) _ lapse mayReturn time
        (fleet.cab courier) ⟨rfl, rfl⟩).2
    · exact (Cab.adopt_within (World.survives_roster _ _) _ (fleet.cab courier) ⟨rfl, rfl⟩).2
  onward := fun _ _ _ _ plays => plays

end LiveFleet
