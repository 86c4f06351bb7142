/-
This file proves that the books agree about what is aboard: a parcel that a vehicle
carries is in the cargo of this vehicle and of no other. So every snapshot of a run
is one of a fleet in which no parcel is at two places, and a run is a sitting of its
worker. What a solver does in every sitting, it does in every run.
-/
import LiveFleet.Proofs.Desk.Sitting
import LiveFleet.Proofs.Run.Deeds
import LiveFleet.Proofs.World.Custody
import Mathlib.Data.List.Basic

namespace LiveFleet

open Attempt

/-! ### What is aboard -/

namespace Laden

variable {Board : Type} {cab reached : Cab Board}

theorem deed (laden : Laden cab.world.ledger) {time : Nat} (deed : Cab.Deed time cab reached) :
    Laden reached.world.ledger := by
  cases deed with
  | drove ledger =>
    rw [ledger]
    exact laden
  | skipped _ _ _ _ _ ledger =>
    rw [ledger]
    exact laden.reload fun _ => rfl
  | began _ _ _ ready _ ledger =>
    rw [ledger]
    exact laden.begun ready
  | ended _ aboard _ ledger =>
    rw [ledger]
    exact (laden.ended aboard).reload fun _ => rfl

theorem adoption (laden : Laden cab.world.ledger) {read : ReadBoard Board}
    (adoption : Cab.Adoption read cab reached) : Laden reached.world.ledger := by
  cases adoption with
  | busy | current => exact laden
  | accepted _ _ _ _ _ _ ledger | rejected _ _ _ ledger =>
    rw [ledger]
    exact laden.reload fun _ => rfl

end Laden

/-! ### Snapshots of a run -/

theorem Snapshot.unclaimed_capture (world : World) (time : Nat) :
    (Snapshot.capture world time).unclaimed =
      (world.parcels.filter fun parcel => parcel.state.isUnassigned).map Parcel.id := List.map_map

namespace Laden

variable {world : World} (laden : Laden world.ledger)

include laden

/-- A snapshot shows as unclaimed exactly the known parcels that no vehicle has claimed. -/
theorem mem_unclaimed_capture {time : Nat} {parcel : ParcelId} :
    parcel ∈ (Snapshot.capture world time).unclaimed ↔ world.ledger.Unclaimed parcel := by
  rw [Snapshot.unclaimed_capture, List.mem_map]
  constructor
  · rintro ⟨known, member, rfl⟩
    obtain ⟨inWorld, unassigned⟩ := List.mem_filter.1 member
    obtain ⟨index, there⟩ := List.mem_iff_getElem?.1 inWorld
    have found : world.ledger.parcel? ⟨index⟩ = some known := there
    rw [laden.named _ _ found]
    exact ⟨known, found, unassigned⟩
  · rintro ⟨known, found, unassigned⟩
    exact ⟨known, List.mem_filter.2 ⟨List.mem_of_getElem? found, unassigned⟩,
      laden.named _ _ found⟩

/-- Nothing that a vehicle carries is missing from its view. -/
theorem contents_view {index : Nat} {vehicle : Vehicle}
    (found : world.vehicles[index]? = some vehicle) :
    (vehicle.view world).contents.map ParcelView.id = vehicle.contents := by
  have listed : (vehicle.view world).contents.map ParcelView.id =
      vehicle.contents.filterMap fun parcel => (world.parcel? parcel).map Parcel.id := by
    show ((vehicle.contents.filterMap world.parcel?).map Parcel.view).map ParcelView.id = _
    rw [List.map_map, List.map_filterMap]
    rfl
  have named : ∀ parcel ∈ vehicle.contents,
      (world.parcel? parcel).map Parcel.id = some parcel := by
    intro parcel aboard
    obtain ⟨known, foundParcel, -⟩ :=
      laden.aboard ⟨index⟩ _ (World.ledger_load?_of_vehicle? found) parcel aboard
    exact Option.map_eq_some_iff.2 ⟨known, foundParcel, laden.named _ _ foundParcel⟩
  rw [listed, List.filterMap_congr named, List.filterMap_some]

/-- What a snapshot shows aboard a vehicle is in its cargo. -/
theorem inCargo_of_carries {time : Nat} {view : VehicleView}
    (member : view ∈ (Snapshot.capture world time).vehicles) {parcel : ParcelId}
    (carried : view.Carries parcel) : ∃ vehicle, world.ledger.Has parcel (.inCargo vehicle) := by
  obtain ⟨vehicle, inWorld, rfl⟩ := List.mem_map.1 member
  obtain ⟨index, there⟩ := List.mem_iff_getElem?.1 inWorld
  rw [VehicleView.Carries, laden.contents_view there] at carried
  exact ⟨⟨index⟩, laden.aboard ⟨index⟩ _ (World.ledger_load?_of_vehicle? there) _ carried⟩

theorem isSound_capture (staffed : world.vehicles ≠ []) (time : Nat) :
    (Snapshot.capture world time).IsSound where
  staffed := fun none => staffed (List.map_eq_nil_iff.1 none)
  distinct := by
    rw [Snapshot.unclaimed_capture]
    exact laden.nodup_parcels.sublist (List.filter_sublist.map _)
  apart := by
    intro view member parcel carried unclaimed
    obtain ⟨vehicle, known, found, state⟩ := laden.inCargo_of_carries member carried
    obtain ⟨same, foundSame, unassigned⟩ := laden.mem_unclaimed_capture.1 unclaimed
    rw [found] at foundSame
    cases foundSame
    rw [state] at unassigned
    cases unassigned

end Laden

/-! ### Runs are sittings -/

namespace Fleet

variable {Surroundings : Type} {worker : Worker Surroundings} {first : Surroundings}

/-- The fleet of a run that a worker attends to: the story of its desk so far is a sitting. -/
structure Attended (worker : Worker Surroundings) (first : Surroundings)
    (fleet : Fleet Surroundings) (session : Session) : Prop where
  crewed : fleet.IsCrewed
  staffed : fleet.couriers ≠ []
  laden : Laden fleet.scene.world.ledger
  desk : session.desk = fleet.desk
  sitting : Sitting worker first fleet.surroundings session

namespace Attended

variable {fleet : Fleet Surroundings} {session : Session}

theorem turned (attended : fleet.Attended worker first session) :
    (turn worker fleet).2.Attended worker first
      (session.moves (worker.turn fleet.surroundings fleet.desk).2) := by
  have turned := attended.sitting.turned
  rw [attended.desk] at turned
  refine ⟨attended.crewed, attended.staffed, attended.laden, ?_, turned⟩
  rw [Session.moves_desk, attended.desk]
  rfl

/-- A snapshot of the fleet is sound. -/
theorem isSound (attended : fleet.Attended worker first session) (time : Nat) :
    (Snapshot.capture fleet.scene.world time).IsSound := by
  refine attended.laden.isSound_capture (fun empty => ?_) time
  have present := (attended.crewed.paired 0).2 (List.length_pos_iff.2 attended.staffed)
  have absent : fleet.scene.world.ledger.load? ⟨0⟩ = none := by
    show (fleet.scene.world.vehicles[0]?).map Vehicle.load = none
    rw [empty]
    rfl
  rw [absent] at present
  cases present

theorem handed (attended : fleet.Attended worker first session) (time : Nat) :
    (fleet.handedOver time).Attended worker first
      (session.step (.dispatch (.capture fleet.scene.world time))) := by
  refine ⟨attended.crewed, attended.staffed, attended.laden, ?_,
    attended.sitting.handed _ (attended.isSound time)⟩
  show (Desk.dispatch _ session.desk).2 = _
  rw [attended.desk]
  rfl

/-- A driver that leaves the desk alone is no matter of the sitting. -/
theorem putBack (attended : fleet.Attended worker first session) {index : Nat}
    {cab : Cab (Desk × Surroundings)}
    (crewed : Crewed cab.world.ledger (fleet.couriers.set index cab.courier))
    (laden : Laden cab.world.ledger) (board : cab.board = (fleet.desk, fleet.surroundings)) :
    (Fleet.putBack index cab fleet).Attended worker first session where
  crewed := crewed
  staffed := fun empty => attended.staffed ((List.set_eq_nil_iff _ _).1 empty)
  laden := laden
  desk := attended.desk.trans (congrArg Prod.fst board).symm
  sitting := by
    show Sitting worker first cab.board.2 session
    rw [board]
    exact attended.sitting

end Attended

/-- A glance leaves the board as it is. -/
theorem glance_board {fleet : Fleet Surroundings} {courier : Courier}
    {cab : Cab (Desk × Surroundings)} (adoption : Cab.Adoption glance (fleet.cab courier) cab) :
    cab.board = (fleet.desk, fleet.surroundings) := by
  cases adoption with
  | busy | current => rfl
  | accepted _ _ _ _ _ _ _ _ _ board | rejected _ _ _ _ _ _ board => exact board

/-- What is known of a fleet and of the story of its desk outlasts everything that happens in a
run. -/
structure Outlasts (worker : Worker Surroundings) (first : Surroundings)
    (Known : Fleet Surroundings → Session → Prop) : Prop where
  turned : ∀ fleet session, fleet.Attended worker first session → Known fleet session →
    Known (turn worker fleet).2 (session.moves (worker.turn fleet.surroundings fleet.desk).2)
  handed : ∀ fleet session time, fleet.Attended worker first session → Known fleet session →
    Known (fleet.handedOver time) (session.step (.dispatch (.capture fleet.scene.world time)))
  aside : ∀ fleet session announcer pending, Known fleet session →
    Known { fleet with announcer, scene := { fleet.scene with pending } } session
  announced : ∀ fleet session order, Known fleet session →
    Known { fleet with scene := { fleet.scene with
      world := (fleet.scene.world.announce order order.announceTime).2 } } session
  opened : ∀ fleet session time, Known fleet session →
    Known { fleet with scene := { fleet.scene with
      world := (fleet.scene.world.refresh time).2 } } session
  adopted : ∀ fleet session index courier cab, fleet.couriers[index]? = some courier →
    Cab.Adoption glance (fleet.cab courier) cab → fleet.Attended worker first session →
      Known fleet session → Known (putBack index cab fleet) session
  drove : ∀ fleet session index courier time cab, fleet.couriers[index]? = some courier →
    Cab.Deed time (fleet.cab courier) cab → fleet.Attended worker first session →
      Known fleet session → Known (putBack index cab fleet) session

namespace Outlasts

variable {Known : Fleet Surroundings → Session → Prop}

/-- What outlasts everything is known at every moment of a run. -/
theorem upkeep (outlasts : Outlasts worker first Known) :
    Upkeep worker fun _ fleet => ∃ session, fleet.Attended worker first session ∧
      Known fleet session where
  turn := by
    rintro _ fleet ⟨session, attended, known⟩
    exact ⟨_, attended.turned, outlasts.turned fleet session attended known⟩
  handing := by
    rintro _ fleet time ⟨session, attended, known⟩
    exact ⟨_, attended.handed time, outlasts.handed fleet session time attended known⟩
  announcing := by
    intro _ lapse _
    refine maintains_announcing ?_ ?_ ?_
    · rintro fleet announcer pending ⟨session, attended, known⟩
      exact ⟨session, ⟨attended.crewed, attended.staffed, attended.laden, attended.desk,
        attended.sitting⟩, outlasts.aside fleet session announcer pending known⟩
    · rintro fleet order - ⟨session, attended, known⟩
      have laden := attended.laden.announced order order.announceTime
      exact ⟨session, ⟨attended.crewed.of_world rfl, attended.staffed, laden, attended.desk,
        attended.sitting⟩, outlasts.announced fleet session order known⟩
    · rintro fleet ⟨session, attended, known⟩
      have laden := attended.laden.refreshed lapse.start
      exact ⟨session, ⟨attended.crewed.of_world rfl, attended.staffed, laden, attended.desk,
        attended.sitting⟩, outlasts.opened fleet session lapse.start known⟩
  driving := by
    intro _ lapse index _
    refine maintains_driving ?_ ?_ ?_ ?_
    · rintro fleet ⟨session, attended, -⟩
      exact attended.crewed
    · rintro fleet ⟨session, attended, known⟩
      exact ⟨_, attended.turned, outlasts.turned fleet session attended known⟩
    · rintro fleet courier cab found adoption ⟨session, attended, known⟩
      exact ⟨session, attended.putBack (adoption.crewed attended.crewed found)
        (Laden.adoption attended.laden adoption) (glance_board adoption),
        outlasts.adopted fleet session index courier cab found adoption attended known⟩
    · rintro fleet courier time cab found - deed ⟨session, attended, known⟩
      exact ⟨session, attended.putBack (deed.crewed attended.crewed found)
        (Laden.deed attended.laden deed) deed.board,
        outlasts.drove fleet session index courier time cab found deed attended known⟩
  onward := fun _ _ _ _ known => known

variable {settings : Settings} {scenario : Scenario}
  {startSolver : UInt64 → Except SolverFailure Surroundings} {simulation : Simulation Surroundings}

/-- A run begins as the sitting of its worker. -/
theorem attended_initial (worker : Worker Surroundings)
    (built : Simulation.build settings scenario startSolver = .ok simulation) :
    simulation.fleet.Attended worker simulation.fleet.surroundings
      (.opened (.start settings.initialPace)) := by
  obtain ⟨vehicles, surroundings, -, -, rfl⟩ := Simulation.build_eq_ok built
  refine ⟨isCrewed_initial _ _ _, ?_, ?_, rfl, .opened _⟩
  · simpa [Simulation.initialFleet] using vehicles
  · show Laden (Simulation.initialFleet _ _ _).scene.world.ledger
    rw [initial_ledger]
    refine ⟨fun parcel known found => ?_, fun vehicle load found parcel aboard => ?_⟩
    · cases found
    · dsimp only at found
      split at found
      · cases found
        cases aboard
      · cases found

/-- What outlasts everything and is known at the start of a run is known after any number of calls,
and at every tick of the next one. -/
theorem known (outlasts : Outlasts worker simulation.fleet.surroundings Known)
    (built : Simulation.build settings scenario startSolver = .ok simulation)
    (first : Known simulation.fleet (.opened (.start settings.initialPace))) (calls : Nat) :
    ∃ session, (simulation.after worker [] calls).fleet.Attended worker
        simulation.fleet.surroundings session ∧
      Known (simulation.after worker [] calls).fleet session :=
  Simulation.upkeep_after outlasts.upkeep ⟨_, attended_initial worker built, first⟩ calls

end Outlasts

end Fleet

end LiveFleet
