/-
This file proves that a world is never changed by halves. What is asked of it for a
vehicle is granted or refused, and a refusal comes before the first change: starting
a pickup looks for its vehicle before it claims the parcel, and ending a delivery is
refused at once to a vehicle that has not got the parcel, so that a vehicle that is
looked up afterwards is always there. What is granted reaches the vehicle and the
state of the parcel that it names, and writes at most one event.
-/
import LiveFleet.Proofs.World.Operations

namespace LiveFleet

open Attempt

/-! ### Requests -/

/-- What may be asked of a world for a vehicle, and be refused. -/
inductive Request where
  | setRoute (route : List ParcelId)
  | setDestination (destination : Option ParcelId)
  | moveVehicle (place : Point)
  | start (kind : StopKind) (parcel : ParcelId) (time : Nat)
  | finish (kind : StopKind) (parcel : ParcelId) (time : Nat)

/-- What a service leaves behind: an event, and the parcel that it is about in another state. -/
structure Handling where
  event : Event
  before : ParcelState
  after : ParcelState

namespace Request

/-- The change that is asked for. -/
def change (vehicle : VehicleId) : Request → World.Change
  | setRoute route => World.setRoute vehicle route
  | setDestination destination => World.setDestination vehicle destination
  | moveVehicle place => World.moveVehicle vehicle place
  | start kind parcel time => kind.start vehicle parcel time
  | finish kind parcel time => kind.finish vehicle parcel time

/-- What the request leaves behind if it is one for a service. -/
def handling? (vehicle : VehicleId) : Request → Option Handling
  | setRoute _ | setDestination _ | moveVehicle _ => none
  | start kind parcel time =>
    some ⟨⟨kind.startEvent, time, parcel, some vehicle⟩, kind.stateBefore vehicle, .inCargo vehicle⟩
  | finish kind parcel time =>
    some ⟨⟨kind.endEvent, time, parcel, some vehicle⟩, .inCargo vehicle, kind.stateAfter vehicle⟩

end Request

namespace World

/-- Two worlds differ in what the request is about, and in nothing else. -/
structure ChangesOnly (world : World) (vehicle : VehicleId) (request : Request) (after : World) :
    Prop where
  depot : after.depot = world.depot
  /-- No vehicle is added, taken away or renamed. -/
  crew : after.vehicleIds = world.vehicleIds
  vehicles : ∀ other, other ≠ vehicle → after.vehicle? other = world.vehicle? other
  parcels : ∀ other, (∀ handling ∈ request.handling? vehicle, handling.event.parcel ≠ other) →
    after.parcel? other = world.parcel? other
  /-- The parcel that is named was in the state that the service asks for, and only its state is
  another one. -/
  named : ∀ handling ∈ request.handling? vehicle, ∃ known,
    world.parcel? handling.event.parcel = some known ∧ known.state = handling.before ∧
      after.parcel? handling.event.parcel = some { known with state := handling.after }
  events : after.events = world.events ++ ((request.handling? vehicle).map Handling.event).toList

variable {world after : World} {vehicle : VehicleId}

/-! ### What a vehicle cannot reach -/

/-- Neither the depot nor another vehicle is within the reach of a vehicle. -/
theorem survives_elsewhere (world : World) (vehicle : VehicleId) :
    Survives vehicle fun after => after.depot = world.depot ∧
      ∀ other, other ≠ vehicle → after.vehicle? other = world.vehicle? other where
  changeVehicle := by
    rintro change reached ⟨depot, others⟩
    unfold World.changeVehicle
    split
    · refine ⟨depot, fun other differs => ?_⟩
      rw [vehicle?_modifyVehicle, if_neg differs]
      exact others other differs
    · exact ⟨depot, others⟩
  changeState := by
    rintro parcel state reached ⟨depot, others⟩
    unfold World.changeState
    split <;> exact ⟨depot, others⟩
  record := fun _ _ kept => kept

theorem ChangesOnly.of_marks {request : Request} {handling : Handling}
    (asks : request.handling? vehicle = some handling) (known : world.IsIn handling.event.parcel
      handling.before) (marks : world.Marks handling.event handling.after after)
    (crew : after.vehicleIds = world.vehicleIds)
    (elsewhere : after.depot = world.depot ∧
      ∀ other, other ≠ vehicle → after.vehicle? other = world.vehicle? other) :
    world.ChangesOnly vehicle request after where
  depot := elsewhere.1
  crew := crew
  vehicles := elsewhere.2
  parcels := by
    intro other unnamed
    rw [marks.parcel, if_neg fun same => unnamed handling asks same.symm]
  named := by
    intro other isOther
    cases asks.symm.trans isOther
    obtain ⟨before, found, state⟩ := known
    refine ⟨before, found, state, ?_⟩
    rw [marks.parcel, if_pos rfl, found, Option.map_some]
  events := by
    rw [marks.events, asks]
    rfl

/-- A parcel is as it was, or is the one that the request names, in another state. -/
theorem ChangesOnly.parcel_cases {request : Request}
    (changes : world.ChangesOnly vehicle request after) (parcel : ParcelId) :
    after.parcel? parcel = world.parcel? parcel ∨
      ∃ handling known, request.handling? vehicle = some handling ∧
        world.parcel? parcel = some known ∧ known.state = handling.before ∧
          after.parcel? parcel = some { known with state := handling.after } := by
  by_cases isNamed : ∃ handling ∈ request.handling? vehicle, handling.event.parcel = parcel
  · obtain ⟨handling, asks, rfl⟩ := isNamed
    obtain ⟨known, found, state, foundAfter⟩ := changes.named handling asks
    exact .inr ⟨handling, known, asks, found, state, foundAfter⟩
  · exact .inl (changes.parcels parcel fun handling asks same => isNamed ⟨handling, asks, same⟩)

/-! ### Refused or granted -/

/-- A vehicle that exists may be given another route, another destination or another place. -/
theorem changeVehicle_ends (world : World) (request : Request)
    (asks : request.handling? vehicle = none) {change : Vehicle → Vehicle}
    (same : ∀ known, (change known).id = known.id) :
    (∃ error, changeVehicle vehicle change world = (.error error, world)) ∨
      ∃ after, changeVehicle vehicle change world = (.ok (), after) ∧
        world.ChangesOnly vehicle request after := by
  have crew := vehicleIds_changeVehicle vehicle change same world
  have elsewhere := (survives_elsewhere world vehicle).changeVehicle change world
    ⟨rfl, fun _ _ => rfl⟩
  cases found : world.vehicle? vehicle with
  | none =>
    refine .inl ⟨.unknownVehicle vehicle, ?_⟩
    unfold changeVehicle
    rw [found]
  | some known =>
    have changed : changeVehicle vehicle change world =
        (.ok (), world.modifyVehicle vehicle.index change) :=
      changeVehicle_eq_ok_iff.2 ⟨⟨known, found⟩, rfl⟩
    rw [changed] at crew elsewhere
    refine .inr ⟨_, changed, elsewhere.1, crew, elsewhere.2, fun _ _ => rfl, ?_, ?_⟩
    · rw [asks]
      rintro handling ⟨⟩
    · rw [asks]
      exact (List.append_nil _).symm

/-- A request leaves everything as it is, or changes what it names. -/
theorem InAccord.request_ends (accord : world.InAccord) (vehicle : VehicleId) (request : Request) :
    (∃ error, request.change vehicle world = (.error error, world)) ∨
      ∃ after, request.change vehicle world = (.ok (), after) ∧
        world.ChangesOnly vehicle request after := by
  cases request with
  | setRoute route => exact changeVehicle_ends world (.setRoute route) rfl fun _ => rfl
  | setDestination destination =>
    exact changeVehicle_ends world (.setDestination destination) rfl fun _ => rfl
  | moveVehicle place => exact changeVehicle_ends world (.moveVehicle place) rfl fun _ => rfl
  | start kind parcel time =>
    have elsewhere := (survives_elsewhere world vehicle).start kind parcel time world
      ⟨rfl, fun _ _ => rfl⟩
    have crew := vehicleIds_start kind vehicle parcel time world
    rcases start_cases kind vehicle parcel time world with
      refused | ⟨after, started, isIn, -, marks⟩
    · exact .inl refused
    · rw [started] at elsewhere crew
      exact .inr ⟨after, started, .of_marks rfl isIn marks crew elsewhere⟩
  | finish kind parcel time =>
    have elsewhere := (survives_elsewhere world vehicle).finish kind parcel time world
      ⟨rfl, fun _ _ => rfl⟩
    have crew := vehicleIds_finish kind vehicle parcel time world
    rcases accord.finish_cases kind vehicle parcel time with refused | ⟨after, finished, marks⟩
    · exact .inl refused
    · rw [finished] at elsewhere crew
      obtain ⟨aboard, -⟩ := finish_ledger finished
      exact .inr ⟨after, finished, .of_marks rfl aboard marks crew elsewhere⟩

/-- What becomes of a world when an operation is asked of it. -/
inductive Becomes (world : World) : Operation → World → Prop where
  | addVehicle (profile : VehicleProfile) :
      Becomes world (.addVehicle profile) (world.addVehicle profile).2
  | announce (order : TransportOrder) (time : Nat) :
      Becomes world (.announce order time) (world.announce order time).2
  | refresh (time : Nat) : Becomes world (.refresh time) (world.refresh time).2
  | refused (operation : Operation) : Becomes world operation world
  | granted {operation : Operation} {vehicle : VehicleId} {request : Request} {after : World}
      (changes : world.ChangesOnly vehicle request after) : Becomes world operation after

/-- An operation that may be refused makes of the world what the request that it is makes of it. -/
theorem InAccord.becomes_of_request (accord : world.InAccord) (operation : Operation)
    (vehicle : VehicleId) (request : Request)
    (same : operation.apply world = (request.change vehicle world).2) :
    world.Becomes operation (operation.apply world) := by
  rw [same]
  rcases accord.request_ends vehicle request with ⟨error, refused⟩ | ⟨after, granted, changes⟩
  · rw [refused]
    exact .refused operation
  · rw [granted]
    exact .granted changes

theorem InAccord.becomes (accord : world.InAccord) (operation : Operation) :
    world.Becomes operation (operation.apply world) := by
  cases operation with
  | addVehicle profile => exact .addVehicle profile
  | announce order time => exact .announce order time
  | refresh time => exact .refresh time
  | setRoute vehicle route => exact accord.becomes_of_request _ vehicle (.setRoute route) rfl
  | setDestination vehicle destination =>
    exact accord.becomes_of_request _ vehicle (.setDestination destination) rfl
  | moveVehicle vehicle place => exact accord.becomes_of_request _ vehicle (.moveVehicle place) rfl
  | startPickup vehicle parcel time =>
    exact accord.becomes_of_request _ vehicle (.start .pickup parcel time) rfl
  | finishPickup vehicle parcel time =>
    exact accord.becomes_of_request _ vehicle (.finish .pickup parcel time) rfl
  | startDelivery vehicle parcel time =>
    exact accord.becomes_of_request _ vehicle (.start .delivery parcel time) rfl
  | finishDelivery vehicle parcel time =>
    exact accord.becomes_of_request _ vehicle (.finish .delivery parcel time) rfl

/-- Whatever has been asked of a world before: a request that is refused leaves the whole world as
it was, and one that is granted changes its vehicle, the state of its parcel and, by one event at
most, the log. -/
theorem requests_change_what_they_name (depot : Point) (operations : List Operation)
    (vehicle : VehicleId) (request : Request) :
    (∀ error after, request.change vehicle ((World.empty depot).after operations) =
        (.error error, after) → after = (World.empty depot).after operations) ∧
      ∀ after, request.change vehicle ((World.empty depot).after operations) = (.ok (), after) →
        ((World.empty depot).after operations).ChangesOnly vehicle request after := by
  have ends := (inAccord_after (inAccord_empty depot) operations).request_ends vehicle request
  constructor
  · intro error after isRefused
    rcases ends with ⟨other, refused⟩ | ⟨reached, granted, -⟩
    · exact (Prod.mk.inj (isRefused.symm.trans refused)).2
    · cases isRefused.symm.trans granted
  · intro after isGranted
    rcases ends with ⟨other, refused⟩ | ⟨reached, granted, changes⟩
    · cases isGranted.symm.trans refused
    · cases isGranted.symm.trans granted
      exact changes

/-- While a parcel is being loaded, another vehicle, which does not exist, may not deliver it, and
the vehicle that loads it may. -/
theorem requests_change_what_they_name_loading :
    (∃ error, (Request.finish .delivery ⟨0⟩ 1).change ⟨1⟩ loading = (.error error, loading)) ∧
      ∃ after, (Request.finish .delivery ⟨0⟩ 1).change ⟨0⟩ loading = (.ok (), after) ∧
        loading.ChangesOnly ⟨0⟩ (.finish .delivery ⟨0⟩ 1) after := by
  have stranger : ((Request.finish .delivery ⟨0⟩ 1).change ⟨1⟩ loading).1 =
      .error (.illegalTransition ⟨0⟩ ⟨1⟩ .deliver (.inCargo ⟨0⟩)) := by decide
  have loader : ((Request.finish .delivery ⟨0⟩ 1).change ⟨0⟩ loading).1 = .ok () := by decide
  have law := requests_change_what_they_name ⟨0, 0⟩ [.addVehicle ⟨⟨0, 0⟩, 50⟩,
    .announce onTheSpot 0, .announce onTheSpot 0, .startPickup ⟨0⟩ ⟨0⟩ 0]
  have same := (law ⟨1⟩ (.finish .delivery ⟨0⟩ 1)).1 _ _ (Prod.ext stranger rfl)
  exact ⟨⟨_, Prod.ext stranger same⟩, _, Prod.ext loader rfl,
    (law ⟨0⟩ (.finish .delivery ⟨0⟩ 1)).2 _ (Prod.ext loader rfl)⟩

end World

end LiveFleet
