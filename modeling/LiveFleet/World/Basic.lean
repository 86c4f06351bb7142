/-
This file holds the true state of the fleet: all known parcels, all vehicles,
and the log of events. Parcels and vehicles are found by their identity, which
is their position; asking for one that does not exist is refused. The file also
holds what moves the world without touching a parcel in service: new vehicles,
announcements, the opening of windows, and the route, the destination and the
position of a vehicle.
-/
import LiveFleet.Attempt
import LiveFleet.Parcel.State
import LiveFleet.Vehicle
import LiveFleet.World.Event

namespace LiveFleet

/-- The two stops of a parcel. -/
inductive StopKind where
  | pickup
  | delivery
  deriving DecidableEq, Repr

/-- How a stop is named in messages. -/
def StopKind.text : StopKind → String
  | pickup => "pickup"
  | delivery => "delivery"

/-- What a vehicle may be refused to do with a parcel. -/
inductive ParcelAction where
  | pickUp
  | load
  | deliver
  deriving DecidableEq, Repr

/-- What would have been done to the parcel, in messages. -/
def ParcelAction.participle : ParcelAction → String
  | pickUp => "picked up"
  | load => "loaded"
  | deliver => "delivered"

/-- Why the world refuses a change. -/
inductive WorldError where
  | unknownParcel (parcel : ParcelId)
  | unknownVehicle (vehicle : VehicleId)
  | illegalTransition (parcel : ParcelId) (vehicle : VehicleId) (action : ParcelAction)
      (state : ParcelState)
  | notAtPlace (vehicle : VehicleId) (parcel : ParcelId) (stop : StopKind)
  deriving DecidableEq, Repr

/-- The text of a world error. -/
def WorldError.message : WorldError → String
  | unknownParcel parcel => s!"{parcel.text} not found"
  | unknownVehicle vehicle => s!"{vehicle.text} not found"
  | illegalTransition parcel vehicle action state =>
    s!"{parcel.text} cannot be {action.participle} by {vehicle.text}: parcel is {state.text}"
  | notAtPlace vehicle parcel stop =>
    s!"{vehicle.text} is not at the {stop.text} location of {parcel.text}"

/-- The depot, the known parcels, the vehicles, and what has happened. -/
structure World where
  depot : Point
  parcels : List Parcel
  vehicles : List Vehicle
  events : List Event

namespace World

/-- The world before anything is known of it. -/
def empty (depot : Point) : World := ⟨depot, [], [], []⟩

/-! ### Looking up -/

/-- The parcel with the given identity. -/
def parcel? (world : World) (parcel : ParcelId) : Option Parcel := world.parcels[parcel.index]?

/-- The vehicle with the given identity. -/
def vehicle? (world : World) (vehicle : VehicleId) : Option Vehicle :=
  world.vehicles[vehicle.index]?

/-- The parcel with the given identity, or a refusal. -/
def parcel (world : World) (parcel : ParcelId) : Except WorldError Parcel :=
  match world.parcel? parcel with
  | some known => .ok known
  | none => .error (.unknownParcel parcel)

/-- The vehicle with the given identity, or a refusal. -/
def vehicle (world : World) (vehicle : VehicleId) : Except WorldError Vehicle :=
  match world.vehicle? vehicle with
  | some known => .ok known
  | none => .error (.unknownVehicle vehicle)

/-- Every known parcel has been delivered. -/
def allDelivered (world : World) : Bool :=
  world.parcels.all fun parcel => parcel.state = .delivered

/-- Every vehicle is empty and stands at the depot. -/
def allAtDepot (world : World) : Bool :=
  world.vehicles.all fun vehicle =>
    vehicle.contents.isEmpty && vehicle.position.samePlace world.depot

/-- The number of known parcels that have been delivered. -/
def deliveredCount (world : World) : Nat :=
  world.parcels.countP fun parcel => parcel.state = .delivered

/-! ### Changing -/

/-- Write an event into the log. -/
def record (world : World) (event : Event) : World :=
  { world with events := world.events ++ [event] }

/-- Change the vehicle at a position of the list. -/
def modifyVehicle (world : World) (index : Nat) (change : Vehicle → Vehicle) : World :=
  { world with vehicles := world.vehicles.modify index change }

/-- Change the state of the parcel at a position of the list. -/
def setState (world : World) (index : Nat) (state : ParcelState) : World :=
  { world with
    parcels := world.parcels.modify index fun parcel => { parcel with state := state } }

/-- Add a vehicle, parked at its start. -/
def addVehicle (world : World) (profile : VehicleProfile) : VehicleId × World :=
  let id : VehicleId := ⟨world.vehicles.length⟩
  (id, { world with vehicles := world.vehicles ++ [.parked id profile] })

/-- Make an order known at the given time, as a new parcel. It is available if its pickup window
has opened by then. -/
def announce (world : World) (order : TransportOrder) (time : Nat) : ParcelId × World :=
  let id : ParcelId := ⟨world.parcels.length⟩
  let state : ParcelState :=
    if order.pickupWindow.hasBegun time then .available else .announced
  let known : World := { world with parcels := world.parcels ++ [⟨id, order, state⟩] }
  (id, known.record ⟨.newParcel, time, id, none⟩)

/-- The parcel is still closed, and its pickup window has opened by the given time. -/
def opensBy (time : Nat) (parcel : Parcel) : Bool :=
  parcel.state = .announced && parcel.order.pickupWindow.hasBegun time

/-- Make every announced parcel available whose pickup window has opened by the given time. The
answer is the number of these parcels. -/
def refresh (world : World) (time : Nat) : Nat × World :=
  (world.parcels.countP (opensBy time),
    { world with
      parcels := world.parcels.map fun parcel =>
        if opensBy time parcel then { parcel with state := .available } else parcel })

/-- An operation on the world that may be refused. -/
abbrev Change := Attempt World WorldError Unit

/-- Change a vehicle, refused if it does not exist. -/
def changeVehicle (vehicle : VehicleId) (change : Vehicle → Vehicle) : Change := fun world =>
  match world.vehicle? vehicle with
  | some _ => (.ok (), world.modifyVehicle vehicle.index change)
  | none => (.error (.unknownVehicle vehicle), world)

/-- Change the state of a parcel, refused if it does not exist. -/
def changeState (parcel : ParcelId) (state : ParcelState) : Change := fun world =>
  match world.parcel? parcel with
  | some _ => (.ok (), world.setState parcel.index state)
  | none => (.error (.unknownParcel parcel), world)

/-- Replace the route that a vehicle follows. -/
def setRoute (vehicle : VehicleId) (route : List ParcelId) : Change :=
  changeVehicle vehicle fun known => { known with route := route }

/-- Replace the destination of a vehicle. -/
def setDestination (vehicle : VehicleId) (destination : Option ParcelId) : Change :=
  changeVehicle vehicle fun known => { known with destination := destination }

/-- Put a vehicle at a place. -/
def moveVehicle (vehicle : VehicleId) (place : Point) : Change :=
  changeVehicle vehicle fun known => { known with position := place }

end World

end LiveFleet
