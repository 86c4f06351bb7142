/-
This file holds the four steps of serving a parcel: loading starts and ends at
the pickup place, unloading starts and ends at the delivery place. Each step is
refused unless the parcel is in the right state and the vehicle stands where it
must, and each writes one event. A parcel is claimed when loading starts, so no
second vehicle can start on it, and leaves the cargo when unloading ends.
-/
import LiveFleet.World.Basic

namespace LiveFleet.World

/-- Write an event about a vehicle and a parcel. -/
def log (kind : EventKind) (vehicle : VehicleId) (parcel : ParcelId) (time : Nat) : Change :=
  modify fun world => world.record ⟨kind, time, parcel, some vehicle⟩

/-- Refuse the action unless the parcel is in the cargo of the vehicle. -/
def requireInCargo (vehicle : VehicleId) (parcel : ParcelId) (action : ParcelAction) :
    Change := do
  let known ← Attempt.inspect fun world => world.parcel parcel
  Attempt.require (known.state = .inCargo vehicle)
    (.illegalTransition parcel vehicle action known.state)

/-- Start to load an available parcel at its pickup place. The parcel is in the cargo from this
moment on. -/
def startPickup (vehicle : VehicleId) (parcel : ParcelId) (time : Nat) : Change := do
  let loader ← Attempt.inspect fun world => world.vehicle vehicle
  let known ← Attempt.inspect fun world => world.parcel parcel
  Attempt.require (known.state = .available)
    (.illegalTransition parcel vehicle .pickUp known.state)
  Attempt.require (loader.position.samePlace known.order.pickupPlace)
    (.notAtPlace vehicle parcel .pickup)
  changeState parcel (.inCargo vehicle)
  changeVehicle vehicle fun known => { known with contents := known.contents ++ [parcel] }
  log .startPickup vehicle parcel time

/-- Finish loading a parcel. -/
def finishPickup (vehicle : VehicleId) (parcel : ParcelId) (time : Nat) : Change := do
  requireInCargo vehicle parcel .load
  log .endPickup vehicle parcel time

/-- Start to unload a parcel at its delivery place. -/
def startDelivery (vehicle : VehicleId) (parcel : ParcelId) (time : Nat) : Change := do
  requireInCargo vehicle parcel .deliver
  let unloader ← Attempt.inspect fun world => world.vehicle vehicle
  let known ← Attempt.inspect fun world => world.parcel parcel
  Attempt.require (unloader.position.samePlace known.order.deliveryPlace)
    (.notAtPlace vehicle parcel .delivery)
  log .startDelivery vehicle parcel time

/-- Finish unloading a parcel. It has left the cargo then. -/
def finishDelivery (vehicle : VehicleId) (parcel : ParcelId) (time : Nat) : Change := do
  requireInCargo vehicle parcel .deliver
  changeState parcel .delivered
  changeVehicle vehicle fun known =>
    { known with contents := known.contents.filter (· ≠ parcel) }
  log .endDelivery vehicle parcel time

end LiveFleet.World
