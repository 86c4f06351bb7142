/-
This file holds the life of a parcel. It is announced, becomes available when
its pickup window opens, is in the cargo of one vehicle from the moment that
vehicle starts to load it, and is delivered at the end.
-/
import LiveFleet.Ids
import LiveFleet.Parcel.Order

namespace LiveFleet

/-- Where a parcel is in its life. -/
inductive ParcelState where
  /-- The parcel is known, and its pickup window has not opened yet. -/
  | announced
  /-- The pickup window has opened, and no vehicle has claimed the parcel. -/
  | available
  /-- The parcel is aboard the vehicle, or being loaded into it. -/
  | inCargo (vehicle : VehicleId)
  /-- The parcel has been unloaded at its destination. -/
  | delivered
  deriving DecidableEq, Repr

namespace ParcelState

/-- No vehicle has claimed the parcel. -/
def isUnassigned : ParcelState → Bool
  | announced | available => true
  | inCargo _ | delivered => false

/-- How a state is written. -/
def text : ParcelState → String
  | announced => "announced"
  | available => "available"
  | inCargo vehicle => s!"in cargo of {vehicle.text}"
  | delivered => "delivered"

end ParcelState

/-- A known parcel. -/
structure Parcel where
  id : ParcelId
  order : TransportOrder
  state : ParcelState

end LiveFleet
