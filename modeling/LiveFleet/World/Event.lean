/-
This file holds the log of what happened to the parcels. Every announcement,
and every start and end of a pickup or a delivery, is one event; events are
kept in the order in which they happened.
-/
import LiveFleet.Ids

namespace LiveFleet

/-- What can happen to a parcel. -/
inductive EventKind where
  | newParcel
  | startPickup
  | endPickup
  | startDelivery
  | endDelivery
  deriving DecidableEq, Repr

/-- How the kind of an event is written. -/
def EventKind.text : EventKind → String
  | newParcel => "new_parcel"
  | startPickup => "start_pickup"
  | endPickup => "end_pickup"
  | startDelivery => "start_delivery"
  | endDelivery => "end_delivery"

/-- One entry of the log. Only an announcement names no vehicle. -/
structure Event where
  kind : EventKind
  time : Nat
  parcel : ParcelId
  vehicle : Option VehicleId
  deriving DecidableEq, Repr

end LiveFleet
