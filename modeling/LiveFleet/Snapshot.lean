/-
This file holds snapshots of the world, as they are handed to a solver: the
parcels that no vehicle has claimed, in the order of announcement, and for
every vehicle, in order, where it is, what it carries and where it is going.
-/
import LiveFleet.World.Basic

namespace LiveFleet

/-- A parcel as a solver sees it. -/
structure ParcelView where
  id : ParcelId
  order : TransportOrder

/-- A vehicle as a solver sees it. -/
structure VehicleView where
  id : VehicleId
  position : Point
  contents : List ParcelView
  destination : Option ParcelId

/-- The part of the world that a solver plans with. -/
structure Snapshot where
  time : Nat
  available : List ParcelView
  vehicles : List VehicleView

/-- What a solver sees of a parcel. -/
def Parcel.view (parcel : Parcel) : ParcelView := ⟨parcel.id, parcel.order⟩

/-- What a solver sees of a vehicle; the world tells what is known of the parcels aboard. -/
def Vehicle.view (vehicle : Vehicle) (world : World) : VehicleView :=
  { id := vehicle.id
    position := vehicle.position
    contents := (vehicle.contents.filterMap world.parcel?).map Parcel.view
    destination := vehicle.destination }

/-- The snapshot of a world at the given time. -/
def Snapshot.capture (world : World) (time : Nat) : Snapshot :=
  { time
    available := (world.parcels.filter fun parcel => parcel.state.isUnassigned).map Parcel.view
    vehicles := world.vehicles.map fun vehicle => vehicle.view world }

end LiveFleet
