/-
This file holds the simple ways of making a schedule for a snapshot: every
vehicle first delivers what it carries, in the order of loading, and then each
parcel that no vehicle has claimed is given to one vehicle, to be picked up and
delivered at once.
-/
import LiveFleet.Schedule
import LiveFleet.Snapshot

namespace LiveFleet.Assignment

/-- The routes on which every vehicle delivers what it carries. -/
def cargoRoutes (snapshot : Snapshot) : List (List ParcelId) :=
  snapshot.vehicles.map fun vehicle => vehicle.contents.map ParcelView.id

/-- Give a parcel to the vehicle at a position, after all its other stops. -/
def give (routes : List (List ParcelId)) (vehicle : Nat) (parcel : ParcelView) :
    List (List ParcelId) :=
  routes.modify vehicle fun route => route ++ [parcel.id, parcel.id]

/-- The schedule that gives every unclaimed parcel to the vehicle at the position that a rule
names. -/
def followRule (rule : ParcelId → Nat) (snapshot : Snapshot) : Schedule :=
  ⟨snapshot.available.foldl (fun routes parcel => give routes (rule parcel.id) parcel)
    (cargoRoutes snapshot)⟩

end LiveFleet.Assignment
