/-
This file holds schedules: for every vehicle of a snapshot, in the same order,
the stops that it shall make. A parcel that is to be picked up and delivered is
listed twice, first for the pickup; a parcel that is already aboard is listed
once.
-/
import LiveFleet.Ids

namespace LiveFleet

/-- The stops of every vehicle, indexed by vehicle. -/
structure Schedule where
  routes : List (List ParcelId)
  deriving DecidableEq, Repr

namespace Schedule

/-- A schedule that gives nothing to do to the given number of vehicles. -/
def empty (vehicles : Nat) : Schedule := ⟨List.replicate vehicles []⟩

/-- The stops of one vehicle, if the schedule has an entry for it. -/
def entry? (schedule : Schedule) (vehicle : VehicleId) : Option (List ParcelId) :=
  schedule.routes[vehicle.index]?

/-- The number of vehicles that the schedule is for. -/
def size (schedule : Schedule) : Nat := schedule.routes.length

/-- The schedule is for no vehicle. -/
def isEmpty (schedule : Schedule) : Bool := schedule.routes.isEmpty

end Schedule

end LiveFleet
