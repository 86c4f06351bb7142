/-
This file holds the vehicles of the fleet: where each starts and how fast it
drives, and what is known of it during a run. The route of a vehicle is the list
of stops that it is following. A parcel on the route that is not aboard is
picked up at its stop, and one that is aboard is delivered.
-/
import LiveFleet.Ids
import LiveFleet.Geometry

namespace LiveFleet

/-- The fixed properties of a vehicle. Speed is distance per simulated hour. -/
structure VehicleProfile where
  start : Point
  speed : Float

namespace VehicleProfile

/-- A vehicle at the origin with a speed of fifty. -/
def standard : VehicleProfile := ⟨.origin, 50⟩

instance : Inhabited VehicleProfile := ⟨standard⟩

/-- The milliseconds of an hour. -/
def hour : Float := 3600000

/-- The distance that the vehicle covers in the given number of milliseconds. -/
def distanceIn (profile : VehicleProfile) (duration : Nat) : Float :=
  profile.speed * (UInt64.ofNat duration).toFloat / hour

end VehicleProfile

/-- A vehicle during a run. -/
structure Vehicle where
  id : VehicleId
  profile : VehicleProfile
  position : Point
  /-- The parcels aboard, in the order in which they were loaded. -/
  contents : List ParcelId
  /-- The stops that the vehicle follows, the next one first. -/
  route : List ParcelId
  /-- The stop that the vehicle is driving to or serving, if any. -/
  destination : Option ParcelId

namespace Vehicle

/-- A vehicle before its first tick. -/
def parked (id : VehicleId) (profile : VehicleProfile) : Vehicle :=
  { id, profile, position := profile.start, contents := [], route := [], destination := none }

/-- The parcel is aboard. -/
def carries (vehicle : Vehicle) (parcel : ParcelId) : Bool := vehicle.contents.contains parcel

end Vehicle

end LiveFleet
