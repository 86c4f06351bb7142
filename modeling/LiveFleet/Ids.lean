/-
This file holds the identities of parcels and vehicles. An identity is the
position of its owner in the list of all parcels, or of all vehicles, in the
order in which they became known; it is written and read as a 32-bit number.
-/

namespace LiveFleet

/-- The number of identities of one kind that can be written, `2 ^ 32`. -/
def identityRange : Nat := 4294967296

/-- The identity of a parcel, given out in the order of announcement. -/
structure ParcelId where
  index : Nat
  deriving DecidableEq, Repr

/-- The identity of a vehicle: its position in every snapshot and every schedule. -/
structure VehicleId where
  index : Nat
  deriving DecidableEq, Repr

namespace ParcelId

/-- The identity that stands for no parcel. -/
def invalid : ParcelId := ⟨identityRange - 1⟩

instance : Inhabited ParcelId := ⟨invalid⟩

/-- The identity with the given number, if the number can be written. -/
def ofNumber? (number : Nat) : Option ParcelId :=
  if number < identityRange then some ⟨number⟩ else none

/-- How a parcel is named in messages. -/
def text (parcel : ParcelId) : String := s!"ParcelId({parcel.index})"

end ParcelId

namespace VehicleId

/-- The identity that stands for no vehicle. -/
def invalid : VehicleId := ⟨identityRange - 1⟩

instance : Inhabited VehicleId := ⟨invalid⟩

/-- The identity with the given number, if the number can be written. -/
def ofNumber? (number : Nat) : Option VehicleId :=
  if number < identityRange then some ⟨number⟩ else none

/-- How a vehicle is named in messages. -/
def text (vehicle : VehicleId) : String := s!"VehicleId({vehicle.index})"

end VehicleId

end LiveFleet
