/-
This file holds the check of a schedule entry against the true state of the
world. A schedule answers a snapshot that may be several ticks old; meanwhile a
parcel may have been claimed by another vehicle, or loaded without the solver's
knowledge. An entry fits its vehicle if every parcel that it lists is unclaimed
or aboard, and every parcel aboard is listed. An entry that does not fit is
rejected for its vehicle only. The first rejection of a version asks for a new
snapshot, later ones do not, so a solver whose answers are always too late costs
one snapshot each.
-/
import LiveFleet.World.Basic

namespace LiveFleet

/-- Why a schedule entry does not fit. -/
inductive Inconsistency where
  | missingEntry
  | unknownParcel (parcel : ParcelId)
  | notAssignable (parcel : ParcelId) (state : ParcelState)
  | cargoOmitted (parcel : ParcelId)
  deriving DecidableEq, Repr

/-- The text of an inconsistency. -/
def Inconsistency.message : Inconsistency → String
  | missingEntry => "schedule has no entry for the vehicle"
  | unknownParcel parcel => s!"{parcel.text} is not part of the world"
  | notAssignable parcel state => s!"{parcel.text} is {state.text}"
  | cargoOmitted parcel => s!"{parcel.text} is aboard but missing from the entry"

/-- A parcel in this state may be a stop of the vehicle. -/
def ParcelState.isAssignable (vehicle : VehicleId) : ParcelState → Bool
  | announced | available => true
  | inCargo holder => holder = vehicle
  | delivered => false

namespace World

/-- The parcel exists and may be a stop of the vehicle. -/
def canServe (world : World) (vehicle : VehicleId) (parcel : ParcelId) : Bool :=
  (world.parcel? parcel).any fun known => known.state.isAssignable vehicle

/-- The stops of a route that the vehicle may still make. -/
def pruneRoute (world : World) (vehicle : VehicleId) (route : List ParcelId) : List ParcelId :=
  route.filter (world.canServe vehicle)

/-- Why a stop does not fit the vehicle, if it does not. -/
def stopProblem? (world : World) (vehicle : VehicleId) (parcel : ParcelId) :
    Option Inconsistency :=
  match world.parcel? parcel with
  | none => some (.unknownParcel parcel)
  | some known =>
    if known.state.isAssignable vehicle then none else some (.notAssignable parcel known.state)

/-- The first parcel aboard the vehicle that the entry does not list. An unknown vehicle carries
nothing. -/
def omittedCargo? (world : World) (vehicle : VehicleId) (entry : List ParcelId) :
    Option ParcelId :=
  match world.vehicle? vehicle with
  | none => none
  | some known => known.contents.find? fun parcel => !entry.contains parcel

/-- Why the entry does not fit the vehicle, if it does not. Stops are examined in order, and before
the cargo. -/
def entryProblem? (world : World) (vehicle : VehicleId) :
    Option (List ParcelId) → Option Inconsistency
  | none => some .missingEntry
  | some entry =>
    match entry.findSome? (world.stopProblem? vehicle) with
    | some problem => some problem
    | none => (world.omittedCargo? vehicle entry).map .cargoOmitted

end World

/-- The memory of all vehicles of the entries that did not fit. -/
structure RepairLog where
  /-- A new snapshot has been asked for and not yet been dispatched. -/
  requested : Bool
  /-- The newest version of which an entry was rejected. -/
  lastFlagged : Nat
  /-- The number of versions of which an entry was rejected. -/
  repairs : Nat
  deriving DecidableEq, Repr

namespace RepairLog

/-- Nothing has been rejected. -/
def clear : RepairLog := ⟨false, 0, 0⟩

/-- Ask for a new snapshot because of a version, unless this version or a newer one has already been
the reason. -/
def flag (log : RepairLog) (version : Nat) : RepairLog :=
  if version ≤ log.lastFlagged then log else ⟨true, version, log.repairs + 1⟩

/-- Check the entry of a version for a vehicle, and flag the version if the entry does not fit. -/
def check (world : World) (vehicle : VehicleId) (entry : Option (List ParcelId)) (version : Nat) :
    Attempt RepairLog Inconsistency Unit := fun log =>
  match world.entryProblem? vehicle entry with
  | none => (.ok (), log)
  | some problem => (.error problem, log.flag version)

/-- Whether a new snapshot has been asked for, and the log once that is taken care of. -/
def takeRequest (log : RepairLog) : Bool × RepairLog :=
  (log.requested, { log with requested := false })

end RepairLog

end LiveFleet
