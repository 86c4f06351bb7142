/-
This file holds a solver that assigns parcels to vehicles at random. Every
vehicle first delivers what it carries; then each parcel that no vehicle has
claimed is given to a vehicle that is drawn uniformly, to be picked up and
delivered at once. The generator goes on from call to call, so two calls on one
solver differ, and two solvers with one seed that see the same snapshots agree.
-/
import LiveFleet.Random.Range
import LiveFleet.Solver.Assignment
import LiveFleet.Solver.Blocking

namespace LiveFleet.RandomAssignment

/-- Give a parcel to a random vehicle, unless the computation has been cancelled. -/
def assign (token : CancelToken) (routes : List (List ParcelId)) (parcel : ParcelView) :
    Attempt Generator SolverError (List (List ParcelId)) := do
  Attempt.ofExcept id token.check
  let vehicle ← modifyGet fun generator => generator.below routes.length
  return Assignment.give routes vehicle parcel

/-- A random schedule for a snapshot. Without a vehicle nothing is drawn. -/
def schedule (snapshot : Snapshot) (token : CancelToken) :
    Attempt Generator SolverError Schedule :=
  if snapshot.vehicles.isEmpty then pure ⟨[]⟩
  else do
    let routes ← snapshot.available.foldlM (assign token) (Assignment.cargoRoutes snapshot)
    return ⟨routes⟩

/-- The random solver as a blocking solver; its memory is its generator. -/
def solver : BlockingSolver Generator where
  solve := fun snapshot (generator, token) =>
    match schedule snapshot token generator with
    | (.ok schedule, generator) => (.ok schedule, generator, token)
    | (.error error, generator) => (.error (.refused error), generator, token)

end LiveFleet.RandomAssignment
