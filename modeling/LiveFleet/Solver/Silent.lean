/-
This file holds the worker that answers nothing: it takes the newest snapshot,
keeps it, and ends its computation at once, without a schedule and without
saying that it is done. A run with this worker follows the wall clock from the
first snapshot on.
-/
import LiveFleet.Solver.Blocking

namespace LiveFleet.Worker

/-- At most the given number of steps of a worker that answers nothing. -/
def takeAll : Nat → List Snapshot → Desk → List Snapshot × List Desk.Move
  | 0, taken, _ => (taken, [])
  | steps + 1, taken, desk =>
    match desk.phase with
    | .computing job =>
      let move := Desk.Move.finish (.ok ())
      let (taken, later) := takeAll steps (taken ++ [job.snapshot]) (desk.move move)
      (taken, move :: later)
    | _ =>
      match desk.nextMove? with
      | none => (taken, [])
      | some move =>
        let (taken, later) := takeAll steps taken (desk.move move)
        (taken, move :: later)

/-- The worker that answers nothing. Its surroundings are the snapshots that it has taken, the
oldest first. -/
def silent : Worker (List Snapshot) where
  turn := fun taken desk => takeAll (BlockingSolver.stepsToRest desk) taken desk

end LiveFleet.Worker
