/-
This file holds a desk whose solver is played by hand. Inside a computation the
solver waits to be told how the computation ends, or to sleep until it is
cancelled; whatever the worker can do without being told, it does at once. The
solver may be a blocking one, whose answer is then checked and published, or
one that publishes by itself. A rehearsal shows one interleaving of the worker
and the simulation: the one in which the worker always goes first.
-/
import LiveFleet.Solver.Blocking

namespace LiveFleet

/-- A desk and the solver that is played at it. -/
structure Rehearsal where
  desk : Desk
  /-- The answer of the solver is checked and published for it. -/
  isBlocking : Bool
  /-- How far the computation of a blocking solver has come. -/
  stage : BlockingSolver.Stage
  /-- The solver sleeps until its computation is cancelled. -/
  isAsleep : Bool
  /-- The desk is being closed, so the solver sleeps in every computation. -/
  isClosing : Bool
  /-- The snapshots whose computation was started, the oldest first. -/
  received : List Snapshot

namespace Rehearsal

/-- A rehearsal before the first snapshot. -/
def opened (switch : PaceSwitch) (isBlocking : Bool) : Rehearsal :=
  { desk := .opened switch
    isBlocking
    stage := .solving
    isAsleep := false
    isClosing := false
    received := [] }

/-- End the computation. The schedule counts for a blocking solver only. -/
def finish (rehearsal : Rehearsal) (result : Except SolverFailure Schedule) : Rehearsal :=
  if rehearsal.isBlocking then { rehearsal with stage := .solved result, isAsleep := false }
  else
    { rehearsal with
      desk := rehearsal.desk.move (.finish (result.map fun _ => ()))
      isAsleep := false }

/-- Note the snapshot of the job that the worker has claimed, if it has just claimed one. -/
def claimed (rehearsal : Rehearsal) : Rehearsal :=
  match rehearsal.desk.phase with
  | .computing job =>
    { rehearsal with
      stage := .solving
      isAsleep := rehearsal.isClosing
      received := rehearsal.received ++ [job.snapshot] }
  | _ => rehearsal

/-- What happens next by itself. A sleeper whose computation is cancelled wakes and gives up. -/
def step? (rehearsal : Rehearsal) : Option Rehearsal :=
  match rehearsal.desk.phase with
  | .computing job =>
    match rehearsal.stage.next? rehearsal.desk job with
    | some (stage, moves) =>
      some { rehearsal with stage, desk := rehearsal.desk.moves moves }
    | none =>
      match (rehearsal.desk.token job.generation).wake with
      | .error error =>
        if rehearsal.isAsleep then some (rehearsal.finish (.error (.refused error))) else none
      | .ok () => none
  | _ => rehearsal.desk.nextMove?.map fun move =>
    { rehearsal with desk := rehearsal.desk.move move }.claimed

/-- At most the given number of steps. -/
def steps : Nat → Rehearsal → Rehearsal
  | 0, rehearsal => rehearsal
  | count + 1, rehearsal =>
    match rehearsal.step? with
    | some next => steps count next
    | none => rehearsal

/-- Go on until the solver has to be told something, or there is nothing to do. -/
def settle (rehearsal : Rehearsal) : Rehearsal :=
  steps (BlockingSolver.stepsToRest rehearsal.desk) rehearsal

/-- Tell the solver to sleep until its computation is cancelled. -/
def sleep (rehearsal : Rehearsal) : Rehearsal :=
  { rehearsal with isAsleep := rehearsal.desk.isComputing }

/-- Close the desk. -/
def close (rehearsal : Rehearsal) : Rehearsal :=
  { rehearsal.sleep with desk := rehearsal.desk.shutdown, isClosing := true }

end Rehearsal

end LiveFleet
