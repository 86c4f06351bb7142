/-
This file holds solvers that answer a snapshot in one call, and how such a
solver works at a desk. It solves; if the token has been cancelled in the
meantime, the schedule is thrown away; otherwise it is published, and then the
solver says that it is done. A schedule that the desk refuses ends the
computation with that refusal.

Between any two of these steps the simulation may dispatch a newer snapshot.
The stages of the computation are therefore explicit, and one function says
what the next step is.
-/
import LiveFleet.Solver.Desk

namespace LiveFleet

/-- A solver that turns a snapshot into a schedule in one call. It has a state of its own, and may
look at its token, or cancel it. -/
structure BlockingSolver (Memory : Type) where
  solve : Snapshot → Attempt (Memory × CancelToken) SolverFailure Schedule

namespace BlockingSolver

/-- How far the computation of a blocking solver has come. -/
inductive Stage where
  | solving
  | solved (result : Except SolverFailure Schedule)
  | approved (schedule : Schedule)
  | published
  | signalled

/-- The step that follows the solving, for a job at a desk: the next stage, and what the desk is
told. While the solver is still solving there is none. -/
def Stage.next? (desk : Desk) (job : Job) : Stage → Option (Stage × List Desk.Move)
  | .solving => none
  | .solved (.error failure) => some (.solving, [.finish (.error failure)])
  | .solved (.ok schedule) =>
    match (desk.token job.generation).check with
    | .error error => some (.solved (.error (.refused error)), [])
    | .ok () => some (.approved schedule, [])
  | .approved schedule =>
    match (Desk.updateSchedule schedule desk).1 with
    | .error error => some (.solved (.error (.refused error)), [])
    | .ok () => some (.published, [.publish schedule])
  | .published => some (.signalled, [.signalDone])
  | .signalled => some (.solving, [.finish (.ok ())])

variable {Memory : Type}

/-- Let the solver solve the job, and note its result. -/
def callSolver (solver : BlockingSolver Memory) (memory : Memory) (desk : Desk) (job : Job) :
    Memory × Stage × List Desk.Move :=
  let token := desk.token job.generation
  let (result, memory, after) := solver.solve job.snapshot (memory, token)
  let withdrawn := after.isCancelled && !token.isCancelled
  (memory, .solved result, if withdrawn then [.cancel job.generation] else [])

/-- The next step of a worker that runs a blocking solver, if it can go on. -/
def step? (solver : BlockingSolver Memory) (memory : Memory) (stage : Stage) (desk : Desk) :
    Option (Memory × Stage × List Desk.Move) :=
  match desk.phase with
  | .computing job =>
    match stage with
    | .solving => some (solver.callSolver memory desk job)
    | later => (later.next? desk job).map fun (stage, moves) => (memory, stage, moves)
  | _ => desk.nextMove?.map fun move => (memory, stage, [move])

/-- At most the given number of steps of a worker that runs a blocking solver. -/
def steps (solver : BlockingSolver Memory) :
    Nat → Memory → Stage → Desk → Memory × Stage × List Desk.Move
  | 0, memory, stage, _ => (memory, stage, [])
  | count + 1, memory, stage, desk =>
    match solver.step? memory stage desk with
    | none => (memory, stage, [])
    | some (memory, stage, moves) =>
      let (memory, stage, later) := solver.steps count memory stage (desk.moves moves)
      (memory, stage, moves ++ later)

/-- Enough steps to empty the queue and to answer what is in it. -/
def stepsToRest (desk : Desk) : Nat := 10 * (desk.queue.length + 2)

/-- The worker that runs a blocking solver and never lets the simulation wait: at every turn it goes
on until it has nothing left to do. -/
def prompt (solver : BlockingSolver Memory) : Worker (Memory × Stage) where
  turn := fun (memory, stage) desk =>
    let (memory, stage, moves) := solver.steps (stepsToRest desk) memory stage desk
    ((memory, stage), moves)

/-! ### A whole computation without interruption -/

/-- A blocking solver that may have been given a desk to publish to. -/
structure Attached (Memory : Type) where
  memory : Memory
  isAttached : Bool

/-- Give the solver its desk, once. -/
def attach : Attempt (Attached Memory) SolverError Unit := fun attached =>
  if attached.isAttached then (.error .alreadyInitialized, attached)
  else (.ok (), { attached with isAttached := true })

/-- Solve a snapshot, publish the schedule and say so, with nobody else at the desk. -/
def receive (solver : BlockingSolver Memory) (snapshot : Snapshot) :
    Attempt (Attached Memory × CancelToken × Desk) SolverFailure Unit :=
  fun (attached, token, desk) =>
    if !attached.isAttached then (.error (.refused .notInitialized), attached, token, desk)
    else
      let (result, memory, token) := solver.solve snapshot (attached.memory, token)
      let attached := { attached with memory }
      match result with
      | .error failure => (.error failure, attached, token, desk)
      | .ok schedule =>
        match token.check with
        | .error error => (.error (.refused error), attached, token, desk)
        | .ok () =>
          match Desk.updateSchedule schedule desk with
          | (.error error, desk) => (.error (.refused error), attached, token, desk)
          | (.ok (), desk) => (.ok (), attached, token, desk.doneForNow)

end BlockingSolver

end LiveFleet
