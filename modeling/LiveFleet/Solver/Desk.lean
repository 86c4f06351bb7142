/-
This file holds the desk at which one solver works on the newest snapshot of a
run. The simulation hands over snapshots; each opens a new generation, cancels
the computation of the one before, and makes the run follow the wall clock. A
worker takes the snapshots from a queue, skips those that are no longer the
newest, and computes. From within a computation, or from anywhere else, the
solver publishes schedules and says that it is done for now, which lets the run
go fast again. What comes from a computation that is no longer the newest is
ignored.

The worker and the simulation act independently. Every function of this file is
one indivisible step of one of them, so the behaviours of the desk are the
interleavings of these steps.
-/
import LiveFleet.Attempt
import LiveFleet.Pace
import LiveFleet.Schedule
import LiveFleet.Snapshot
import LiveFleet.Solver.Error

namespace LiveFleet

/-- A snapshot that waits to be computed. Generations count from one. -/
structure Job where
  generation : Nat
  snapshot : Snapshot

/-- A published schedule. Versions count from one. -/
structure Publication where
  version : Nat
  schedule : Schedule
  deriving DecidableEq, Repr

/-- What the worker is doing. -/
inductive WorkerPhase where
  /-- Waiting for a job. -/
  | waiting
  /-- Holding a job, and looking for newer ones in the queue. -/
  | draining (job : Job)
  /-- Holding the newest job of the queue, and about to compare it with the newest generation. -/
  | claiming (job : Job)
  /-- Inside the computation of a job. -/
  | computing (job : Job)
  /-- Out of its loop, with the queue still in its hands. -/
  | leaving
  /-- No longer there: nothing can be sent to it. -/
  | gone

/-- The state that the simulation, the worker and the solver share. -/
structure Desk where
  /-- The newest generation, and zero before the first snapshot. -/
  newest : Nat
  /-- The generation whose computation was started last. -/
  running : Nat
  /-- The last generation that the solver was done with. -/
  done : Nat
  /-- The number of vehicles in the snapshot of the running generation. -/
  vehicles : Nat
  /-- The generations whose tokens have been cancelled. -/
  cancelled : List Nat
  /-- The generation whose token the desk still holds. -/
  held : Option Nat
  /-- The first error of the solver that was not a mere cancellation. -/
  fault : Option SolverError
  /-- The schedule published last. -/
  published : Option Publication
  /-- The pace of the run. -/
  switch : PaceSwitch
  /-- The jobs that the worker has not taken yet, the oldest first. -/
  queue : List Job
  /-- The desk takes snapshots. -/
  isOpen : Bool
  /-- What the worker is doing. -/
  phase : WorkerPhase

namespace Desk

/-- A desk to which nothing has been handed over. -/
def opened (switch : PaceSwitch) : Desk :=
  { newest := 0
    running := 0
    done := 0
    vehicles := 0
    cancelled := []
    held := none
    fault := none
    published := none
    switch
    queue := []
    isOpen := true
    phase := .waiting }

/-! ### Looking at the desk -/

/-- The token of a generation. -/
def token (desk : Desk) (generation : Nat) : CancelToken :=
  ⟨desk.cancelled.contains generation⟩

/-- The worker is inside a computation. -/
def isComputing (desk : Desk) : Bool :=
  match desk.phase with
  | .computing _ => true
  | _ => false

/-- The newest snapshot has not been answered. -/
def isOutstanding (desk : Desk) : Bool := desk.done < desk.newest

/-- Refuse to go on once the solver has failed. -/
def checkHealth (desk : Desk) : Except SolverError Unit :=
  match desk.fault with
  | some error => .error error
  | none => .ok ()

/-- The version of the published schedule, and zero while there is none. -/
def version (desk : Desk) : Nat := (desk.published.map Publication.version).getD 0

/-- The schedule published last. -/
def currentSchedule (desk : Desk) : Except SolverError Schedule :=
  match desk.published with
  | some publication => .ok publication.schedule
  | none => .error .noSchedule

/-! ### What the simulation does -/

/-- Cancel the token of a generation. -/
def cancel (desk : Desk) (generation : Nat) : Desk :=
  { desk with cancelled := generation :: desk.cancelled }

/-- Cancel the token that the desk holds, if it holds one. -/
def cancelHeld (desk : Desk) : Desk :=
  match desk.held with
  | some generation => desk.cancel generation
  | none => desk

/-- Ask for a pace of the run. -/
def requestPace (desk : Desk) (pace : Pace) : Desk :=
  { desk with switch := desk.switch.request pace }

/-- Hand a snapshot over, and give it the next generation. The computation before it is cancelled
and the run follows the wall clock. A desk that is closed, or whose solver has failed, refuses. -/
def dispatch (snapshot : Snapshot) : Attempt Desk SolverError Nat := fun desk =>
  if !desk.isOpen then (.error .workerGone, desk)
  else
    match desk.fault with
    | some error => (.error error, desk)
    | none =>
      let generation := desk.newest + 1
      let paced :=
        ({ desk with newest := generation }.cancelHeld.requestPace .realTime)
      let handed : Desk := { paced with held := some generation }
      match handed.phase with
      | .gone =>
        (.error (handed.fault.getD .workerGone), handed.requestPace .simulated)
      | _ => (.ok generation, { handed with queue := handed.queue ++ [⟨generation, snapshot⟩] })

/-- Cancel the newest computation and close the desk. The worker leaves once it has emptied the
queue. -/
def shutdown (desk : Desk) : Desk := { desk.cancelHeld with held := none, isOpen := false }

/-! ### What the solver does -/

/-- Publish a schedule for the snapshot that is being computed. A schedule from a computation that
is no longer the newest is ignored; otherwise it must have one entry for each vehicle. -/
def updateSchedule (schedule : Schedule) : Attempt Desk SolverError Unit := fun desk =>
  if desk.running = 0 then (.error .noSnapshot, desk)
  else if desk.running ≠ desk.newest then (.ok (), desk)
  else if schedule.size ≠ desk.vehicles then
    (.error (.entryCountMismatch desk.vehicles schedule.size), desk)
  else (.ok (), { desk with published := some ⟨desk.version + 1, schedule⟩ })

/-- Say that the newest snapshot has been answered, which lets the run go fast again. Only the
first such call counts, and only from the newest computation. -/
def doneForNow (desk : Desk) : Desk :=
  if desk.running ≠ desk.newest || desk.done = desk.newest then desk
  else { desk with done := desk.newest }.requestPace .simulated

/-- End the computation of a job. A refusal to go on is expected once its token has been cancelled;
any other failure is a fault, which lets the run go fast again and sends the worker away. -/
def endComputation (desk : Desk) (job : Job) (outcome : Except SolverFailure Unit) : Desk :=
  let fault : Option SolverError :=
    match outcome with
    | .ok () => none
    | .error failure =>
      if failure = .refused .cancelled && (desk.token job.generation).isCancelled then none
      else some failure.error
  match fault with
  | none => { desk with phase := .waiting }
  | some error => { desk with fault := some error, phase := .leaving }.requestPace .simulated

/-! ### What the worker does -/

/-- One step of the worker, or of the solver that it runs. -/
inductive Move where
  /-- Take the oldest job from the queue. -/
  | take
  /-- Put the job aside for the next one of the queue. -/
  | takeNewer
  /-- Find the queue empty, and keep the job. -/
  | keep
  /-- Start the computation if the job is still the newest, and drop it otherwise. -/
  | claim
  /-- Publish a schedule. -/
  | publish (schedule : Schedule)
  /-- Say that the newest snapshot has been answered. -/
  | signalDone
  /-- Cancel the token of a generation. -/
  | cancel (generation : Nat)
  /-- End the computation. -/
  | finish (outcome : Except SolverFailure Unit)
  /-- Leave the loop because the desk is closed and the queue is empty, or give up the queue. -/
  | leave

/-- The desk after one step. A step that is not possible changes nothing. -/
def move (desk : Desk) : Move → Desk
  | .take =>
    match desk.phase, desk.queue with
    | .waiting, job :: rest => { desk with phase := .draining job, queue := rest }
    | _, _ => desk
  | .takeNewer =>
    match desk.phase, desk.queue with
    | .draining _, job :: rest => { desk with phase := .draining job, queue := rest }
    | _, _ => desk
  | .keep =>
    match desk.phase, desk.queue with
    | .draining job, [] => { desk with phase := .claiming job }
    | _, _ => desk
  | .claim =>
    match desk.phase with
    | .claiming job =>
      if job.generation = desk.newest then
        { desk with
          running := job.generation
          vehicles := job.snapshot.vehicles.length
          phase := .computing job }
      else { desk with phase := .waiting }
    | _ => desk
  | .publish schedule => (updateSchedule schedule desk).2
  | .signalDone => desk.doneForNow
  | .cancel generation => desk.cancel generation
  | .finish outcome =>
    match desk.phase with
    | .computing job => desk.endComputation job outcome
    | _ => desk
  | .leave =>
    match desk.phase with
    | .waiting =>
      if desk.queue.isEmpty && !desk.isOpen then { desk with phase := .leaving } else desk
    | .leaving => { desk with phase := .gone }
    | _ => desk

/-- The desk after several steps. -/
def moves (desk : Desk) (steps : List Move) : Desk := steps.foldl move desk

/-- The step by which a worker goes on that is not inside a computation, if it can go on. -/
def nextMove? (desk : Desk) : Option Move :=
  match desk.phase with
  | .waiting =>
    if desk.queue.isEmpty then if desk.isOpen then none else some .leave else some .take
  | .draining _ => some (if desk.queue.isEmpty then .keep else .takeNewer)
  | .claiming _ => some .claim
  | .computing _ => none
  | .leaving => some .leave
  | .gone => none

end Desk

/-- Whoever plays the worker and its solver against a simulation. Wherever the simulation touches
the desk, the worker takes a turn first: any number of steps, chosen from the desk as it is and from
surroundings of its own. -/
structure Worker (Surroundings : Type) where
  turn : Surroundings → Desk → Surroundings × List Desk.Move

end LiveFleet
