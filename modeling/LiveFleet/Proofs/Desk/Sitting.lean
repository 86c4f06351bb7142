/-
This file holds the sittings of a worker: the stories of a desk that nobody closes,
at which snapshots of a fleet are handed over and the worker takes its turns, each
as it would in a run. What a solver is said to do, it does in every sitting of it.
In a sitting the first fault that is stored at the desk stays there for good.
-/
import LiveFleet.Proofs.Desk.Publication
import LiveFleet.Proofs.Solver.Convention

namespace LiveFleet

/-! ### A desk that nobody closes -/

namespace Desk

/-- The desk of a run that knows of a fault: it is open, and a solver that has failed computes
nothing more. -/
structure Retains (fault : Option SolverError) (desk : Desk) : Prop where
  inLine : desk.InLine
  isOpen : desk.isOpen = true
  settled : desk.fault ≠ none → desk.phase.hasLeft = true
  kept : fault ≠ none → desk.fault = fault

/-- A move hands nothing over and mends no fault. It leaves the board alone or puts the next version
on it. -/
theorem move_cases (desk : Desk) (step : Move) :
    (desk.move step).newest = desk.newest ∧
      ((desk.move step).fault = none → desk.fault = none) ∧
      ((desk.move step).published = desk.published ∨
        ∃ schedule, (desk.move step).published = some ⟨desk.version + 1, schedule⟩) := by
  have effect := move_effect desk step
  generalize desk.move step = after at effect
  cases effect with
  | published schedule => exact ⟨rfl, id, .inr ⟨schedule, rfl⟩⟩
  | failed => exact ⟨rfl, nofun, .inl rfl⟩
  | _ => exact ⟨rfl, id, .inl rfl⟩

namespace Retains

variable {fault : Option SolverError} {desk : Desk}

theorem opened (switch : PaceSwitch) : (Desk.opened switch).Retains none where
  inLine := .opened switch
  isOpen := rfl
  settled := fun faulty => absurd rfl faulty
  kept := fun faulty => absurd rfl faulty

/-- What the desk knows of itself. -/
theorem now (retains : desk.Retains fault) : desk.Retains desk.fault :=
  ⟨retains.inLine, retains.isOpen, retains.settled, fun _ => rfl⟩

/-- A worker that is inside its loop has no fault behind it. -/
theorem healthy (retains : desk.Retains fault) (inside : desk.phase.hasLeft = false) :
    desk.fault = none := by
  by_cases faulty : desk.fault = none
  · exact faulty
  · rw [retains.settled faulty] at inside
    cases inside

theorem act (retains : desk.Retains fault) (action : Action) (staysOpen : action ≠ .shutdown) :
    (desk.act action).Retains fault := by
  have inLine := retains.inLine.act action
  have effect := act_effect desk action
  generalize desk.act action = after at effect inLine
  have known := retains.kept
  cases effect with
  | closed => exact absurd rfl staysOpen
  | took waiting | dropped waiting | tookNewer waiting | kept waiting | started waiting
  | ended _ waiting =>
    have healthy : desk.fault = none := retains.healthy (by rw [waiting]; rfl)
    exact ⟨inLine, retains.isOpen, fun faulty => absurd healthy faulty, known⟩
  | failed failure computing unexpected =>
    have healthy : desk.fault = none := retains.healthy (by rw [computing]; rfl)
    refine ⟨inLine, retains.isOpen, fun _ => rfl, fun faulty => ?_⟩
    have earlier := known faulty
    rw [healthy] at earlier
    exact absurd earlier.symm faulty
  | dismissed waiting emptied isClosed =>
    rw [retains.isOpen] at isClosed
    cases isClosed
  | departed leaving => exact ⟨inLine, retains.isOpen, fun _ => rfl, known⟩
  | lost snapshot isOpen healthy gone => exact absurd gone (retains.inLine.staffed isOpen healthy)
  | _ => exact ⟨inLine, retains.isOpen, retains.settled, known⟩

theorem moves (retains : desk.Retains fault) (steps : List Move) :
    (desk.moves steps).Retains fault := by
  induction steps generalizing desk with
  | nil => exact retains
  | cons step rest inductionHypothesis =>
    exact inductionHypothesis (retains.act (.move step) (Action.move_ne_shutdown step))

/-- A snapshot is refused because of a fault, or becomes the newest one. -/
theorem handed_cases (retains : desk.Retains fault) (snapshot : Snapshot) :
    (desk.fault ≠ none ∧ desk.act (.dispatch snapshot) = desk ∧
        desk.handed (.dispatch snapshot) = []) ∨
      ((desk.act (.dispatch snapshot)).newest = desk.newest + 1 ∧
        (desk.act (.dispatch snapshot)).published = desk.published ∧
          desk.handed (.dispatch snapshot) = [snapshot]) := by
  cases faulty : desk.fault with
  | none =>
    have taken := dispatch_of_staffed retains.isOpen faulty
      (retains.inLine.staffed retains.isOpen faulty) snapshot
    refine .inr ⟨congrArg (fun outcome => outcome.2.newest) taken,
      congrArg (fun outcome => outcome.2.published) taken, ?_⟩
    rw [handed, taken]
  | some error =>
    obtain ⟨_, refused⟩ := dispatch_of_refused (.inr (faulty ▸ Option.some_ne_none error)) snapshot
    refine .inl ⟨Option.some_ne_none error, congrArg Prod.snd refused, ?_⟩
    rw [handed, refused]

/-- A dispatch that fails names the fault. -/
theorem fault_of_dispatch (retains : desk.Retains fault) {snapshot : Snapshot}
    {error : SolverError} {after : Desk}
    (refused : Desk.dispatch snapshot desk = (.error error, after)) :
    desk.fault = some error ∧ after = desk := by
  cases faulty : desk.fault with
  | none =>
    have staffed := retains.inLine.staffed retains.isOpen faulty
    rw [dispatch_of_staffed retains.isOpen faulty staffed] at refused
    cases refused
  | some stored =>
    unfold Desk.dispatch at refused
    rw [retains.isOpen, faulty] at refused
    cases refused
    exact ⟨rfl, rfl⟩

end Retains

end Desk

/-! ### Stories with several moves -/

namespace Session

open Desk

variable {session : Session}

/-- The story goes on with several moves of the worker. -/
def moves (session : Session) (steps : List Move) : Session :=
  steps.foldl (fun session step => session.step (.move step)) session

theorem moves_desk (session : Session) (steps : List Move) :
    (session.moves steps).desk = session.desk.moves steps := by
  induction steps generalizing session with
  | nil => rfl
  | cons step rest inductionHypothesis => exact inductionHypothesis (session.step (.move step))

theorem moves_append (session : Session) (first second : List Move) :
    session.moves (first ++ second) = (session.moves first).moves second :=
  List.foldl_append

/-- What every move keeps holds after any number of them. -/
theorem moves_induction {Holds : Session → Prop}
    (kept : ∀ session step, Holds session → Holds (session.step (.move step)))
    (holds : Holds session) (steps : List Move) : Holds (session.moves steps) := by
  induction steps generalizing session with
  | nil => exact holds
  | cons step rest inductionHypothesis => exact inductionHypothesis (kept session step holds)

/-- The worker hands nothing over. -/
theorem step_move_snapshots (session : Session) (step : Move) :
    (session.step (.move step)).snapshots = session.snapshots :=
  List.append_nil _

theorem moves_snapshots (session : Session) (steps : List Move) :
    (session.moves steps).snapshots = session.snapshots :=
  moves_induction (fun before step same => (step_move_snapshots before step).trans same) rfl steps

theorem mem_of_snapshot? {generation : Nat} {snapshot : Snapshot}
    (known : session.snapshot? generation = some snapshot) : snapshot ∈ session.snapshots := by
  cases generation with
  | zero => cases known
  | succ earlier => exact List.mem_of_getElem? known

/-- Only what is dispatched is handed over. -/
theorem eq_of_handed {desk : Desk} {snapshot other : Snapshot}
    (handed : other ∈ desk.handed (.dispatch snapshot)) : other = snapshot := by
  dsimp only [Desk.handed] at handed
  split at handed
  · exact List.mem_singleton.1 handed
  · cases handed

/-- The generation behind the schedule that was accepted last, and zero before the first one. -/
def lastAccepted (session : Session) : Nat :=
  (session.acceptances.getLast?.map Acceptance.generation).getD 0

theorem getLast?_of_lastAccepted (shown : session.lastAccepted ≠ 0) :
    ∃ acceptance, session.acceptances.getLast? = some acceptance ∧
      acceptance.generation = session.lastAccepted := by
  unfold lastAccepted at shown ⊢
  cases last : session.acceptances.getLast? with
  | none =>
    rw [last] at shown
    exact absurd rfl shown
  | some acceptance => exact ⟨acceptance, rfl, rfl⟩

/-- The newest generation belongs to the snapshot that was handed over last. -/
theorem Recorded.snapshot?_newest (recorded : session.Recorded) :
    session.snapshot? session.desk.newest = session.snapshots.getLast? := by
  rw [List.getLast?_eq_getElem?, recorded.counted]
  cases none : session.desk.newest with
  | zero =>
    rw [List.eq_nil_of_length_eq_zero (recorded.counted.trans none)]
    rfl
  | succ earlier => rfl

/-- An action that leaves the board alone adds no schedule to the story. -/
theorem acceptances_step_of_same {action : Action}
    (same : (session.desk.act action).published = session.desk.published) :
    (session.step action).acceptances = session.acceptances := by
  show session.acceptances ++ accepted session.desk (session.desk.act action) = _
  rw [accepted_of_published same, List.append_nil]

theorem lastAccepted_step_of_same {action : Action}
    (same : (session.desk.act action).published = session.desk.published) :
    (session.step action).lastAccepted = session.lastAccepted := by
  rw [lastAccepted, acceptances_step_of_same same]
  rfl

/-- A schedule that the desk shows is the last of the story. -/
theorem acceptances_step_of_shown {schedule : Schedule}
    (shown : session.desk.move (.publish schedule) =
      { session.desk with published := some ⟨session.desk.version + 1, schedule⟩ }) :
    (session.step (.move (.publish schedule))).acceptances =
      session.acceptances ++
        [⟨session.desk.running, ⟨session.desk.version + 1, schedule⟩⟩] := by
  show session.acceptances ++ accepted session.desk (session.desk.move _) = _
  rw [shown, accepted, if_neg (next_ne_published session.desk schedule)]
  rfl

theorem lastAccepted_step_of_shown {schedule : Schedule}
    (shown : session.desk.move (.publish schedule) =
      { session.desk with published := some ⟨session.desk.version + 1, schedule⟩ }) :
    (session.step (.move (.publish schedule))).lastAccepted = session.desk.running := by
  rw [lastAccepted, acceptances_step_of_shown shown, List.getLast?_concat]
  rfl

/-- No schedule was accepted for a generation that was not yet begun. -/
theorem Published.lastAccepted_le (published : session.Published) :
    session.lastAccepted ≤ session.desk.running := by
  unfold lastAccepted
  cases last : session.acceptances.getLast? with
  | none => exact Nat.zero_le _
  | some acceptance => exact published.bounded acceptance (List.mem_of_getLast? last)

end Session

/-! ### Sittings -/

/-- The stories in which a worker, from its first surroundings on, takes its turns while snapshots
are handed over; and the surroundings in which each of them leaves it. -/
inductive Sitting {Surroundings : Type} (worker : Worker Surroundings) (first : Surroundings) :
    Surroundings → Session → Prop where
  | opened (switch : PaceSwitch) : Sitting worker first first (.opened switch)
  | turned {surroundings : Surroundings} {session : Session}
      (sitting : Sitting worker first surroundings session) :
      Sitting worker first (worker.turn surroundings session.desk).1
        (session.moves (worker.turn surroundings session.desk).2)
  | handed {surroundings : Surroundings} {session : Session}
      (sitting : Sitting worker first surroundings session) (snapshot : Snapshot)
      (sound : snapshot.IsSound) :
      Sitting worker first surroundings (session.step (.dispatch snapshot))

/-- In every sitting, each schedule that is accepted from the worker fits the snapshot that it
answers. -/
def Worker.Publishes {Surroundings : Type} (worker : Worker Surroundings) (first : Surroundings)
    (Fits : Snapshot → Schedule → Prop) : Prop :=
  ∀ surroundings session, Sitting worker first surroundings session →
    ∀ acceptance ∈ session.acceptances, ∀ snapshot,
      session.snapshot? acceptance.generation = some snapshot →
        Fits snapshot acceptance.publication.schedule

theorem Worker.Publishes.mono {Surroundings : Type} {worker : Worker Surroundings}
    {first : Surroundings} {Fits Suits : Snapshot → Schedule → Prop}
    (publishes : worker.Publishes first Fits)
    (implies : ∀ snapshot schedule, Fits snapshot schedule → Suits snapshot schedule) :
    worker.Publishes first Suits :=
  fun surroundings session sitting acceptance accepted snapshot known =>
    implies _ _ (publishes surroundings session sitting acceptance accepted snapshot known)

namespace Sitting

open Desk

variable {Surroundings : Type} {worker : Worker Surroundings} {first surroundings : Surroundings}
  {session : Session}

/-- What the moves of workers and the handing over of snapshots keep holds in every sitting. -/
theorem keeps (Holds : Session → Prop) (opens : ∀ switch, Holds (.opened switch))
    (moves : ∀ session step, Holds session → Holds (session.step (.move step)))
    (hands : ∀ session snapshot, snapshot.IsSound → Holds session →
      Holds (session.step (.dispatch snapshot)))
    (sitting : Sitting worker first surroundings session) : Holds session := by
  induction sitting with
  | opened switch => exact opens switch
  | turned sitting inductionHypothesis =>
    exact Session.moves_induction moves inductionHypothesis _
  | handed sitting snapshot sound inductionHypothesis =>
    exact hands _ snapshot sound inductionHypothesis

/-- Sittings are stories of a desk. -/
theorem told (sitting : Sitting worker first surroundings session) :
    session.Recorded ∧ session.Published := by
  refine sitting.keeps (fun session => session.Recorded ∧ session.Published) (fun switch => ?_)
    (fun session step told => ?_) fun session snapshot _ told => ?_
  · exact ⟨Session.recorded_opened switch, Session.published_opened switch⟩
  · exact ⟨told.1.step _, told.2.step told.1 _⟩
  · exact ⟨told.1.step _, told.2.step told.1 _⟩

/-- Nobody closes the desk. -/
theorem retains (sitting : Sitting worker first surroundings session) :
    session.desk.Retains none :=
  sitting.keeps (fun session => session.desk.Retains none) .opened
    (fun _ step retains => retains.act (.move step) (Action.move_ne_shutdown step))
    fun _ snapshot _ retains =>
      retains.act (.dispatch snapshot) (Action.dispatch_ne_shutdown snapshot)

end Sitting

end LiveFleet
