/-
This file holds the story of a desk: the snapshots that were handed over, the
computations that were started and have returned, the schedules that were
accepted, and the periods at the pace of the wall clock that are over. The story
is told by an onlooker who compares the desk before and after each action; the
desk itself does not know it. Every interleaving of the parties makes one story,
and the claims about a desk are claims about all of them.
-/
import LiveFleet.Proofs.Desk.Line

namespace LiveFleet

/-- A computation that was started, with the newest generation at that moment. -/
structure Start where
  job : Job
  newest : Nat

/-- A schedule that was accepted, with the generation that was running at that moment. -/
structure Acceptance where
  generation : Nat
  publication : Publication
  deriving DecidableEq

/-! ### What an onlooker sees -/

namespace Desk

/-- The snapshot that an action hands over, if the desk takes it. -/
def handed (desk : Desk) : Action → List Snapshot
  | .dispatch snapshot =>
    match (Desk.dispatch snapshot desk).1 with
    | .ok _ => [snapshot]
    | .error _ => []
  | _ => []

/-- The computation that the worker has entered between two moments. -/
def begun (before after : Desk) : List Start :=
  if before.isComputing then []
  else
    match after.phase with
    | .computing job => [⟨job, before.newest⟩]
    | _ => []

/-- The number of computations that have returned between two moments. -/
def returned (before after : Desk) : Nat :=
  if before.isComputing && !after.isComputing then 1 else 0

/-- The schedule that was accepted between two moments. -/
def accepted (before after : Desk) : List Acceptance :=
  if after.published = before.published then []
  else (after.published.map fun publication => ⟨before.running, publication⟩).toList

/-- The number of periods at the pace of the wall clock that have ended between two moments. -/
def relaxed (before after : Desk) : Nat :=
  if before.switch.pace = .realTime && after.switch.pace = .simulated then 1 else 0

theorem begun_of_phase {before after : Desk} (same : after.phase = before.phase) :
    begun before after = [] := by
  unfold begun isComputing
  rw [same]
  cases before.phase <;> rfl

theorem accepted_of_published {before after : Desk} (same : after.published = before.published) :
    accepted before after = [] :=
  if_pos same

end Desk

/-- A desk and its story so far. -/
structure Session where
  desk : Desk
  /-- The snapshots that were handed over, the first generation first. -/
  snapshots : List Snapshot
  /-- The computations that were started, the oldest first. -/
  starts : List Start
  /-- The number of computations that have returned. -/
  returns : Nat
  /-- The schedules that were accepted, the oldest first. -/
  acceptances : List Acceptance
  /-- The number of periods at the pace of the wall clock that are over. -/
  periods : Nat

namespace Session

open Desk

/-- A desk at which nothing has happened. -/
def opened (switch : PaceSwitch) : Session := ⟨.opened switch, [], [], 0, [], 0⟩

/-- The story goes on with one action. -/
def step (session : Session) (action : Action) : Session :=
  let before := session.desk
  let after := before.act action
  { desk := after
    snapshots := session.snapshots ++ before.handed action
    starts := session.starts ++ begun before after
    returns := session.returns + returned before after
    acceptances := session.acceptances ++ accepted before after
    periods := session.periods + relaxed before after }

/-- The story of a desk at which the given actions have happened, in order. -/
def run (switch : PaceSwitch) (actions : List Action) : Session :=
  actions.foldl step (opened switch)

/-- The snapshot of a generation. Generations count from one. -/
def snapshot? (session : Session) : Nat → Option Snapshot
  | 0 => none
  | earlier + 1 => session.snapshots[earlier]?

/-- What holds at some moment and is kept by every action holds at every later moment. -/
theorem later_induction (Holds : Session → Prop)
    (kept : ∀ session action, Holds session → Holds (session.step action))
    (actions : List Action) {session : Session} (holds : Holds session) :
    Holds (actions.foldl step session) := by
  induction actions generalizing session with
  | nil => exact holds
  | cons action rest inductionHypothesis => exact inductionHypothesis (kept session action holds)

/-- What holds of a new desk and is kept by every action holds of every story. -/
theorem run_induction (Holds : Session → Prop) {switch : PaceSwitch}
    (first : Holds (opened switch))
    (kept : ∀ session action, Holds session → Holds (session.step action))
    (actions : List Action) : Holds (run switch actions) :=
  later_induction Holds kept actions first

theorem run_append (switch : PaceSwitch) (early late : List Action) :
    run switch (early ++ late) = late.foldl step (run switch early) :=
  List.foldl_append

theorem run_desk (switch : PaceSwitch) (actions : List Action) :
    (run switch actions).desk = (Desk.opened switch).acts actions := by
  have later : ∀ session : Session,
      (actions.foldl step session).desk = session.desk.acts actions := by
    induction actions with
    | nil => exact fun _ => rfl
    | cons action rest inductionHypothesis =>
      exact fun session => inductionHypothesis (session.step action)
  exact later _

/-- The snapshot of a generation stays what it is. -/
theorem snapshot?_step {session : Session} {generation : Nat} {snapshot : Snapshot}
    (known : session.snapshot? generation = some snapshot) (action : Action) :
    (session.step action).snapshot? generation = some snapshot := by
  cases generation with
  | zero => cases known
  | succ earlier =>
    obtain ⟨inside, -⟩ := List.getElem?_eq_some_iff.1 known
    exact (List.getElem?_append_left inside).trans known

end Session

/-! ### What one action adds to the story -/

namespace Desk

variable {before after : Desk} {action : Action}

/-- An action begins the newest job that waits, or it begins none. -/
theorem begun_cases (effect : Effect before action after) :
    (begun before after = [] ∧ after.running = before.running ∧ after.vehicles = before.vehicles) ∨
      ∃ job ∈ before.pending, job.generation = before.newest ∧
        begun before after = [⟨job, before.newest⟩] ∧ after.running = job.generation ∧
          after.vehicles = job.snapshot.vehicles.length := by
  cases effect with
  | started claiming isNewest =>
    refine .inr ⟨_, ?_, isNewest, ?_, rfl, rfl⟩
    · rw [pending, claiming]
      exact List.mem_append_left _ (List.mem_singleton_self _)
    · simp [begun, isComputing, claiming]
  | took | tookNewer | kept | dropped | ended | failed | dismissed | departed =>
    exact .inl ⟨by simp [begun], rfl, rfl⟩
  | _ => exact .inl ⟨begun_of_phase rfl, rfl, rfl⟩

/-- At every moment the computations that were begun and have not returned are the one that the
worker is inside of. -/
theorem begun_returned (before after : Desk) :
    (begun before after).length + (if before.isComputing then 1 else 0) =
      returned before after + if after.isComputing then 1 else 0 := by
  unfold begun returned
  cases before.isComputing with
  | true => cases after.isComputing <;> rfl
  | false =>
    unfold isComputing
    cases after.phase <;> rfl

/-- An action hands over a snapshot, which then waits as the newest job, or it adds no job. -/
theorem handed_cases (inLine : before.InLine) (effect : Effect before action after) :
    (before.handed action = [] ∧ after.newest = before.newest ∧
        ∀ job ∈ after.pending, job ∈ before.pending) ∨
      ∃ snapshot, before.handed action = [snapshot] ∧ after.newest = before.newest + 1 ∧
        ∀ job ∈ after.pending, job ∈ before.pending ∨ job = ⟨before.newest + 1, snapshot⟩ := by
  cases effect with
  | refused snapshot reason =>
    obtain ⟨error, refused⟩ := dispatch_of_refused reason snapshot
    exact .inl ⟨by rw [handed, refused], rfl, fun _ waits => waits⟩
  | handedOver snapshot isOpen healthy staffed =>
    refine .inr ⟨snapshot, ?_, rfl, ?_⟩
    · rw [handed, dispatch_of_staffed isOpen healthy staffed]
    · intro job waits
      rw [pending, ← List.append_assoc, List.mem_append, List.mem_singleton] at waits
      exact waits
  | lost snapshot isOpen healthy gone =>
    exact absurd gone (inLine.staffed isOpen healthy)
  | took waiting queued =>
    refine .inl ⟨rfl, rfl, ?_⟩
    intro job waits
    rw [pending, waiting, queued]
    exact waits
  | tookNewer draining queued =>
    refine .inl ⟨rfl, rfl, ?_⟩
    intro job waits
    rw [pending, draining, queued]
    exact .tail _ waits
  | kept draining emptied =>
    refine .inl ⟨rfl, rfl, ?_⟩
    intro job waits
    rw [pending, draining]
    exact waits
  | started | dropped | ended | failed | dismissed | departed =>
    exact .inl ⟨rfl, rfl, fun job waits => List.mem_append_right _ waits⟩
  | _ => exact .inl ⟨rfl, rfl, fun job waits => waits⟩

end Desk

end LiveFleet
