/-
This file holds the actions of all parties at a desk, and says once what each of
them can do. The simulation dispatches and closes, the worker and the solver
move; an interleaving of the parties is a list of actions. The list of effects is
complete: an action either leaves the desk as it is or has the effect that is
given here, under the conditions that are given with it. What a run of a desk
keeps is read off these effects and never off the operations themselves.
-/
import LiveFleet.Solver.Desk

namespace LiveFleet.Desk

/-- What one of the parties does at a desk. -/
inductive Action where
  | dispatch (snapshot : Snapshot)
  | shutdown
  | move (step : Move)

theorem Action.move_ne_shutdown (step : Move) : Action.move step ≠ .shutdown := nofun

theorem Action.dispatch_ne_shutdown (snapshot : Snapshot) : Action.dispatch snapshot ≠ .shutdown :=
  nofun

/-- The desk after one action. -/
def act (desk : Desk) : Action → Desk
  | .dispatch snapshot => (Desk.dispatch snapshot desk).2
  | .shutdown => desk.shutdown
  | .move step => desk.move step

/-- The desk after several actions, in order. -/
def acts (desk : Desk) (actions : List Action) : Desk := actions.foldl act desk

theorem acts_append (desk : Desk) (first second : List Action) :
    desk.acts (first ++ second) = (desk.acts first).acts second :=
  List.foldl_append

/-- What every action keeps holds after any number of them. -/
theorem acts_induction (Holds : Desk → Prop)
    (kept : ∀ desk action, Holds desk → Holds (desk.act action)) (actions : List Action) :
    ∀ {desk : Desk}, Holds desk → Holds (desk.acts actions) := by
  induction actions with
  | nil => exact id
  | cons action rest inductionHypothesis =>
    exact fun holds => inductionHypothesis (kept _ action holds)

theorem acts_moves (desk : Desk) (steps : List Move) :
    desk.acts (steps.map .move) = desk.moves steps :=
  List.foldl_map

/-- The second desk is what the parties make of the first. -/
def LeadsTo (before after : Desk) : Prop := ∃ actions, after = before.acts actions

namespace LeadsTo

variable {first second third : Desk}

theorem refl : first.LeadsTo first := ⟨[], rfl⟩

theorem trans (early : first.LeadsTo second) (late : second.LeadsTo third) :
    first.LeadsTo third := by
  obtain ⟨actions, rfl⟩ := early
  obtain ⟨others, rfl⟩ := late
  exact ⟨actions ++ others, (acts_append first actions others).symm⟩

theorem dispatch (desk : Desk) (snapshot : Snapshot) :
    desk.LeadsTo (Desk.dispatch snapshot desk).2 := ⟨[.dispatch snapshot], rfl⟩

theorem moves (desk : Desk) (steps : List Move) : desk.LeadsTo (desk.moves steps) :=
  ⟨steps.map .move, (acts_moves desk steps).symm⟩

end LeadsTo

theorem cancelHeld_eq (desk : Desk) :
    desk.cancelHeld = { desk with cancelled := desk.held.toList ++ desk.cancelled } := by
  obtain ⟨_, _, _, _, _, held, _, _, _, _, _, _⟩ := desk
  cases held <;> rfl

/-! ### The effects of actions -/

/-- The failure of a computation is nothing but its giving up after its token was cancelled. -/
def IsExpected (desk : Desk) (job : Job) (failure : SolverFailure) : Prop :=
  failure = .refused .cancelled ∧ (desk.token job.generation).isCancelled = true

/-- The desk that an action leads to. -/
inductive Effect (desk : Desk) : Action → Desk → Prop where
  | nothing (step : Move) : Effect desk (.move step) desk
  | refused (snapshot : Snapshot) (reason : desk.isOpen = false ∨ desk.fault ≠ none) :
      Effect desk (.dispatch snapshot) desk
  | handedOver (snapshot : Snapshot) (isOpen : desk.isOpen = true) (healthy : desk.fault = none)
      (staffed : desk.phase ≠ .gone) :
      Effect desk (.dispatch snapshot)
        { desk with
          newest := desk.newest + 1
          cancelled := desk.held.toList ++ desk.cancelled
          held := some (desk.newest + 1)
          switch := desk.switch.request .realTime
          queue := desk.queue ++ [⟨desk.newest + 1, snapshot⟩] }
  | lost (snapshot : Snapshot) (isOpen : desk.isOpen = true) (healthy : desk.fault = none)
      (gone : desk.phase = .gone) :
      Effect desk (.dispatch snapshot)
        { desk with
          newest := desk.newest + 1
          cancelled := desk.held.toList ++ desk.cancelled
          held := some (desk.newest + 1)
          switch := (desk.switch.request .realTime).request .simulated }
  | closed :
      Effect desk .shutdown
        { desk with
          cancelled := desk.held.toList ++ desk.cancelled
          held := none
          isOpen := false }
  | took {job : Job} {rest : List Job} (waiting : desk.phase = .waiting)
      (queued : desk.queue = job :: rest) :
      Effect desk (.move .take) { desk with phase := .draining job, queue := rest }
  | tookNewer {older job : Job} {rest : List Job} (draining : desk.phase = .draining older)
      (queued : desk.queue = job :: rest) :
      Effect desk (.move .takeNewer) { desk with phase := .draining job, queue := rest }
  | kept {job : Job} (draining : desk.phase = .draining job) (emptied : desk.queue = []) :
      Effect desk (.move .keep) { desk with phase := .claiming job }
  | started {job : Job} (claiming : desk.phase = .claiming job)
      (isNewest : job.generation = desk.newest) :
      Effect desk (.move .claim)
        { desk with
          running := job.generation
          vehicles := job.snapshot.vehicles.length
          phase := .computing job }
  | dropped {job : Job} (claiming : desk.phase = .claiming job)
      (superseded : job.generation ≠ desk.newest) :
      Effect desk (.move .claim) { desk with phase := .waiting }
  | published (schedule : Schedule) (begun : desk.running ≠ 0)
      (isNewest : desk.running = desk.newest) (fits : schedule.size = desk.vehicles) :
      Effect desk (.move (.publish schedule))
        { desk with published := some ⟨desk.version + 1, schedule⟩ }
  | answered (isNewest : desk.running = desk.newest) (unanswered : desk.done ≠ desk.newest) :
      Effect desk (.move .signalDone)
        { desk with done := desk.newest, switch := desk.switch.request .simulated }
  | cancelled (generation : Nat) :
      Effect desk (.move (.cancel generation))
        { desk with cancelled := generation :: desk.cancelled }
  | ended {job : Job} (outcome : Except SolverFailure Unit)
      (computing : desk.phase = .computing job)
      (expected : ∀ failure, outcome = .error failure → desk.IsExpected job failure) :
      Effect desk (.move (.finish outcome)) { desk with phase := .waiting }
  | failed {job : Job} (failure : SolverFailure) (computing : desk.phase = .computing job)
      (unexpected : ¬ desk.IsExpected job failure) :
      Effect desk (.move (.finish (.error failure)))
        { desk with
          fault := some failure.error
          phase := .leaving
          switch := desk.switch.request .simulated }
  | dismissed (waiting : desk.phase = .waiting) (emptied : desk.queue = [])
      (isClosed : desk.isOpen = false) :
      Effect desk (.move .leave) { desk with phase := .leaving }
  | departed (leaving : desk.phase = .leaving) :
      Effect desk (.move .leave) { desk with phase := .gone }

/-! ### Every action has one of the effects -/

/-- A desk that is closed, or whose solver has failed, takes no snapshot and stays as it is. -/
theorem dispatch_of_refused {desk : Desk} (reason : desk.isOpen = false ∨ desk.fault ≠ none)
    (snapshot : Snapshot) :
    ∃ error, Desk.dispatch snapshot desk = (.error error, desk) := by
  unfold Desk.dispatch
  split
  · exact ⟨_, rfl⟩
  · rename_i notClosed
    split
    · exact ⟨_, rfl⟩
    · rename_i healthy
      rcases reason with isClosed | faulty
      · rw [isClosed] at notClosed
        exact absurd rfl notClosed
      · exact absurd healthy faulty

/-- A desk that is open and staffed takes a snapshot, which becomes the newest job. -/
theorem dispatch_of_staffed {desk : Desk} (isOpen : desk.isOpen = true)
    (healthy : desk.fault = none) (staffed : desk.phase ≠ .gone) (snapshot : Snapshot) :
    Desk.dispatch snapshot desk =
      (.ok (desk.newest + 1),
        { desk with
          newest := desk.newest + 1
          cancelled := desk.held.toList ++ desk.cancelled
          held := some (desk.newest + 1)
          switch := desk.switch.request .realTime
          queue := desk.queue ++ [⟨desk.newest + 1, snapshot⟩] }) := by
  unfold Desk.dispatch
  rw [isOpen, if_neg (by decide)]
  split
  · rename_i faulty
    rw [healthy] at faulty
    cases faulty
  · simp only [cancelHeld_eq, requestPace]

/-- A snapshot for a worker that is not there is lost. -/
theorem dispatch_of_gone {desk : Desk} (isOpen : desk.isOpen = true) (healthy : desk.fault = none)
    (gone : desk.phase = .gone) (snapshot : Snapshot) :
    Desk.dispatch snapshot desk =
      (.error .workerGone,
        { desk with
          newest := desk.newest + 1
          cancelled := desk.held.toList ++ desk.cancelled
          held := some (desk.newest + 1)
          switch := (desk.switch.request .realTime).request .simulated }) := by
  unfold Desk.dispatch
  rw [isOpen, if_neg (by decide)]
  split
  · rename_i faulty
    rw [healthy] at faulty
    cases faulty
  · simp only [cancelHeld_eq, requestPace, gone, healthy, Option.getD_none]

theorem dispatch_effect (desk : Desk) (snapshot : Snapshot) :
    Effect desk (.dispatch snapshot) (Desk.dispatch snapshot desk).2 := by
  by_cases reason : desk.isOpen = false ∨ desk.fault ≠ none
  · obtain ⟨error, refused⟩ := dispatch_of_refused reason snapshot
    rw [refused]
    exact .refused snapshot reason
  · rw [not_or, Bool.not_eq_false, Decidable.not_not] at reason
    obtain ⟨isOpen, healthy⟩ := reason
    cases present : desk.phase with
    | gone =>
      rw [dispatch_of_gone isOpen healthy present]
      exact .lost snapshot isOpen healthy present
    | _ =>
      have staffed : desk.phase ≠ .gone := by simp [present]
      rw [dispatch_of_staffed isOpen healthy staffed]
      exact .handedOver snapshot isOpen healthy staffed

theorem updateSchedule_effect (desk : Desk) (schedule : Schedule) :
    Effect desk (.move (.publish schedule)) (updateSchedule schedule desk).2 := by
  unfold updateSchedule
  split
  · exact .nothing _
  · rename_i begun
    split
    · exact .nothing _
    · rename_i current
      split
      · exact .nothing _
      · rename_i fitting
        exact .published schedule begun (Decidable.not_not.1 current)
          (Decidable.not_not.1 fitting)

theorem doneForNow_effect (desk : Desk) : Effect desk (.move .signalDone) desk.doneForNow := by
  unfold doneForNow
  split
  · exact .nothing _
  · rename_i counts
    simp only [Bool.or_eq_true, decide_eq_true_eq, not_or] at counts
    exact .answered (Decidable.not_not.1 counts.1) counts.2

theorem finish_effect {desk : Desk} {job : Job} (computing : desk.phase = .computing job)
    (outcome : Except SolverFailure Unit) :
    Effect desk (.move (.finish outcome)) (desk.endComputation job outcome) := by
  cases outcome with
  | ok answer =>
    exact .ended (.ok answer) computing fun _ failed => nomatch failed
  | error failure =>
    by_cases expected : desk.IsExpected job failure
    · have unchanged :
          desk.endComputation job (.error failure) = { desk with phase := .waiting } := by
        simp [endComputation, expected.1, expected.2]
      rw [unchanged]
      refine .ended (.error failure) computing ?_
      intro other same
      cases same
      exact expected
    · have faulty : desk.endComputation job (.error failure) =
          { desk with
            fault := some failure.error
            phase := .leaving
            switch := desk.switch.request .simulated } := by
        unfold IsExpected at expected
        simp [endComputation, requestPace, expected]
      rw [faulty]
      exact .failed failure computing expected

theorem move_effect (desk : Desk) (step : Move) : Effect desk (.move step) (desk.move step) := by
  cases step with
  | take =>
    dsimp only [Desk.move]
    split
    · rename_i waiting queued
      exact .took waiting queued
    · exact .nothing _
  | takeNewer =>
    dsimp only [Desk.move]
    split
    · rename_i draining queued
      exact .tookNewer draining queued
    · exact .nothing _
  | keep =>
    dsimp only [Desk.move]
    split
    · rename_i draining emptied
      exact .kept draining emptied
    · exact .nothing _
  | claim =>
    dsimp only [Desk.move]
    split
    · rename_i claiming
      split
      · rename_i isNewest
        exact .started claiming isNewest
      · rename_i superseded
        exact .dropped claiming superseded
    · exact .nothing _
  | publish schedule => exact updateSchedule_effect desk schedule
  | signalDone => exact doneForNow_effect desk
  | cancel generation => exact .cancelled generation
  | finish outcome =>
    dsimp only [Desk.move]
    split
    · rename_i computing
      exact finish_effect computing outcome
    · exact .nothing _
  | leave =>
    dsimp only [Desk.move]
    split
    · rename_i waiting
      split
      · rename_i idle
        simp only [Bool.and_eq_true, List.isEmpty_iff, Bool.not_eq_true'] at idle
        exact .dismissed waiting idle.1 idle.2
      · exact .nothing _
    · rename_i leaving
      exact .departed leaving
    · exact .nothing _

theorem act_shutdown (desk : Desk) :
    desk.act .shutdown =
      { desk with
        cancelled := desk.held.toList ++ desk.cancelled
        held := none
        isOpen := false } := by
  rw [act, shutdown, cancelHeld_eq]

/-- An action has one of the effects. -/
theorem act_effect (desk : Desk) (action : Action) : Effect desk action (desk.act action) := by
  cases action with
  | dispatch snapshot => exact dispatch_effect desk snapshot
  | shutdown =>
    rw [act_shutdown]
    exact .closed
  | move step => exact move_effect desk step

/-! ### The closing of a desk -/

/-- The shutdown closes a desk, and nothing else does, nor does anything open it again. -/
theorem isOpen_act_iff {desk : Desk} {action : Action} :
    (desk.act action).isOpen = true ↔ desk.isOpen = true ∧ action ≠ .shutdown := by
  have effect := act_effect desk action
  generalize desk.act action = after at effect
  cases effect with
  | closed => simp
  | _ => simp

theorem isOpen_acts_iff {desk : Desk} {actions : List Action} :
    (desk.acts actions).isOpen = true ↔ desk.isOpen = true ∧ Action.shutdown ∉ actions := by
  induction actions generalizing desk with
  | nil => exact ⟨fun isOpen => ⟨isOpen, List.not_mem_nil⟩, And.left⟩
  | cons action rest inductionHypothesis =>
    show ((desk.act action).acts rest).isOpen = true ↔ _
    rw [inductionHypothesis, isOpen_act_iff, and_assoc, List.mem_cons, not_or, ne_comm]

end LiveFleet.Desk
