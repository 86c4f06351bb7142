/-
This file holds the shifts of a blocking solver: the stories of a desk at which one
solver works, told step by step. Between any two steps of the worker a snapshot may
be handed over, and it need not be one of a fleet that exists. An onlooker writes
down which calls of the solver have returned and which of its signals have counted.
How the solver comes to a result is left to its memory: it may be slow, look at its
token or not, fail, or return a schedule of any size.

The list of turns is complete: what one step of the worker can do is said here once,
and everything that holds of shifts is read off it.
-/
import LiveFleet.Proofs.Solver.Adapter

namespace LiveFleet

namespace Desk

/-- Only a signal answers a generation. -/
theorem done_of_move {desk : Desk} {step : Move} (silent : step ≠ .signalDone) :
    (desk.move step).done = desk.done := by
  have effect := move_effect desk step
  generalize desk.move step = after at effect
  cases effect with
  | answered => exact absurd rfl silent
  | _ => rfl

/-- The generation that was answered between two moments. -/
def answered (before after : Desk) : List Nat :=
  if after.done = before.done then [] else [after.done]

theorem answered_of_done {before after : Desk} (same : after.done = before.done) :
    answered before after = [] :=
  if_pos same

theorem finish_of_expected {desk : Desk} {job : Job} (computing : desk.phase = .computing job)
    {failure : SolverFailure} (expected : desk.IsExpected job failure) :
    desk.move (.finish (.error failure)) = { desk with phase := .waiting } := by
  dsimp only [move]
  rw [computing]
  simp [endComputation, expected.1, expected.2]

/-- A schedule of an older generation is ignored, whatever its size. -/
theorem updateSchedule_of_older {desk : Desk} (begun : desk.running ≠ 0)
    (older : desk.running ≠ desk.newest) (schedule : Schedule) :
    updateSchedule schedule desk = (.ok (), desk) := by
  rw [updateSchedule, if_neg begun, if_pos older]

/-! ### The tokens of older generations -/

/-- The desk holds the token of the newest generation, and has cancelled those before it. -/
structure Supersedes (desk : Desk) : Prop where
  held : desk.newest ≠ 0 → desk.held = some desk.newest
  older : ∀ generation, generation ≠ 0 → generation < desk.newest → generation ∈ desk.cancelled

namespace Supersedes

variable {desk : Desk}

theorem opened (switch : PaceSwitch) : (Desk.opened switch).Supersedes where
  held := absurd rfl
  older := fun _ _ older => absurd older (Nat.not_lt_zero _)

/-- The next generation takes the place of the one before, whose token is cancelled. -/
theorem of_next {after : Desk} (supersedes : desk.Supersedes)
    (newest : after.newest = desk.newest + 1) (held : after.held = some (desk.newest + 1))
    (cancelled : after.cancelled = desk.held.toList ++ desk.cancelled) : after.Supersedes where
  held := fun _ => held.trans (congrArg some newest.symm)
  older := by
    intro generation positive older
    rw [newest] at older
    rw [cancelled, List.mem_append]
    rcases Nat.lt_or_eq_of_le (Nat.le_of_lt_succ older) with before | rfl
    · exact .inr (supersedes.older generation positive before)
    · rw [supersedes.held positive]
      exact .inl (List.mem_singleton_self _)

theorem act (supersedes : desk.Supersedes) (action : Action) (staysOpen : action ≠ .shutdown) :
    (desk.act action).Supersedes := by
  have effect := act_effect desk action
  generalize desk.act action = after at effect
  cases effect with
  | closed => exact absurd rfl staysOpen
  | handedOver | lost => exact supersedes.of_next rfl rfl rfl
  | cancelled =>
    exact ⟨supersedes.held, fun _ positive older => .tail _ (supersedes.older _ positive older)⟩
  | _ => exact ⟨supersedes.held, supersedes.older⟩

/-- A computation that is no longer the newest has lost its token. -/
theorem token (supersedes : desk.Supersedes) {generation : Nat} (positive : generation ≠ 0)
    (older : generation < desk.newest) : (desk.token generation).isCancelled = true :=
  List.contains_iff_mem.2 (supersedes.older generation positive older)

end Supersedes

end Desk

/-! ### Orderly stories -/

/-- What holds of every story of a desk that nobody closes. -/
structure Session.Orderly (session : Session) : Prop where
  retains : session.desk.Retains none
  supersedes : session.desk.Supersedes
  recorded : session.Recorded
  published : session.Published

namespace Session.Orderly

variable {session : Session}

theorem opened (switch : PaceSwitch) : (Session.opened switch).Orderly :=
  ⟨.opened switch, .opened switch, recorded_opened switch, published_opened switch⟩

theorem step (orderly : session.Orderly) {action : Desk.Action} (staysOpen : action ≠ .shutdown) :
    (session.step action).Orderly where
  retains := orderly.retains.act action staysOpen
  supersedes := orderly.supersedes.act action staysOpen
  recorded := orderly.recorded.step action
  published := orderly.published.step orderly.recorded action

theorem running_le_newest (orderly : session.Orderly) :
    session.desk.running ≤ session.desk.newest :=
  orderly.recorded.inLine.running_le_newest

end Session.Orderly

namespace BlockingSolver

open Session

variable {Memory : Type}

/-! ### Shifts -/

/-- A call of a solver that has returned: what the solver was given, and for which generation. -/
structure Call (Memory : Type) where
  generation : Nat
  snapshot : Snapshot
  memory : Memory
  token : CancelToken

/-- What a solver makes of a call. -/
def Call.result (call : Call Memory) (solver : BlockingSolver Memory) :
    Except SolverFailure Schedule :=
  (solver.solve call.snapshot (call.memory, call.token)).1

/-- A solver at work at a desk, and what an onlooker has written down. -/
structure Shift (Memory : Type) where
  memory : Memory
  stage : Stage
  session : Session
  /-- The calls of the solver that have returned, the oldest first. -/
  calls : List (Call Memory)
  /-- The generations that were answered, the oldest first, one for each signal that counted. -/
  signals : List Nat

/-- What happens at a shift. -/
inductive Happening where
  /-- A snapshot is dispatched. -/
  | dispatch (snapshot : Snapshot)
  /-- The worker takes its next step, if it can go on. -/
  | turn

namespace Shift

/-- The shift that begins at a new desk. -/
def opened (switch : PaceSwitch) (memory : Memory) : Shift Memory :=
  ⟨memory, .solving, .opened switch, [], []⟩

/-- The call of the solver for a job, at this moment. -/
def callFor (shift : Shift Memory) (job : Job) : Call Memory :=
  ⟨job.generation, job.snapshot, shift.memory, shift.session.desk.token job.generation⟩

/-- The call that returns with the next step of the worker. -/
def calling (shift : Shift Memory) : List (Call Memory) :=
  match shift.session.desk.phase, shift.stage with
  | .computing job, .solving => [shift.callFor job]
  | _, _ => []

/-- The shift after the next step of the worker. -/
def turn (solver : BlockingSolver Memory) (shift : Shift Memory) : Shift Memory :=
  match solver.step? shift.memory shift.stage shift.session.desk with
  | none => shift
  | some (memory, stage, moves) =>
    { memory
      stage
      session := shift.session.moves moves
      calls := shift.calls ++ shift.calling
      signals := shift.signals ++
        Desk.answered shift.session.desk (shift.session.desk.moves moves) }

def step (solver : BlockingSolver Memory) (shift : Shift Memory) : Happening → Shift Memory
  | .dispatch snapshot => { shift with session := shift.session.step (.dispatch snapshot) }
  | .turn => shift.turn solver

/-- The shift after the given happenings, in order. -/
def after (solver : BlockingSolver Memory) (shift : Shift Memory) (happenings : List Happening) :
    Shift Memory :=
  happenings.foldl (step solver) shift

/-- What every happening keeps holds after any number of them. -/
theorem after_induction {solver : BlockingSolver Memory} {Holds : Shift Memory → Prop}
    (kept : ∀ shift happening, Holds shift → Holds (shift.step solver happening))
    {shift : Shift Memory} (holds : Holds shift) (happenings : List Happening) :
    Holds (shift.after solver happenings) := by
  induction happenings generalizing shift with
  | nil => exact holds
  | cons happening rest inductionHypothesis =>
    exact inductionHypothesis (kept shift happening holds)

/-! ### What one step of the worker can do -/

/-- The shift that one step of the worker leads to. -/
inductive Turn (solver : BlockingSolver Memory) (shift : Shift Memory) : Shift Memory → Prop where
  | rested : Turn solver shift shift
  | waited {step : Desk.Move} (isNext : shift.session.desk.nextMove? = some step) :
      Turn solver shift { shift with session := shift.session.step (.move step) }
  | returned {job : Job} (computing : shift.session.desk.phase = .computing job)
      (solving : shift.stage = .solving) (memory : Memory) {steps : List Desk.Move}
      (withdraws : steps = [] ∨ steps = [.cancel job.generation]) :
      Turn solver shift
        { shift with
          memory
          stage := .solved ((shift.callFor job).result solver)
          session := shift.session.moves steps
          calls := shift.calls ++ [shift.callFor job] }
  | approved {job : Job} {schedule : Schedule}
      (computing : shift.session.desk.phase = .computing job)
      (solved : shift.stage = .solved (.ok schedule)) :
      Turn solver shift { shift with stage := .approved schedule }
  | withdrawn {job : Job} {schedule : Schedule}
      (computing : shift.session.desk.phase = .computing job)
      (solved : shift.stage = .solved (.ok schedule)) :
      Turn solver shift { shift with stage := .solved (.error (.refused .cancelled)) }
  | misfit {job : Job} {schedule : Schedule}
      (computing : shift.session.desk.phase = .computing job)
      (approved : shift.stage = .approved schedule) {error : SolverError}
      (refused : (Desk.updateSchedule schedule shift.session.desk).1 = .error error) :
      Turn solver shift { shift with stage := .solved (.error (.refused error)) }
  | published {job : Job} {schedule : Schedule}
      (computing : shift.session.desk.phase = .computing job)
      (approved : shift.stage = .approved schedule)
      (taken : (Desk.updateSchedule schedule shift.session.desk).1 = .ok ()) :
      Turn solver shift
        { shift with
          stage := .published
          session := shift.session.step (.move (.publish schedule)) }
  | signalled {job : Job} (computing : shift.session.desk.phase = .computing job)
      (published : shift.stage = .published) :
      Turn solver shift
        { shift with
          stage := .signalled
          session := shift.session.step (.move .signalDone)
          signals := shift.signals ++
            Desk.answered shift.session.desk (shift.session.desk.move .signalDone) }
  | failed {job : Job} {failure : SolverFailure}
      (computing : shift.session.desk.phase = .computing job)
      (solved : shift.stage = .solved (.error failure)) :
      Turn solver shift
        { shift with
          stage := .solving
          session := shift.session.step (.move (.finish (.error failure))) }
  | ended {job : Job} (computing : shift.session.desk.phase = .computing job)
      (signalled : shift.stage = .signalled) :
      Turn solver shift
        { shift with
          stage := .solving
          session := shift.session.step (.move (.finish (.ok ()))) }

section Turns

variable {solver : BlockingSolver Memory} {shift : Shift Memory} {job : Job}

theorem calling_of_solving (computing : shift.session.desk.phase = .computing job)
    (solving : shift.stage = .solving) : shift.calling = [shift.callFor job] := by
  unfold calling
  rw [computing, solving]

theorem calling_of_later (later : shift.stage ≠ .solving) : shift.calling = [] := by
  unfold calling
  split
  · contradiction
  · rfl

theorem calling_of_outside (outside : shift.session.desk.isComputing = false) :
    shift.calling = [] := by
  unfold calling
  split
  · rename_i computing _
    rw [Desk.isComputing, computing] at outside
    cases outside
  · rfl

/-- A step of the worker, with what the onlooker writes down. -/
theorem turn_of_step {memory : Memory} {stage : Stage} {steps : List Desk.Move}
    (goes : solver.step? shift.memory shift.stage shift.session.desk =
      some (memory, stage, steps)) :
    shift.turn solver =
      { memory
        stage
        session := shift.session.moves steps
        calls := shift.calls ++ shift.calling
        signals := shift.signals ++
          Desk.answered shift.session.desk (shift.session.desk.moves steps) } := by
  unfold turn
  rw [goes]

theorem turn_outside {step : Desk.Move} (isNext : shift.session.desk.nextMove? = some step) :
    Turn solver shift (shift.turn solver) := by
  obtain ⟨outside, -⟩ := Desk.nextMove?_cases isNext
  have quiet : (shift.session.desk.moves [step]).done = shift.session.desk.done :=
    (Desk.nextMove?_quiet isNext).2.1
  have goes : solver.step? shift.memory shift.stage shift.session.desk =
      some (shift.memory, shift.stage, [step]) := by
    unfold step?
    split
    · rename_i computing
      rw [Desk.isComputing, computing] at outside
      cases outside
    · rw [isNext]
      rfl
  rw [turn_of_step goes, calling_of_outside outside, Desk.answered_of_done quiet, List.append_nil,
    List.append_nil]
  exact .waited isNext

/-- The solver is called with its memory and its token, and may at most cancel that. -/
theorem turn_solving (computing : shift.session.desk.phase = .computing job)
    (solving : shift.stage = .solving) : Turn solver shift (shift.turn solver) := by
  have called : ∃ memory steps, solver.callSolver shift.memory shift.session.desk job =
      (memory, .solved ((shift.callFor job).result solver), steps) ∧
        (steps = [] ∨ steps = [.cancel job.generation]) := by
    refine ⟨_, _, rfl, ?_⟩
    split
    · exact .inr rfl
    · exact .inl rfl
  obtain ⟨memory, steps, called, withdraws⟩ := called
  have goes : solver.step? shift.memory shift.stage shift.session.desk =
      some (memory, .solved ((shift.callFor job).result solver), steps) := by
    unfold step?
    rw [computing, solving, ← called]
  have silent : (shift.session.desk.moves steps).done = shift.session.desk.done := by
    rcases withdraws with rfl | rfl <;> rfl
  rw [turn_of_step goes, calling_of_solving computing solving, Desk.answered_of_done silent,
    List.append_nil]
  exact .returned computing solving memory withdraws

/-- After the solving, the stage of the computation says what comes next. -/
theorem turn_later (computing : shift.session.desk.phase = .computing job)
    (later : shift.stage ≠ .solving) {next : Stage} {steps : List Desk.Move}
    (isNext : shift.stage.next? shift.session.desk job = some (next, steps)) :
    shift.turn solver =
      { shift with
        stage := next
        session := shift.session.moves steps
        signals := shift.signals ++
          Desk.answered shift.session.desk (shift.session.desk.moves steps) } := by
  have goes : solver.step? shift.memory shift.stage shift.session.desk =
      some (shift.memory, next, steps) := by
    unfold step?
    rw [computing]
    dsimp only
    split
    · contradiction
    · rw [isNext]
      rfl
  rw [turn_of_step goes, calling_of_later later, List.append_nil]

/-- A stage at which nothing is told to the desk. -/
theorem turn_unseen (computing : shift.session.desk.phase = .computing job)
    (later : shift.stage ≠ .solving) {next : Stage}
    (isNext : shift.stage.next? shift.session.desk job = some (next, [])) :
    shift.turn solver = { shift with stage := next } := by
  have silent : (shift.session.desk.moves []).done = shift.session.desk.done := rfl
  rw [turn_later computing later isNext, Desk.answered_of_done silent, List.append_nil]
  rfl

/-- A stage at which the desk is told something, but not that the solver is done. -/
theorem turn_unanswered (computing : shift.session.desk.phase = .computing job)
    (later : shift.stage ≠ .solving) {next : Stage} {step : Desk.Move}
    (isNext : shift.stage.next? shift.session.desk job = some (next, [step]))
    (silent : step ≠ .signalDone) :
    shift.turn solver =
      { shift with stage := next, session := shift.session.step (.move step) } := by
  have same : (shift.session.desk.moves [step]).done = shift.session.desk.done :=
    Desk.done_of_move silent
  rw [turn_later computing later isNext, Desk.answered_of_done same, List.append_nil]
  rfl

/-- Inside a computation, the stage says what comes next. -/
theorem turn_computing (computing : shift.session.desk.phase = .computing job) :
    Turn solver shift (shift.turn solver) := by
  by_cases solving : shift.stage = .solving
  · exact turn_solving computing solving
  cases reached : shift.stage with
  | solving => exact absurd reached solving
  | solved result =>
    cases result with
    | error failure =>
      rw [turn_unanswered computing solving (by rw [reached]; rfl) (by simp)]
      exact .failed computing reached
    | ok schedule =>
      by_cases cancelled : (shift.session.desk.token job.generation).isCancelled = true
      · have isNext : shift.stage.next? shift.session.desk job =
            some (.solved (.error (.refused .cancelled)), []) := by
          rw [reached, Stage.next?, CancelToken.check, if_pos cancelled]
        rw [turn_unseen computing solving isNext]
        exact .withdrawn computing reached
      · have isNext : shift.stage.next? shift.session.desk job = some (.approved schedule, []) := by
          rw [reached, Stage.next?, CancelToken.check, if_neg cancelled]
        rw [turn_unseen computing solving isNext]
        exact .approved computing reached
  | approved schedule =>
    cases answer : (Desk.updateSchedule schedule shift.session.desk).1 with
    | error error =>
      have isNext : shift.stage.next? shift.session.desk job =
          some (.solved (.error (.refused error)), []) := by
        rw [reached, Stage.next?, answer]
      rw [turn_unseen computing solving isNext]
      exact .misfit computing reached answer
    | ok _ =>
      have isNext : shift.stage.next? shift.session.desk job =
          some (.published, [.publish schedule]) := by
        rw [reached, Stage.next?, answer]
      rw [turn_unanswered computing solving isNext (by simp)]
      exact .published computing reached answer
  | published =>
    rw [turn_later computing solving (by rw [reached]; rfl)]
    exact .signalled computing reached
  | signalled =>
    rw [turn_unanswered computing solving (by rw [reached]; rfl) (by simp)]
    exact .ended computing reached

/-- Every step of a worker is one of the turns. -/
theorem turn_cases (solver : BlockingSolver Memory) (shift : Shift Memory) :
    Turn solver shift (shift.turn solver) := by
  by_cases computing : ∃ job, shift.session.desk.phase = .computing job
  · obtain ⟨job, computing⟩ := computing
    exact turn_computing computing
  · cases isNext : shift.session.desk.nextMove? with
    | some step => exact turn_outside isNext
    | none =>
      have rests : shift.turn solver = shift := by
        unfold turn step?
        split
        · rfl
        · rename_i goes
          split at goes
          · rename_i job inside
            exact absurd ⟨job, inside⟩ computing
          · rw [isNext] at goes
            cases goes
      rw [rests]
      exact .rested

end Turns

end Shift

end BlockingSolver

end LiveFleet
