/-
This file proves what a blocking solver makes of a desk, at whatever pace it works.
It publishes only what it has solved, for the snapshot that it has solved it for, and
it says that it is done only after that. So a desk without an outstanding snapshot
shows a schedule for the newest one, and a desk whose solver has failed has an
outstanding snapshot. Between any two of its steps a newer snapshot may be handed
over; what it still has to do for the older one then comes to nothing. A
solver that looks at its token again and again while it computes is one whose memory
says when it gives up.
-/
import LiveFleet.Proofs.Desk.Sitting
import LiveFleet.Solver.Blocking

namespace LiveFleet

open Attempt

/-! ### The moves outside of a computation -/

namespace Desk

/-- Outside of a computation the worker waits, looks for newer jobs, claims one or leaves. -/
theorem nextMove?_cases {desk : Desk} {step : Move} (isNext : desk.nextMove? = some step) :
    desk.isComputing = false ∧
      (step = .take ∨ step = .takeNewer ∨ step = .keep ∨ step = .claim ∨ step = .leave) := by
  unfold nextMove? at isNext
  unfold isComputing
  split at isNext
  · rename_i waiting
    rw [waiting]
    split at isNext
    · split at isNext
      · cases isNext
      · cases isNext
        simp
    · cases isNext
      simp
  · rename_i draining
    rw [draining]
    split at isNext <;> cases isNext <;> simp
  · rename_i claiming
    rw [claiming]
    cases isNext
    simp
  · cases isNext
  · rename_i leaving
    rw [leaving]
    cases isNext
    simp
  · cases isNext

/-- Such a move publishes and answers nothing, and at most begins a job that has waited. -/
theorem nextMove?_quiet {desk : Desk} {step : Move} (isNext : desk.nextMove? = some step) :
    (desk.move step).published = desk.published ∧ (desk.move step).done = desk.done ∧
      (desk.move step).fault = desk.fault ∧ (desk.move step).newest = desk.newest ∧
        ∀ job, (desk.move step).phase = .computing job →
          job ∈ desk.pending ∧ (desk.move step).running = job.generation := by
  obtain ⟨outside, isMove⟩ := nextMove?_cases isNext
  have effect := move_effect desk step
  generalize desk.move step = after at effect
  cases effect with
  | nothing =>
    refine ⟨rfl, rfl, rfl, rfl, fun job computing => ?_⟩
    rw [isComputing, computing] at outside
    cases outside
  | started claiming =>
    refine ⟨rfl, rfl, rfl, rfl, fun job computing => ?_⟩
    cases computing
    exact ⟨by rw [pending, claiming]; exact List.mem_append_left _ (List.mem_singleton_self _), rfl⟩
  | took | tookNewer | kept | dropped | dismissed | departed =>
    refine ⟨rfl, rfl, rfl, rfl, fun job computing => ?_⟩
    cases computing
  | published | answered | cancelled | ended | failed => simp at isMove

/-- A schedule that is taken is shown, or comes too late. -/
theorem updateSchedule_cases {desk : Desk} {schedule : Schedule}
    (taken : (updateSchedule schedule desk).1 = .ok ()) :
    (desk.running ≠ desk.newest ∧ desk.move (.publish schedule) = desk) ∨
      desk.move (.publish schedule) =
        { desk with published := some ⟨desk.version + 1, schedule⟩ } := by
  dsimp only [move]
  unfold updateSchedule at taken ⊢
  split at taken
  · cases taken
  · rename_i begun
    rw [if_neg begun]
    split at taken
    · rename_i older
      rw [if_pos older]
      exact .inl ⟨older, rfl⟩
    · rename_i isNewest
      rw [if_neg isNewest]
      split at taken
      · cases taken
      · rename_i fits
        rw [if_neg fits]
        exact .inr rfl

/-- To say that one is done counts for the newest generation, or not at all. -/
theorem doneForNow_cases (desk : Desk) :
    desk.move .signalDone = desk ∨ desk.running = desk.newest ∧
      desk.move .signalDone =
        { desk with done := desk.newest, switch := desk.switch.request .simulated } := by
  have effect := move_effect desk .signalDone
  generalize desk.move .signalDone = after at effect
  cases effect with
  | nothing => exact .inl rfl
  | answered isNewest => exact .inr ⟨isNewest, rfl⟩

/-- After a computation the worker waits again, or leaves because of a failure. -/
theorem finish_cases {desk : Desk} {job : Job} (computing : desk.phase = .computing job)
    (outcome : Except SolverFailure Unit) :
    desk.move (.finish outcome) = { desk with phase := .waiting } ∨
      ∃ failure, outcome = .error failure ∧ desk.move (.finish outcome) =
        { desk with
          fault := some failure.error
          phase := .leaving
          switch := desk.switch.request .simulated } := by
  dsimp only [move]
  rw [computing]
  dsimp only
  cases outcome with
  | ok _ => exact .inl rfl
  | error failure =>
    unfold endComputation
    dsimp only
    split
    · exact .inl rfl
    · rename_i error faulty
      refine .inr ⟨failure, rfl, ?_⟩
      split at faulty
      · cases faulty
      · cases faulty
        rfl

end Desk

namespace BlockingSolver

open Session

variable {Memory : Type}

/-! ### Blocking solvers at a desk -/

/-- The worker that runs a blocking solver at some pace: how many steps it gets done in a turn
depends on the number of the turn and on the desk. -/
def atPace (solver : BlockingSolver Memory) (pace : Nat → Desk → Nat) :
    Worker (Nat × Memory × Stage) where
  turn := fun (turns, memory, stage) desk =>
    let (memory, stage, moves) := solver.steps (pace turns desk) memory stage desk
    ((turns + 1, memory, stage), moves)

/-- The surroundings of a blocking solver before its first turn. -/
def ready (memory : Memory) : Nat × Memory × Stage := (0, memory, .solving)

/-- Whenever the solver answers a snapshot of a fleet, its schedule is thorough. -/
def IsThorough (solver : BlockingSolver Memory) : Prop :=
  ∀ snapshot memory token schedule after, snapshot.IsSound →
    solver.solve snapshot (memory, token) = (.ok schedule, after) → snapshot.IsServedBy schedule

theorem isThorough_randomAssignment : RandomAssignment.solver.IsThorough := by
  intro snapshot generator token made after sound answered
  unfold RandomAssignment.solver at answered
  dsimp only at answered
  cases drawn : RandomAssignment.schedule snapshot token generator with
  | mk result next =>
    rw [drawn] at answered
    cases result with
    | error error => cases answered
    | ok schedule =>
      cases answered
      exact RandomAssignment.isServedBy_schedule sound drawn

/-- The solver gives up only when its token has been cancelled, and fails in no other way. -/
def IsWilling (solver : BlockingSolver Memory) : Prop :=
  ∀ snapshot memory token failure after,
    solver.solve snapshot (memory, token) = (.error failure, after) →
      failure = .refused .cancelled ∧ token.isCancelled = true

theorem isWilling_randomAssignment : RandomAssignment.solver.IsWilling := by
  intro snapshot generator token failure after failed
  unfold RandomAssignment.solver at failed
  dsimp only at failed
  cases refused : RandomAssignment.schedule snapshot token generator with
  | mk result next =>
    rw [refused] at failed
    cases result with
    | ok schedule => cases failed
    | error error =>
      cases failed
      obtain ⟨rfl, withdrawn⟩ := RandomAssignment.schedule_eq_error refused
      exact ⟨rfl, withdrawn⟩

/-! ### The invariant -/

/-- How far the newest answered generation and the board have come when the computation of a job is
at a stage. -/
def Stage.Suits (job : Job) (desk : Desk) (accepted : Nat) : Stage → Prop
  | .solving => desk.done < job.generation
  | .solved result => desk.done < job.generation ∧
      ∀ schedule, result = .ok schedule → job.snapshot.IsServedBy schedule
  | .approved schedule => desk.done < job.generation ∧ job.snapshot.IsServedBy schedule
  | .published => desk.done < job.generation ∧
      (job.generation = desk.newest → accepted = job.generation)
  | .signalled => True

/-- A newer snapshot does not disturb the computation of an older one. -/
theorem Stage.Suits.onward {stage : Stage} {job : Job} {before after : Desk} {accepted : Nat}
    (suits : stage.Suits job before accepted) (done : after.done = before.done)
    (older : job.generation ≤ before.newest) (newest : before.newest ≤ after.newest) :
    stage.Suits job after accepted := by
  cases stage with
  | solving => exact (congrArg (· < job.generation) done).mpr suits
  | solved result | approved schedule => exact ⟨done ▸ suits.1, suits.2⟩
  | published => exact ⟨done ▸ suits.1, fun isNewest => suits.2 (by omega)⟩
  | signalled => trivial

/-- What holds of a sitting of a thorough blocking solver. -/
structure Answering (stage : Stage) (session : Session) : Prop where
  retains : session.desk.Retains none
  recorded : session.Recorded
  published : session.Published
  sound : ∀ snapshot ∈ session.snapshots, snapshot.IsSound
  /-- Every schedule that was accepted is thorough for its snapshot. -/
  served : ∀ acceptance ∈ session.acceptances, ∃ snapshot,
    session.snapshot? acceptance.generation = some snapshot ∧
      snapshot.IsServedBy acceptance.publication.schedule
  /-- Nothing was answered without a schedule. -/
  answered : session.desk.done ≤ session.lastAccepted
  /-- A failure leaves a snapshot unanswered. -/
  faulty : session.desk.fault ≠ none → session.desk.done < session.desk.newest
  idle : session.desk.isComputing = false → stage = .solving
  busy : ∀ job, session.desk.phase = .computing job → session.desk.running = job.generation ∧
    session.snapshot? job.generation = some job.snapshot ∧
      stage.Suits job session.desk session.lastAccepted

namespace Answering

variable {stage later : Stage} {session : Session} {action : Desk.Action} {schedule : Schedule}

theorem opened (switch : PaceSwitch) : Answering .solving (.opened switch) where
  retains := .opened switch
  recorded := recorded_opened switch
  published := published_opened switch
  sound := nofun
  served := nofun
  answered := Nat.le_refl 0
  faulty := fun faulty => absurd rfl faulty
  idle := fun _ => rfl
  busy := nofun

/-- An action that leaves the board alone keeps the promises about it. -/
theorem of_same {after : Desk} (answering : Answering stage session)
    (acted : session.desk.act action = after) (staysOpen : action ≠ .shutdown)
    (sound : ∀ snapshot ∈ session.desk.handed action, snapshot.IsSound)
    (same : after.published = session.desk.published) (answered : after.done ≤ session.lastAccepted)
    (faulty : after.fault ≠ none → after.done < after.newest)
    (idle : after.isComputing = false → later = .solving)
    (busy : ∀ job, after.phase = .computing job → after.running = job.generation ∧
      session.snapshot? job.generation = some job.snapshot ∧
        later.Suits job after session.lastAccepted) :
    Answering later (session.step action) := by
  subst acted
  constructor
  · exact answering.retains.act action staysOpen
  · exact answering.recorded.step action
  · exact answering.published.step answering.recorded action
  · intro snapshot member
    exact (List.mem_append.1 member).elim (answering.sound snapshot) (sound snapshot)
  · rw [acceptances_step_of_same same]
    intro acceptance accepted
    obtain ⟨snapshot, known, thorough⟩ := answering.served acceptance accepted
    exact ⟨snapshot, snapshot?_step known action, thorough⟩
  · rw [lastAccepted_step_of_same same]
    exact answered
  · exact faulty
  · exact idle
  · rw [lastAccepted_step_of_same same]
    intro job computing
    obtain ⟨running, known, suits⟩ := busy job computing
    exact ⟨running, snapshot?_step known action, suits⟩

/-- An action beside the computation disturbs no promise. -/
theorem of_undisturbed {after : Desk} (answering : Answering stage session)
    (acted : session.desk.act action = after) (staysOpen : action ≠ .shutdown)
    (sound : ∀ snapshot ∈ session.desk.handed action, snapshot.IsSound)
    (published : after.published = session.desk.published) (done : after.done = session.desk.done)
    (faulty : after.fault ≠ none → after.done < after.newest)
    (phase : after.phase = session.desk.phase) (running : after.running = session.desk.running)
    (newest : session.desk.newest ≤ after.newest) : Answering stage (session.step action) := by
  refine answering.of_same acted staysOpen sound published
    (Nat.le_trans (Nat.le_of_eq done) answering.answered) faulty (fun outside => ?_)
    fun job computing => ?_
  · refine answering.idle ?_
    rw [← outside, Desk.isComputing, Desk.isComputing, phase]
  · rw [phase] at computing
    obtain ⟨begun, known, suits⟩ := answering.busy job computing
    have older : job.generation ≤ session.desk.newest :=
      begun ▸ answering.recorded.inLine.running_le_newest
    exact ⟨running.trans begun, known, suits.onward done older newest⟩

theorem of_ignored {step : Desk.Move} (answering : Answering stage session)
    (ignored : session.desk.move step = session.desk) :
    Answering stage (session.step (.move step)) :=
  answering.of_undisturbed ignored nofun nofun rfl rfl answering.faulty rfl rfl (Nat.le_refl _)

/-- A desk without an outstanding snapshot has seen no failure, and shows the answer to the newest
snapshot. -/
theorem settled (answering : Answering stage session)
    (answered : session.desk.isOutstanding = false) :
    session.desk.fault = none ∧ session.lastAccepted = session.desk.newest := by
  have done : session.desk.newest ≤ session.desk.done :=
    Nat.le_of_not_lt (of_decide_eq_false answered)
  have healthy : session.desk.fault = none := by
    refine Decidable.not_not.1 fun faulty => ?_
    exact absurd done (Nat.not_le_of_lt (answering.faulty faulty))
  have shown := answering.answered
  have begun := answering.published.lastAccepted_le
  have notNewer := answering.recorded.inLine.running_le_newest
  exact ⟨healthy, by omega⟩

/-- The answer to the newest snapshot. -/
theorem newest_served (answering : Answering stage session)
    (answered : session.desk.isOutstanding = false) {snapshot : Snapshot}
    (newest : session.snapshots.getLast? = some snapshot) :
    ∃ publication, session.desk.published = some publication ∧ publication.version ≠ 0 ∧
      publication.schedule.size = snapshot.vehicles.length ∧
        snapshot.IsServedBy publication.schedule := by
  obtain ⟨-, latest⟩ := answering.settled answered
  rw [← answering.recorded.snapshot?_newest, ← latest] at newest
  have handed : session.lastAccepted ≠ 0 := by
    intro none
    rw [none] at newest
    cases newest
  obtain ⟨acceptance, last, generation⟩ := getLast?_of_lastAccepted handed
  rw [← generation] at newest
  have accepted := List.mem_of_getLast? last
  have shown : session.desk.published = some acceptance.publication := by
    rw [answering.published.board, last]
    rfl
  obtain ⟨sized, known, fits⟩ := answering.published.sizes acceptance accepted
  cases known.symm.trans newest
  obtain ⟨other, known, served⟩ := answering.served acceptance accepted
  cases known.symm.trans newest
  refine ⟨acceptance.publication, shown, ?_, fits, served⟩
  rw [← Desk.version_of_published shown, answering.published.version]
  exact Nat.pos_iff_ne_zero.1 (List.length_pos_of_mem accepted)

/-! ### One step -/

/-- Whatever the solver has come to, a newer snapshot may be handed over. -/
theorem handed (answering : Answering stage session) {snapshot : Snapshot}
    (sound : snapshot.IsSound) : Answering stage (session.step (.dispatch snapshot)) := by
  have soundHanded : ∀ other ∈ session.desk.handed (.dispatch snapshot), other.IsSound :=
    fun other member => eq_of_handed member ▸ sound
  have effect := Desk.act_effect session.desk (.dispatch snapshot)
  generalize acted : session.desk.act (.dispatch snapshot) = after at effect
  cases effect with
  | refused =>
    exact answering.of_undisturbed acted nofun soundHanded rfl rfl answering.faulty rfl rfl
      (Nat.le_refl _)
  | handedOver _ _ healthy =>
    exact answering.of_undisturbed acted nofun soundHanded rfl rfl (absurd healthy) rfl rfl
      (Nat.le_succ _)
  | lost _ isOpen healthy gone =>
    exact absurd gone (answering.recorded.inLine.staffed isOpen healthy)

/-- Outside of a computation the worker may move on. -/
theorem waited (answering : Answering stage session) {step : Desk.Move}
    (isNext : session.desk.nextMove? = some step) :
    Answering stage (session.step (.move step)) := by
  obtain ⟨published, done, fault, newest, begins⟩ := Desk.nextMove?_quiet isNext
  obtain rfl := answering.idle (Desk.nextMove?_cases isNext).1
  have answered := answering.answered
  have faulty := answering.faulty
  rw [← done] at answered
  rw [← done, ← fault, ← newest] at faulty
  refine answering.of_same rfl nofun nofun published answered faulty (fun _ => rfl)
    fun job computing => ?_
  obtain ⟨waits, running⟩ := begins job computing
  have begunOnly := answering.published.lastAccepted_le
  have behind := answering.recorded.inLine.running_lt_pending waits
  refine ⟨running, answering.recorded.waiting job waits, ?_⟩
  exact Nat.lt_of_le_of_lt (Nat.le_trans answered begunOnly) behind

section Computing

variable {job : Job} (computing : session.desk.phase = .computing job)

include computing

theorem healthy (answering : Answering stage session) : session.desk.fault = none :=
  answering.retains.healthy (by rw [computing]; rfl)

theorem inside {after : Desk} (phase : after.phase = session.desk.phase) :
    after.isComputing ≠ false := by
  rw [Desk.isComputing, phase, computing]
  exact Bool.false_ne_true.symm

/-- The computation comes to another stage, with nothing told to the desk. -/
theorem turnsTo (answering : Answering stage session)
    (suits : later.Suits job session.desk session.lastAccepted) : Answering later session := by
  refine { answering with idle := fun outside => ?_, busy := fun other same => ?_ }
  · exact absurd outside (inside computing rfl)
  · rw [computing] at same
    cases same
    obtain ⟨running, known, -⟩ := answering.busy job computing
    exact ⟨running, known, suits⟩

theorem fails (answering : Answering stage session)
    (unanswered : session.desk.done < job.generation) (failure : SolverFailure) :
    Answering (.solved (.error failure)) session := by
  have suits : (Stage.solved (.error failure)).Suits job session.desk session.lastAccepted :=
    ⟨unanswered, nofun⟩
  exact answering.turnsTo computing suits

/-- A schedule that the desk takes is shown, or comes too late. -/
theorem publishes (answering : Answering (.approved schedule) session)
    (taken : (Desk.updateSchedule schedule session.desk).1 = .ok ()) :
    Answering .published (session.step (.move (.publish schedule))) := by
  obtain ⟨begun, known, unanswered, thorough⟩ := answering.busy job computing
  rcases Desk.updateSchedule_cases taken with ⟨older, ignored⟩ | shown
  · have late : Stage.published.Suits job session.desk session.lastAccepted :=
      ⟨unanswered, fun isNewest => absurd (begun.trans isNewest) older⟩
    exact (answering.turnsTo computing late).of_ignored ignored
  · have desk : (session.step (.move (.publish schedule))).desk = _ := shown
    have accepts := acceptances_step_of_shown shown
    have last := lastAccepted_step_of_shown shown
    have knownThen := snapshot?_step known (.move (.publish schedule))
    constructor
    · exact answering.retains.act (.move (.publish schedule)) (Desk.Action.move_ne_shutdown _)
    · exact answering.recorded.step _
    · exact answering.published.step answering.recorded _
    · rw [step_move_snapshots]
      exact answering.sound
    · rw [accepts]
      intro acceptance accepted
      rcases List.mem_append.1 accepted with before | now
      · obtain ⟨snapshot, there, served⟩ := answering.served acceptance before
        exact ⟨snapshot, snapshot?_step there _, served⟩
      · rw [List.mem_singleton.1 now]
        exact ⟨job.snapshot, begun ▸ knownThen, thorough⟩
    · rw [last, desk, begun]
      exact Nat.le_of_lt unanswered
    · rw [desk]
      exact absurd (answering.healthy computing)
    · rw [desk]
      exact fun outside => absurd outside (inside computing rfl)
    · rw [last, desk]
      intro other same
      cases computing.symm.trans same
      exact ⟨begun, knownThen, unanswered, fun _ => begun⟩

/-- To say that one is done counts only for the newest generation, whose schedule is shown. -/
theorem signals (answering : Answering .published session) :
    Answering .signalled (session.step (.move .signalDone)) := by
  obtain ⟨begun, known, unanswered, shown⟩ := answering.busy job computing
  rcases Desk.doneForNow_cases session.desk with ignored | ⟨isNewest, answered⟩
  · have told : Stage.signalled.Suits job session.desk session.lastAccepted := trivial
    exact (answering.turnsTo computing told).of_ignored ignored
  · refine answering.of_same answered nofun nofun rfl ?_ (absurd (answering.healthy computing))
      (fun outside => absurd outside (inside computing rfl)) fun other same => ?_
    · have isCurrent : job.generation = session.desk.newest := begun.symm.trans isNewest
      exact Nat.le_of_eq ((shown isCurrent).trans isCurrent).symm
    · cases computing.symm.trans same
      exact ⟨begun, known, trivial⟩

/-- A computation that fails has not been answered. -/
theorem finishes (answering : Answering stage session) {outcome : Except SolverFailure Unit}
    (unanswered : ∀ failure, outcome = .error failure → session.desk.done < job.generation) :
    Answering .solving (session.step (.move (.finish outcome))) := by
  obtain ⟨begun, -, -⟩ := answering.busy job computing
  rcases Desk.finish_cases computing outcome with waits | ⟨failure, failed, leaves⟩
  · exact answering.of_same waits nofun nofun rfl answering.answered
      (absurd (answering.healthy computing)) (fun _ => rfl) nofun
  · refine answering.of_same leaves nofun nofun rfl answering.answered (fun _ => ?_) (fun _ => rfl)
      nofun
    refine Nat.lt_of_lt_of_le (unanswered failure failed) ?_
    exact begun ▸ answering.recorded.inLine.running_le_newest

end Computing

theorem cancelled (answering : Answering stage session) (generation : Nat) :
    Answering stage (session.step (.move (.cancel generation))) :=
  answering.of_undisturbed rfl nofun nofun rfl rfl answering.faulty rfl rfl (Nat.le_refl _)

/-! ### Sittings -/

variable {solver : BlockingSolver Memory} {memory memoryThen : Memory} {steps : List Desk.Move}

/-- The answer of the solver is kept as it is, and perhaps its token is cancelled. -/
theorem calls (thorough : solver.IsThorough) {job : Job}
    (computing : session.desk.phase = .computing job) (answering : Answering .solving session)
    (goes : solver.callSolver memory session.desk job = (memoryThen, later, steps)) :
    Answering later (session.moves steps) := by
  obtain ⟨begun, known, unanswered⟩ := answering.busy job computing
  have sound := answering.sound job.snapshot (mem_of_snapshot? known)
  let answer := solver.solve job.snapshot (memory, session.desk.token job.generation)
  have suits : (Stage.solved answer.1).Suits job session.desk session.lastAccepted :=
    ⟨unanswered, fun schedule made => thorough _ _ _ schedule answer.2 sound (Prod.ext made rfl)⟩
  have turned := answering.turnsTo computing suits
  cases goes
  split
  · exact turned.cancelled job.generation
  · exact turned

theorem advances {job : Job} (computing : session.desk.phase = .computing job)
    (answering : Answering stage session)
    (goes : stage.next? session.desk job = some (later, steps)) :
    Answering later (session.moves steps) := by
  obtain ⟨begun, known, suits⟩ := answering.busy job computing
  unfold Stage.next? at goes
  split at goes
  · cases goes
  · cases goes
    exact answering.finishes computing fun _ _ => suits.1
  · rename_i schedule
    split at goes
    · cases goes
      exact answering.fails computing suits.1 _
    · cases goes
      have approved : (Stage.approved schedule).Suits job session.desk session.lastAccepted :=
        ⟨suits.1, suits.2 schedule rfl⟩
      exact answering.turnsTo computing approved
  · split at goes
    · cases goes
      exact answering.fails computing suits.1 _
    · rename_i taken
      cases goes
      exact answering.publishes computing taken
  · cases goes
    exact answering.signals computing
  · cases goes
    exact answering.finishes computing nofun

/-- What the worker of a thorough solver does next keeps all promises. -/
theorem step (thorough : solver.IsThorough) (answering : Answering stage session)
    (goes : solver.step? memory stage session.desk = some (memoryThen, later, steps)) :
    Answering later (session.moves steps) := by
  unfold step? at goes
  split at goes
  · rename_i job computing
    split at goes
    · exact answering.calls thorough computing (Option.some.inj goes)
    · obtain ⟨⟨next, moves⟩, isNext, same⟩ := Option.map_eq_some_iff.1 goes
      cases same
      exact answering.advances computing isNext
  · obtain ⟨step, isNext, same⟩ := Option.map_eq_some_iff.1 goes
    cases same
    exact answering.waited isNext

theorem turn (thorough : solver.IsThorough) (answering : Answering stage session) (count : Nat)
    (memory : Memory) :
    Answering (solver.steps count memory stage session.desk).2.1
      (session.moves (solver.steps count memory stage session.desk).2.2) := by
  induction count generalizing memory stage session with
  | zero => exact answering
  | succ count inductionHypothesis =>
    unfold steps
    split
    · exact answering
    · rename_i memoryThen later moves goes
      have stepped := answering.step thorough goes
      have rest := inductionHypothesis stepped memoryThen
      rw [moves_desk] at rest
      dsimp only
      rw [moves_append]
      exact rest

end Answering

variable {solver : BlockingSolver Memory}

/-- At whatever pace a thorough solver works, its sittings keep all promises. -/
theorem IsThorough.answering (thorough : solver.IsThorough) {pace : Nat → Desk → Nat}
    {memory : Memory} {surroundings : Nat × Memory × Stage} {session : Session}
    (sitting : Sitting (solver.atPace pace) (ready memory) surroundings session) :
    Answering surroundings.2.2 session := by
  induction sitting with
  | opened switch => exact .opened switch
  | turned sitting inductionHypothesis => exact inductionHypothesis.turn thorough _ _
  | handed sitting snapshot sound inductionHypothesis => exact inductionHypothesis.handed sound

/-- At whatever pace a thorough solver works, what it publishes is thorough. -/
theorem IsThorough.publishes (thorough : solver.IsThorough) (pace : Nat → Desk → Nat)
    (memory : Memory) : (solver.atPace pace).Publishes (ready memory) Snapshot.IsServedBy := by
  intro surroundings session sitting acceptance accepted snapshot known
  obtain ⟨same, there, served⟩ := (thorough.answering sitting).served acceptance accepted
  cases known.symm.trans there
  exact served

end BlockingSolver

end LiveFleet
