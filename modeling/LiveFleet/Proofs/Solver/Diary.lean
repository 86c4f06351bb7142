/-
This file proves what the onlooker at a shift of a blocking solver finds written down.
Every generation is solved at most once and shown at most once; nothing is shown that
the solver has not made for the generation in question, and no generation is answered
that was not shown before. Nothing is asked of the solver: it may refuse, fail, or
return a schedule of the wrong size, and what it then leaves undone is left
unanswered.
-/
import LiveFleet.Proofs.Solver.Shift
import Mathlib.Data.List.Nodup
import Mathlib.Data.List.Perm.Subperm

namespace LiveFleet.BlockingSolver.Shift

open Session

variable {Memory : Type}

/-! ### What the onlooker finds -/

/-- One of the calls that have returned has made the schedule for a generation. -/
def Makes (solver : BlockingSolver Memory) (calls : List (Call Memory)) (generation : Nat)
    (schedule : Schedule) : Prop :=
  ∃ call ∈ calls, call.generation = generation ∧ call.result solver = .ok schedule

theorem Makes.append {solver : BlockingSolver Memory} {calls : List (Call Memory)}
    {generation : Nat} {schedule : Schedule} (makes : Makes solver calls generation schedule)
    (later : List (Call Memory)) : Makes solver (calls ++ later) generation schedule := by
  obtain ⟨call, called, made⟩ := makes
  exact ⟨call, List.mem_append_left _ called, made⟩

/-- What is known of the calls and of the board when the computation of a generation is at a stage,
given the newest generation and the one that was accepted last. -/
def Stands (solver : BlockingSolver Memory) (calls : List (Call Memory))
    (generation newest accepted : Nat) : Stage → Prop
  | .solving => accepted < generation ∧ ∀ call ∈ calls, call.generation < generation
  | .solved result => accepted < generation ∧
      ∀ schedule, result = .ok schedule → Makes solver calls generation schedule
  | .approved schedule => accepted < generation ∧ Makes solver calls generation schedule
  | .published => generation = newest → accepted = generation
  | .signalled => True

theorem Stands.onward {solver : BlockingSolver Memory} {calls : List (Call Memory)}
    {generation newest later accepted : Nat} {stage : Stage}
    (stands : Stands solver calls generation newest accepted stage)
    (older : generation ≤ newest) (onward : newest ≤ later) :
    Stands solver calls generation later accepted stage := by
  cases stage with
  | published => exact fun isNewest => stands (by omega)
  | solving | solved | approved | signalled => exact stands

/-- What holds of every shift. -/
structure Told (solver : BlockingSolver Memory) (shift : Shift Memory) : Prop where
  orderly : shift.session.Orderly
  /-- No generation is solved twice. -/
  called : (shift.calls.map Call.generation).Pairwise (· < ·)
  /-- The solver is given the snapshots that were handed over. -/
  known : ∀ call ∈ shift.calls, call.generation ≤ shift.session.desk.running ∧
    shift.session.snapshot? call.generation = some call.snapshot
  /-- No generation is shown twice. -/
  shown : (shift.session.acceptances.map Acceptance.generation).Pairwise (· < ·)
  /-- Nothing is shown that the solver has not made for that generation. -/
  made : ∀ acceptance ∈ shift.session.acceptances,
    Makes solver shift.calls acceptance.generation acceptance.publication.schedule
  /-- No generation is answered twice, or without a schedule. -/
  counted : shift.signals.Pairwise (· < ·)
  bounded : ∀ generation ∈ shift.signals, generation ≤ shift.session.desk.done
  heard : ∀ generation ∈ shift.signals,
    generation ∈ shift.session.acceptances.map Acceptance.generation
  answered : shift.session.desk.done ≤ shift.session.lastAccepted
  /-- A failure leaves a snapshot unanswered. -/
  faulty : shift.session.desk.fault ≠ none → shift.session.desk.done < shift.session.desk.newest
  idle : shift.session.desk.isComputing = false → shift.stage = .solving
  busy : ∀ job, shift.session.desk.phase = .computing job →
    shift.session.desk.running = job.generation ∧
      shift.session.snapshot? job.generation = some job.snapshot ∧
        Stands solver shift.calls job.generation shift.session.desk.newest
          shift.session.lastAccepted shift.stage

namespace Told

variable {solver : BlockingSolver Memory} {shift : Shift Memory} {action : Desk.Action}
  {later : Stage} {signals : List Nat} {schedule : Schedule}

theorem opened (solver : BlockingSolver Memory) (switch : PaceSwitch) (memory : Memory) :
    (Shift.opened switch memory).Told solver where
  orderly := .opened switch
  called := .nil
  known := fun _ member => absurd member List.not_mem_nil
  shown := .nil
  made := fun _ member => absurd member List.not_mem_nil
  counted := .nil
  bounded := fun _ member => absurd member List.not_mem_nil
  heard := fun _ member => absurd member List.not_mem_nil
  answered := Nat.le_refl 0
  faulty := absurd rfl
  idle := fun _ => rfl
  busy := fun _ computing => WorkerPhase.noConfusion computing

theorem lastAccepted_le (told : shift.Told solver) :
    shift.session.lastAccepted ≤ shift.session.desk.running :=
  told.orderly.published.lastAccepted_le

/-- An action that leaves the board alone keeps what is written down about it. -/
theorem of_same {after : Desk} (told : shift.Told solver)
    (acted : shift.session.desk.act action = after) (staysOpen : action ≠ .shutdown)
    (same : after.published = shift.session.desk.published)
    (answered : after.done ≤ shift.session.lastAccepted)
    (counted : signals.Pairwise (· < ·)) (bounded : ∀ generation ∈ signals, generation ≤ after.done)
    (heard : ∀ generation ∈ signals,
      generation ∈ shift.session.acceptances.map Acceptance.generation)
    (faulty : after.fault ≠ none → after.done < after.newest)
    (idle : after.isComputing = false → later = .solving)
    (busy : ∀ job, after.phase = .computing job → after.running = job.generation ∧
      shift.session.snapshot? job.generation = some job.snapshot ∧
        Stands solver shift.calls job.generation after.newest shift.session.lastAccepted later) :
    Told solver
      { shift with stage := later, session := shift.session.step action, signals } := by
  subst acted
  have accepted := acceptances_step_of_same same
  have last := lastAccepted_step_of_same same
  constructor
  · exact told.orderly.step staysOpen
  · exact told.called
  · intro call called
    obtain ⟨begun, known⟩ := told.known call called
    have onward := Desk.running_le_act told.orderly.recorded.inLine
      (Desk.act_effect shift.session.desk action)
    exact ⟨Nat.le_trans begun onward, snapshot?_step known action⟩
  · exact accepted ▸ told.shown
  · exact accepted ▸ told.made
  · exact counted
  · exact bounded
  · exact accepted ▸ heard
  · exact last ▸ answered
  · exact faulty
  · exact idle
  · intro job computing
    obtain ⟨running, known, stands⟩ := busy job computing
    exact ⟨running, snapshot?_step known action, last ▸ stands⟩

/-- An action by which nothing is shown or answered. -/
theorem of_unanswered {after : Desk} (told : shift.Told solver)
    (acted : shift.session.desk.act action = after) (staysOpen : action ≠ .shutdown)
    (same : after.published = shift.session.desk.published)
    (done : after.done = shift.session.desk.done)
    (faulty : after.fault ≠ none → after.done < after.newest)
    (idle : after.isComputing = false → later = .solving)
    (busy : ∀ job, after.phase = .computing job → after.running = job.generation ∧
      shift.session.snapshot? job.generation = some job.snapshot ∧
        Stands solver shift.calls job.generation after.newest shift.session.lastAccepted later) :
    Told solver { shift with stage := later, session := shift.session.step action } :=
  told.of_same acted staysOpen same (done ▸ told.answered) told.counted (done ▸ told.bounded)
    told.heard faulty idle busy

/-- An action beside the computation disturbs nothing. -/
theorem of_undisturbed {after : Desk} (told : shift.Told solver)
    (acted : shift.session.desk.act action = after) (staysOpen : action ≠ .shutdown)
    (same : after.published = shift.session.desk.published)
    (done : after.done = shift.session.desk.done)
    (faulty : after.fault ≠ none → after.done < after.newest)
    (phase : after.phase = shift.session.desk.phase)
    (running : after.running = shift.session.desk.running)
    (newest : shift.session.desk.newest ≤ after.newest) :
    Told solver { shift with session := shift.session.step action } := by
  refine told.of_unanswered acted staysOpen same done faulty (fun outside => ?_)
    fun job computing => ?_
  · refine told.idle ?_
    rw [← outside, Desk.isComputing, Desk.isComputing, phase]
  · rw [phase] at computing
    obtain ⟨begun, known, stands⟩ := told.busy job computing
    have older : job.generation ≤ shift.session.desk.newest :=
      begun ▸ told.orderly.running_le_newest
    exact ⟨running.trans begun, known, stands.onward older newest⟩

theorem of_ignored {step : Desk.Move} (told : shift.Told solver)
    (ignored : shift.session.desk.move step = shift.session.desk) :
    Told solver { shift with session := shift.session.step (.move step) } :=
  told.of_undisturbed ignored (Desk.Action.move_ne_shutdown step) rfl rfl told.faulty rfl rfl
    (Nat.le_refl _)

/-- Whatever the solver has come to, a newer snapshot may be dispatched. -/
theorem dispatched (told : shift.Told solver) (snapshot : Snapshot) :
    Told solver { shift with session := shift.session.step (.dispatch snapshot) } := by
  have staysOpen := Desk.Action.dispatch_ne_shutdown snapshot
  have effect := Desk.act_effect shift.session.desk (.dispatch snapshot)
  generalize acted : shift.session.desk.act (.dispatch snapshot) = after at effect
  cases effect with
  | refused =>
    exact told.of_undisturbed acted staysOpen rfl rfl told.faulty rfl rfl (Nat.le_refl _)
  | handedOver _ _ healthy =>
    exact told.of_undisturbed acted staysOpen rfl rfl (absurd healthy) rfl rfl (Nat.le_succ _)
  | lost _ isOpen healthy gone =>
    exact absurd gone (told.orderly.recorded.inLine.staffed isOpen healthy)

/-- Outside of a computation the worker may move on. -/
theorem waited (told : shift.Told solver) {step : Desk.Move}
    (isNext : shift.session.desk.nextMove? = some step) :
    Told solver { shift with session := shift.session.step (.move step) } := by
  obtain ⟨published, done, fault, newest, begins⟩ := Desk.nextMove?_quiet isNext
  have solving := told.idle (Desk.nextMove?_cases isNext).1
  have faulty := told.faulty
  rw [← done, ← fault, ← newest] at faulty
  refine told.of_unanswered rfl (Desk.Action.move_ne_shutdown step) published done faulty
    (fun _ => solving) fun job computing => ?_
  obtain ⟨waits, running⟩ := begins job computing
  -- Nothing was solved or shown for a job that has waited until now.
  have behind := told.orderly.recorded.inLine.running_lt_pending waits
  refine ⟨running, told.orderly.recorded.waiting job waits, ?_⟩
  rw [solving]
  exact ⟨Nat.lt_of_le_of_lt told.lastAccepted_le behind,
    fun call called => Nat.lt_of_le_of_lt (told.known call called).1 behind⟩

theorem cancelled (told : shift.Told solver) (generation : Nat) :
    Told solver { shift with session := shift.session.step (.move (.cancel generation)) } :=
  told.of_undisturbed rfl (Desk.Action.move_ne_shutdown _) rfl rfl told.faulty rfl rfl
    (Nat.le_refl _)

/-- What was shown so far is older than a generation that is newer than the last of it. -/
theorem shown_lt (told : shift.Told solver) {generation : Nat}
    (unshown : shift.session.lastAccepted < generation) :
    ∀ earlier ∈ shift.session.acceptances.map Acceptance.generation, earlier < generation := by
  intro earlier member
  cases last : shift.session.acceptances.getLast? with
  | none =>
    rw [List.getLast?_eq_none_iff.1 last] at member
    cases member
  | some acceptance =>
    have isLast : (shift.session.acceptances.map Acceptance.generation).getLast? =
        some acceptance.generation := by
      rw [List.getLast?_map, last]
      rfl
    rw [lastAccepted, last] at unshown
    exact Nat.lt_of_le_of_lt (Desk.le_last told.shown isLast earlier member) unshown

section Computing

variable {job : Job} (computing : shift.session.desk.phase = .computing job)

include computing

theorem healthy (told : shift.Told solver) : shift.session.desk.fault = none :=
  told.orderly.retains.healthy (by rw [computing]; rfl)

theorem inside {after : Desk} (phase : after.phase = shift.session.desk.phase) :
    after.isComputing ≠ false := by
  rw [Desk.isComputing, phase, computing]
  exact Bool.false_ne_true.symm

/-- The computation comes to another stage, with nothing told to the desk. -/
theorem turnsTo (told : shift.Told solver)
    (stands : Stands solver shift.calls job.generation shift.session.desk.newest
      shift.session.lastAccepted later) : Told solver { shift with stage := later } := by
  refine { told with idle := fun outside => ?_, busy := fun other same => ?_ }
  · exact absurd outside (inside computing rfl)
  · cases computing.symm.trans same
    obtain ⟨running, known, -⟩ := told.busy job computing
    exact ⟨running, known, stands⟩

/-- A computation that goes wrong has shown nothing. -/
theorem stumbles (told : shift.Told solver)
    (unshown : shift.session.lastAccepted < job.generation) (failure : SolverFailure) :
    Told solver { shift with stage := .solved (.error failure) } := by
  refine told.turnsTo computing ⟨unshown, fun schedule made => ?_⟩
  cases made

/-- The solver answers, and what it was given is written down. -/
theorem returned (told : shift.Told solver) (solving : shift.stage = .solving) (memory : Memory) :
    Told solver
      { shift with
        memory
        stage := .solved ((shift.callFor job).result solver)
        calls := shift.calls ++ [shift.callFor job] } := by
  obtain ⟨running, known, stands⟩ := told.busy job computing
  rw [solving] at stands
  obtain ⟨unshown, uncalled⟩ := stands
  refine { told with
    called := ?_
    known := fun call called => ?_
    made := fun acceptance accepted => (told.made acceptance accepted).append _
    idle := fun outside => absurd outside (inside computing rfl)
    busy := fun other same => ?_ }
  · rw [List.map_append, List.pairwise_append]
    refine ⟨told.called, List.pairwise_singleton _ _, fun earlier member now isNow => ?_⟩
    obtain ⟨call, called, rfl⟩ := List.mem_map.1 member
    rw [List.mem_singleton.1 isNow]
    exact uncalled call called
  · rcases List.mem_append.1 called with before | now
    · exact told.known call before
    · rw [List.mem_singleton.1 now]
      exact ⟨Nat.le_of_eq running.symm, known⟩
  · cases computing.symm.trans same
    refine ⟨running, known, unshown, fun schedule answer => ?_⟩
    exact ⟨shift.callFor job, List.mem_append_right _ (List.mem_singleton_self _), rfl, answer⟩

/-- A schedule that the desk takes is shown, or comes too late. -/
theorem publishes (told : shift.Told solver) (approved : shift.stage = .approved schedule)
    (taken : (Desk.updateSchedule schedule shift.session.desk).1 = .ok ()) :
    Told solver
      { shift with
        stage := .published
        session := shift.session.step (.move (.publish schedule)) } := by
  obtain ⟨begun, known, stands⟩ := told.busy job computing
  rw [approved] at stands
  obtain ⟨unshown, made⟩ := stands
  rcases Desk.updateSchedule_cases taken with ⟨older, ignored⟩ | shown
  · have late : Stands solver shift.calls job.generation shift.session.desk.newest
        shift.session.lastAccepted .published := fun isNewest => absurd (begun.trans isNewest) older
    exact (told.turnsTo computing late).of_ignored ignored
  · have desk : (shift.session.step (.move (.publish schedule))).desk = _ := shown
    have accepts := acceptances_step_of_shown shown
    have last := lastAccepted_step_of_shown shown
    constructor
    · exact told.orderly.step (Desk.Action.move_ne_shutdown _)
    · exact told.called
    · intro call called
      obtain ⟨notNewer, snapshot⟩ := told.known call called
      exact ⟨desk ▸ notNewer, snapshot?_step snapshot _⟩
    · rw [accepts, List.map_append, List.pairwise_append]
      refine ⟨told.shown, List.pairwise_singleton _ _, fun earlier member now isNow => ?_⟩
      rw [List.mem_singleton.1 isNow]
      exact told.shown_lt (begun ▸ unshown) earlier member
    · rw [accepts]
      intro acceptance accepted
      rcases List.mem_append.1 accepted with before | now
      · exact told.made acceptance before
      · rw [List.mem_singleton.1 now]
        exact begun ▸ made
    · exact told.counted
    · exact desk ▸ told.bounded
    · rw [accepts, List.map_append]
      exact fun generation signal => List.mem_append_left _ (told.heard generation signal)
    · rw [last, desk]
      exact Nat.le_trans told.answered told.lastAccepted_le
    · rw [desk]
      exact absurd (told.healthy computing)
    · rw [desk]
      exact fun outside => absurd outside (inside computing rfl)
    · rw [last, desk]
      intro other same
      cases computing.symm.trans same
      exact ⟨begun, snapshot?_step known _, fun _ => begun⟩

/-- To say that one is done counts only for the newest generation, whose schedule is shown. -/
theorem signals_done (told : shift.Told solver) (published : shift.stage = .published) :
    Told solver
      { shift with
        stage := .signalled
        session := shift.session.step (.move .signalDone)
        signals := shift.signals ++
          Desk.answered shift.session.desk (shift.session.desk.move .signalDone) } := by
  obtain ⟨begun, known, shown⟩ := told.busy job computing
  rw [published] at shown
  have effect := Desk.move_effect shift.session.desk .signalDone
  generalize acted : shift.session.desk.move .signalDone = after at effect
  cases effect with
  | nothing =>
    rw [Desk.answered_of_done rfl, List.append_nil]
    have spoken : Stands solver shift.calls job.generation shift.session.desk.newest
        shift.session.lastAccepted .signalled := trivial
    exact (told.turnsTo computing spoken).of_ignored acted
  | answered isNewest unanswered =>
    have current : job.generation = shift.session.desk.newest := begun.symm.trans isNewest
    have latest : shift.session.lastAccepted = shift.session.desk.newest :=
      (shown current).trans current
    have behind : shift.session.desk.done < shift.session.desk.newest := by
      have answered := told.answered
      omega
    rw [Desk.answered, if_neg (Ne.symm unanswered)]
    refine told.of_same acted (Desk.Action.move_ne_shutdown _) rfl (Nat.le_of_eq latest.symm)
      ?_ ?_ ?_ (absurd (told.healthy computing))
      (fun outside => absurd outside (inside computing rfl)) fun other same => ?_
    · rw [List.pairwise_append]
      refine ⟨told.counted, List.pairwise_singleton _ _, fun earlier signal now isNow => ?_⟩
      rw [List.mem_singleton.1 isNow]
      exact Nat.lt_of_le_of_lt (told.bounded earlier signal) behind
    · intro generation signal
      rcases List.mem_append.1 signal with before | now
      · exact Nat.le_trans (told.bounded generation before) (Nat.le_of_lt behind)
      · exact Nat.le_of_eq (List.mem_singleton.1 now)
    · intro generation signal
      rcases List.mem_append.1 signal with before | now
      · exact told.heard generation before
      · have positive : shift.session.lastAccepted ≠ 0 := by omega
        obtain ⟨acceptance, last, isLast⟩ := getLast?_of_lastAccepted positive
        rw [List.mem_singleton.1 now, ← latest, ← isLast]
        exact List.mem_map_of_mem (List.mem_of_getLast? last)
    · cases computing.symm.trans same
      exact ⟨begun, known, trivial⟩

/-- A computation that fails has not been answered. -/
theorem finishes (told : shift.Told solver) {outcome : Except SolverFailure Unit}
    (unanswered : ∀ failure, outcome = .error failure →
      shift.session.lastAccepted < job.generation) :
    Told solver
      { shift with
        stage := .solving
        session := shift.session.step (.move (.finish outcome)) } := by
  obtain ⟨begun, -, -⟩ := told.busy job computing
  have staysOpen := Desk.Action.move_ne_shutdown (.finish outcome)
  rcases Desk.finish_cases computing outcome with waits | ⟨failure, failed, leaves⟩
  · exact told.of_unanswered waits staysOpen rfl rfl (absurd (told.healthy computing))
      (fun _ => rfl) fun _ inside => WorkerPhase.noConfusion inside
  · refine told.of_unanswered leaves staysOpen rfl rfl (fun _ => ?_) (fun _ => rfl)
      fun _ inside => WorkerPhase.noConfusion inside
    have older := told.orderly.running_le_newest
    have behind := unanswered failure failed
    have answered := told.answered
    show shift.session.desk.done < shift.session.desk.newest
    omega

end Computing

/-! ### Every shift is told so -/

/-- A step of the worker keeps all that is written down. -/
theorem turn {next : Shift Memory} (told : shift.Told solver) (turns : Turn solver shift next) :
    next.Told solver := by
  cases turns with
  | rested => exact told
  | waited isNext => exact told.waited isNext
  | returned computing solving memory withdraws =>
    have answered := told.returned computing solving memory
    rcases withdraws with rfl | rfl
    · exact answered
    · exact answered.cancelled _
  | @approved job schedule computing solved =>
    obtain ⟨-, -, stands⟩ := told.busy job computing
    rw [solved] at stands
    have approved : Stands solver shift.calls job.generation shift.session.desk.newest
        shift.session.lastAccepted (.approved schedule) := ⟨stands.1, stands.2 schedule rfl⟩
    exact told.turnsTo computing approved
  | withdrawn computing solved =>
    obtain ⟨-, -, stands⟩ := told.busy _ computing
    rw [solved] at stands
    exact told.stumbles computing stands.1 _
  | misfit computing approved refused =>
    obtain ⟨-, -, stands⟩ := told.busy _ computing
    rw [approved] at stands
    exact told.stumbles computing stands.1 _
  | published computing approved taken => exact told.publishes computing approved taken
  | signalled computing published => exact told.signals_done computing published
  | failed computing solved =>
    obtain ⟨-, -, stands⟩ := told.busy _ computing
    rw [solved] at stands
    exact told.finishes computing fun _ _ => stands.1
  | ended computing signalled =>
    refine told.finishes computing fun failure failed => ?_
    cases failed

theorem step (told : shift.Told solver) (happening : Happening) :
    (shift.step solver happening).Told solver := by
  cases happening with
  | dispatch snapshot => exact told.dispatched snapshot
  | turn => exact told.turn (turn_cases solver shift)

/-- The story of every shift is told truly. -/
theorem after (told : shift.Told solver) (happenings : List Happening) :
    (shift.after solver happenings).Told solver :=
  after_induction (fun _ happening told => told.step happening) told happenings

end Told

/-! ### The newest snapshot -/

namespace Told

variable {solver : BlockingSolver Memory} {shift : Shift Memory}

/-- Without an outstanding snapshot the newest generation was accepted last. -/
theorem latest (told : shift.Told solver) (answered : shift.session.desk.isOutstanding = false) :
    shift.session.lastAccepted = shift.session.desk.newest := by
  have done : shift.session.desk.newest ≤ shift.session.desk.done :=
    Nat.le_of_not_lt (of_decide_eq_false answered)
  have shown := told.answered
  have begun := told.lastAccepted_le
  have notNewer := told.orderly.running_le_newest
  omega

/-- The call for a generation is the only one. -/
theorem call_unique (told : shift.Told solver) {call other : Call Memory}
    (called : call ∈ shift.calls) (calledToo : other ∈ shift.calls)
    (same : other.generation = call.generation) : other = call := by
  have distinct : (shift.calls.map Call.generation).Nodup := told.called.imp Nat.ne_of_lt
  exact List.inj_on_of_nodup_map distinct calledToo called same

/-- The board shows what the solver has made of the newest snapshot. -/
theorem shows_newest (told : shift.Told solver)
    (answered : shift.session.desk.isOutstanding = false) {snapshot : Snapshot}
    (newest : shift.session.snapshots.getLast? = some snapshot) :
    ∃ call ∈ shift.calls, call.generation = shift.session.desk.newest ∧ call.snapshot = snapshot ∧
      (∀ other ∈ shift.calls, other.generation = shift.session.desk.newest → other = call) ∧
        ∃ schedule, call.result solver = .ok schedule ∧
          shift.session.desk.currentSchedule = .ok schedule ∧
            schedule.size = snapshot.vehicles.length := by
  have latest := told.latest answered
  rw [← told.orderly.recorded.snapshot?_newest] at newest
  have handed : shift.session.lastAccepted ≠ 0 := by
    intro none
    rw [← latest, none] at newest
    cases newest
  obtain ⟨acceptance, last, generation⟩ := getLast?_of_lastAccepted handed
  rw [latest] at generation
  have accepted := List.mem_of_getLast? last
  obtain ⟨call, called, sameGeneration, made⟩ := told.made acceptance accepted
  obtain ⟨-, known⟩ := told.known call called
  obtain ⟨sized, knownToo, fits⟩ := told.orderly.published.sizes acceptance accepted
  rw [generation] at knownToo sameGeneration
  rw [sameGeneration] at known
  cases known.symm.trans newest
  cases knownToo.symm.trans newest
  refine ⟨call, called, sameGeneration, rfl, fun other calledToo same => ?_,
    acceptance.publication.schedule, made, ?_, fits⟩
  · exact told.call_unique called calledToo (same.trans sameGeneration.symm)
  · rw [Desk.currentSchedule, told.orderly.published.board, last]
    rfl

/-- Every signal that counted belongs to a schedule of its own. -/
theorem signals_le (told : shift.Told solver) :
    shift.signals.length ≤ shift.session.acceptances.length := by
  have distinct : shift.signals.Nodup := told.counted.imp Nat.ne_of_lt
  have among := (List.subperm_of_subset distinct told.heard).length_le
  rwa [List.length_map] at among

end Told

end LiveFleet.BlockingSolver.Shift
