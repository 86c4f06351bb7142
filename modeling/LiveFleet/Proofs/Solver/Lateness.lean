/-
This file proves that a blocking solver answers the newest snapshot or none. A newer
snapshot may come between any two steps of a computation: before the solver returns,
before it looks at its token, before the schedule is published, and before the solver
says that it is done. In each of these windows something else stops what the older
computation still has to tell, and no window lets its schedule through; not even a
schedule of the wrong size makes it fail then. Once the desk has nothing outstanding,
the board therefore shows what the solver has made of the newest snapshot.
-/
import LiveFleet.Proofs.Solver.Diary

namespace LiveFleet.BlockingSolver.Shift

open Session

variable {Memory : Type}

/-! ### Computations that come too late -/

/-- The computation of a job has a schedule in hand, and a newer snapshot has come. -/
def IsLate (shift : Shift Memory) (job : Job) (schedule : Schedule) : Prop :=
  shift.session.desk.phase = .computing job ∧ job.generation ≠ shift.session.desk.newest ∧
    (shift.stage = .solved (.ok schedule) ∨ shift.stage = .approved schedule)

/-- A computation at this stage has solved, and can at most complain of its token. -/
def IsSpent : Stage → Prop
  | .solving => False
  | .solved (.error failure) => failure = .refused .cancelled
  | _ => True

/-- A generation is not the newest and has shown nothing; as long as no newer one is begun, no fault
is stored and the board stays as it is. -/
structure Overtaken (generation : Nat) (board : Option Publication) (stage : Stage)
    (session : Session) : Prop where
  begun : generation ≤ session.desk.running
  older : generation < session.desk.newest
  unshown : ∀ acceptance ∈ session.acceptances, acceptance.generation ≠ generation
  quiet : session.desk.running = generation → session.desk.fault = none ∧
    session.desk.published = board ∧
      ∀ job, session.desk.phase = .computing job → IsSpent stage

namespace Overtaken

variable {solver : BlockingSolver Memory} {shift : Shift Memory} {generation : Nat}
  {board : Option Publication} {stage later : Stage} {session : Session} {action : Desk.Action}

theorem of_late (told : shift.Told solver) {job : Job} {schedule : Schedule}
    (late : shift.IsLate job schedule) :
    Overtaken job.generation shift.session.desk.published shift.stage shift.session := by
  obtain ⟨computing, superseded, solved⟩ := late
  obtain ⟨running, -, stands⟩ := told.busy job computing
  have notNewer := told.orderly.running_le_newest
  have unshown : shift.session.lastAccepted < job.generation := by
    rcases solved with solved | solved
    · rw [solved] at stands
      exact stands.1
    · rw [solved] at stands
      exact stands.1
  refine ⟨Nat.le_of_eq running.symm, by omega, fun acceptance accepted => ?_, fun _ => ?_⟩
  · exact Nat.ne_of_lt (told.shown_lt unshown _ (List.mem_map_of_mem accepted))
  · refine ⟨told.healthy computing, rfl, fun _ _ => ?_⟩
    rcases solved with solved | solved
    · rw [solved]
      trivial
    · rw [solved]
      trivial

/-- The computation comes to another stage. -/
theorem turnsTo (overtaken : Overtaken generation board stage session)
    (spent : session.desk.running = generation → IsSpent later) :
    Overtaken generation board later session :=
  { overtaken with
    quiet := fun same =>
      ⟨(overtaken.quiet same).1, (overtaken.quiet same).2.1, fun _ _ => spent same⟩ }

/-- An action shows nothing of the generation, nor stores a fault, unless a newer one is running. -/
theorem acts {after : Desk} (overtaken : Overtaken generation board stage session)
    (recorded : session.Recorded) (acted : session.desk.act action = after)
    (newest : session.desk.newest ≤ after.newest)
    (same : session.desk.running = generation → after.published = session.desk.published)
    (quiet : session.desk.running = generation → after.running = generation →
      after.fault = none ∧ ∀ job, after.phase = .computing job → IsSpent later) :
    Overtaken generation board later (session.step action) := by
  subst acted
  have effect := Desk.act_effect session.desk action
  have onward := Desk.running_le_act recorded.inLine effect
  have begun := overtaken.begun
  refine ⟨Nat.le_trans begun onward, Nat.lt_of_lt_of_le overtaken.older newest, ?_, ?_⟩
  · intro acceptance accepted
    rcases List.mem_append.1 accepted with before | now
    · exact overtaken.unshown acceptance before
    · rcases Desk.accepted_cases effect with ⟨nothing, -⟩ | ⟨schedule, accepts, shown, -⟩
      · rw [nothing] at now
        cases now
      · rw [accepts] at now
        rw [List.mem_singleton.1 now]
        intro running
        exact absurd (shown.symm.trans (same running)) (Desk.next_ne_published _ schedule)
  · intro running
    have before : session.desk.running = generation := by
      have notNewer : session.desk.running ≤ generation := running ▸ onward
      omega
    obtain ⟨healthy, spent⟩ := quiet before running
    exact ⟨healthy, (same before).trans (overtaken.quiet before).2.1, spent⟩

theorem dispatched (overtaken : Overtaken generation board stage session)
    (recorded : session.Recorded) (snapshot : Snapshot) :
    Overtaken generation board stage (session.step (.dispatch snapshot)) := by
  have effect := Desk.act_effect session.desk (.dispatch snapshot)
  generalize acted : session.desk.act (.dispatch snapshot) = after at effect
  cases effect with
  | refused =>
    exact overtaken.acts recorded acted (Nat.le_refl _) (fun _ => rfl) fun running _ =>
      ⟨(overtaken.quiet running).1, (overtaken.quiet running).2.2⟩
  | handedOver | lost =>
    exact overtaken.acts recorded acted (Nat.le_succ _) (fun _ => rfl) fun running _ =>
      ⟨(overtaken.quiet running).1, (overtaken.quiet running).2.2⟩

theorem waited (overtaken : Overtaken generation board stage session)
    (recorded : session.Recorded) {step : Desk.Move}
    (isNext : session.desk.nextMove? = some step) :
    Overtaken generation board stage (session.step (.move step)) := by
  obtain ⟨published, -, fault, newest, begins⟩ := Desk.nextMove?_quiet isNext
  refine overtaken.acts recorded rfl (Nat.le_of_eq newest.symm) (fun _ => published)
    fun running begun => ?_
  refine ⟨fault.trans (overtaken.quiet running).1, fun job computing => ?_⟩
  obtain ⟨waits, started⟩ := begins job computing
  have behind := recorded.inLine.running_lt_pending waits
  have begun : (session.desk.move step).running = generation := begun
  omega

/-- What the worker tells the desk comes to nothing. -/
theorem tells {step : Desk.Move} {after : Desk}
    (overtaken : Overtaken generation board stage session) (recorded : session.Recorded)
    (acted : session.desk.move step = after) (newest : after.newest = session.desk.newest)
    (same : session.desk.running = generation → after.published = session.desk.published)
    (healthy : session.desk.running = generation → after.fault = session.desk.fault)
    (spent : session.desk.running = generation →
      ∀ job, after.phase = .computing job → IsSpent later) :
    Overtaken generation board later (session.step (.move step)) :=
  overtaken.acts recorded acted (Nat.le_of_eq newest.symm) same fun running _ =>
    ⟨(healthy running).trans (overtaken.quiet running).1, spent running⟩

theorem signals (overtaken : Overtaken generation board stage session)
    (recorded : session.Recorded) :
    Overtaken generation board .signalled (session.step (.move .signalDone)) := by
  rcases Desk.doneForNow_cases session.desk with ignored | ⟨-, answered⟩
  · exact overtaken.tells recorded ignored rfl (fun _ => rfl) (fun _ => rfl)
      fun _ _ _ => trivial
  · exact overtaken.tells recorded answered rfl (fun _ => rfl) (fun _ => rfl)
      fun _ _ _ => trivial

section Computing

variable {job : Job} (computing : shift.session.desk.phase = .computing job)
  (told : shift.Told solver)
  (overtaken : Overtaken generation board shift.stage shift.session)

include computing told overtaken

/-- While the computation goes on, its generation is not the newest, and its token is cancelled. -/
theorem lost (running : shift.session.desk.running = generation) :
    shift.session.desk.running ≠ 0 ∧ shift.session.desk.running ≠ shift.session.desk.newest ∧
      (shift.session.desk.token job.generation).isCancelled = true ∧ IsSpent shift.stage := by
  obtain ⟨begun, known, -⟩ := told.busy job computing
  have positive : job.generation ≠ 0 := by
    intro none
    rw [none] at known
    cases known
  have older := overtaken.older
  refine ⟨by omega, by omega, ?_, (overtaken.quiet running).2.2 job computing⟩
  exact told.orderly.supersedes.token positive (by omega)

theorem publishes {schedule : Schedule} :
    Overtaken generation board .published (shift.session.step (.move (.publish schedule))) := by
  -- That the schedule comes too late is found before anybody looks at its size.
  have ignored : shift.session.desk.running = generation →
      shift.session.desk.move (.publish schedule) = shift.session.desk := by
    intro running
    obtain ⟨begun, older, -⟩ := lost computing told overtaken running
    exact congrArg Prod.snd (Desk.updateSchedule_of_older begun older schedule)
  have newest := (Desk.move_cases shift.session.desk (.publish schedule)).1
  exact overtaken.tells told.orderly.recorded rfl newest (fun running => by rw [ignored running])
    (fun running => by rw [ignored running]) fun _ _ _ => trivial

/-- The complaint that the token is cancelled is what the desk expects. -/
theorem finishes {outcome : Except SolverFailure Unit}
    (spent : shift.session.desk.running = generation →
      ∀ failure, outcome = .error failure → failure = .refused .cancelled) :
    Overtaken generation board .solving (shift.session.step (.move (.finish outcome))) := by
  rcases Desk.finish_cases computing outcome with waits | ⟨failure, failed, leaves⟩
  · exact overtaken.tells told.orderly.recorded waits rfl (fun _ => rfl) (fun _ => rfl)
      fun _ _ again => WorkerPhase.noConfusion again
  · refine overtaken.tells told.orderly.recorded leaves rfl (fun _ => rfl) (fun running => ?_)
      fun _ _ again => WorkerPhase.noConfusion again
    obtain ⟨-, -, cancelled, -⟩ := lost computing told overtaken running
    have waits := Desk.finish_of_expected computing ⟨spent running failure failed, cancelled⟩
    rw [← failed, leaves] at waits
    have awake : WorkerPhase.leaving = .waiting := congrArg Desk.phase waits
    cases awake

end Computing

theorem turn {next : Shift Memory} (told : shift.Told solver) (turns : Turn solver shift next)
    (overtaken : Overtaken generation board shift.stage shift.session) :
    Overtaken generation board next.stage next.session := by
  cases turns with
  | rested => exact overtaken
  | waited isNext => exact overtaken.waited told.orderly.recorded isNext
  | returned computing solving memory withdraws =>
    have newer : shift.session.desk.running ≠ generation := by
      intro running
      obtain ⟨-, -, -, spent⟩ := lost computing told overtaken running
      rw [solving] at spent
      exact spent
    rcases withdraws with rfl | rfl
    · exact overtaken.turnsTo fun running => absurd running newer
    · exact overtaken.tells told.orderly.recorded rfl rfl (fun _ => rfl) (fun _ => rfl)
        fun running => absurd running newer
  | approved computing solved => exact overtaken.turnsTo fun _ => trivial
  | withdrawn computing solved => exact overtaken.turnsTo fun _ => rfl
  | misfit computing approved refused =>
    refine overtaken.turnsTo fun running => ?_
    obtain ⟨begun, older, -⟩ := lost computing told overtaken running
    rw [Desk.updateSchedule_of_older begun older] at refused
    cases refused
  | published computing approved taken => exact publishes computing told overtaken
  | signalled computing published => exact overtaken.signals told.orderly.recorded
  | failed computing solved =>
    refine finishes computing told overtaken fun running failure same => ?_
    obtain ⟨-, -, -, spent⟩ := lost computing told overtaken running
    rw [solved] at spent
    cases same
    exact spent
  | ended computing signalled =>
    refine finishes computing told overtaken fun _ failure failed => ?_
    cases failed

/-- A computation that comes too late stays without effect, whatever happens later. -/
theorem after (told : shift.Told solver)
    (overtaken : Overtaken generation board shift.stage shift.session)
    (happenings : List Happening) :
    Overtaken generation board (shift.after solver happenings).stage
      (shift.after solver happenings).session := by
  have kept : ∀ (shift : Shift Memory) (happening : Happening),
      shift.Told solver ∧ Overtaken generation board shift.stage shift.session →
        (shift.step solver happening).Told solver ∧
          Overtaken generation board (shift.step solver happening).stage
            (shift.step solver happening).session := by
    intro shift happening both
    refine ⟨both.1.step happening, ?_⟩
    cases happening with
    | dispatch snapshot => exact both.2.dispatched both.1.orderly.recorded snapshot
    | turn => exact both.2.turn both.1 (turn_cases solver shift)
  exact (after_induction kept ⟨told, overtaken⟩ happenings).2

end Overtaken

/-! ### What a shift promises -/

/-- Whatever the solver is, and however snapshots and the steps of its worker alternate: a desk
without an outstanding snapshot shows what the solver has made of the newest one, with an entry for
each of its vehicles; no generation is shown twice; a schedule that a newer snapshot has overtaken
is never shown and stores no fault, whatever its size; and no more signals count than schedules are
shown. -/
theorem answers_the_newest (solver : BlockingSolver Memory) (memory : Memory)
    (switch : PaceSwitch) (happenings : List Happening) :
    let shift := (Shift.opened switch memory).after solver happenings
    (∀ snapshot, shift.session.snapshots.getLast? = some snapshot →
      shift.session.desk.isOutstanding = false →
        ∃ call ∈ shift.calls, call.generation = shift.session.desk.newest ∧
          call.snapshot = snapshot ∧
            (∀ other ∈ shift.calls, other.generation = shift.session.desk.newest → other = call) ∧
              ∃ schedule, call.result solver = .ok schedule ∧
                shift.session.desk.currentSchedule = .ok schedule ∧
                  schedule.size = snapshot.vehicles.length) ∧
    (shift.session.acceptances.map Acceptance.generation).Pairwise (· < ·) ∧
    (∀ job schedule, shift.IsLate job schedule → ∀ later : List Happening,
      let session := (shift.after solver later).session
      (∀ acceptance ∈ session.acceptances, acceptance.generation ≠ job.generation) ∧
        (session.desk.running = job.generation →
          session.desk.fault = none ∧ session.desk.published = shift.session.desk.published)) ∧
    shift.signals.length ≤ shift.session.acceptances.length := by
  intro shift
  have told : shift.Told solver := (Told.opened solver switch memory).after happenings
  refine ⟨fun snapshot newest answered => told.shows_newest answered newest, told.shown, ?_,
    told.signals_le⟩
  intro job schedule late later
  have overtaken := (Overtaken.of_late told late).after told later
  exact ⟨overtaken.unshown, fun running =>
    ⟨(overtaken.quiet running).1, (overtaken.quiet running).2.1⟩⟩

/-- A solver that plans nothing, for as many vehicles as the clock shows. -/
def byTheClock : BlockingSolver Unit where
  solve := fun snapshot reached => (.ok (.empty snapshot.time), reached)

/-- A snapshot of vehicles that have nothing to do. -/
def parked (time vehicles : Nat) : Snapshot :=
  ⟨time, [], (List.range vehicles).map fun index => ⟨⟨index⟩, .origin, [], none⟩⟩

/-- A shift at which three routes are in hand for one vehicle when a newer snapshot comes. -/
def tooLate : Shift Unit :=
  (Shift.opened (.start .simulated) ()).after byTheClock
    [.dispatch (parked 3 1), .turn, .turn, .turn, .turn, .dispatch (parked 2 2)]

/-- The three routes do no harm, and the two for the newer snapshot are shown. -/
theorem answers_the_newest_overtaken :
    tooLate.IsLate ⟨1, parked 3 1⟩ (.empty 3) ∧
      (∀ acceptance ∈ (tooLate.after byTheClock (List.replicate 9 .turn)).session.acceptances,
        acceptance.generation ≠ 1) ∧
      (tooLate.after byTheClock (List.replicate 9 .turn)).session.desk.isOutstanding = false ∧
      (tooLate.after byTheClock (List.replicate 9 .turn)).session.desk.published =
        some ⟨1, .empty 2⟩ := by
  have late : tooLate.IsLate ⟨1, parked 3 1⟩ (.empty 3) := ⟨rfl, by decide, .inl rfl⟩
  obtain ⟨-, -, ignored, -⟩ := answers_the_newest byTheClock () (.start .simulated)
    [.dispatch (parked 3 1), .turn, .turn, .turn, .turn, .dispatch (parked 2 2)]
  have unshown := (ignored ⟨1, parked 3 1⟩ (.empty 3) late (List.replicate 9 .turn)).1
  refine ⟨late, unshown, ?_, ?_⟩
  · decide +kernel
  · decide +kernel

end LiveFleet.BlockingSolver.Shift
