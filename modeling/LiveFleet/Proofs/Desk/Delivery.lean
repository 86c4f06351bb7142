/-
This file proves that the newest snapshot reaches the solver. The worker computes
one snapshot at a time, each newer than the one before and each the newest of all
at the moment it is begun; and as long as the solver has not failed, the newest
snapshot waits, is in the worker's hands, or was the last one to be begun. The
worker drops jobs when it empties the queue and when it compares generations;
neither loses the newest snapshot, because a dispatch counts the generation up
and puts the job into the queue in one step.
-/
import LiveFleet.Proofs.Desk.Session

namespace LiveFleet.Session

open Desk

/-! ### The record of the computations -/

/-- Zero, and the generations whose computation was begun, the oldest first. -/
def begunGenerations (session : Session) : List Nat :=
  0 :: session.starts.map fun start => start.job.generation

/-- The story agrees with the desk: the jobs carry the snapshots of their generations, and the
computations were begun in the order of the generations, each as the newest one. -/
structure Recorded (session : Session) : Prop where
  inLine : session.desk.InLine
  counted : session.snapshots.length = session.desk.newest
  waiting : ∀ job ∈ session.desk.pending, session.snapshot? job.generation = some job.snapshot
  matched : ∀ start ∈ session.starts, start.job.generation = start.newest ∧
    session.snapshot? start.job.generation = some start.job.snapshot
  increasing : session.begunGenerations.Pairwise (· < ·)
  last : session.begunGenerations.getLast? = some session.desk.running
  balanced : session.starts.length = session.returns + if session.desk.isComputing then 1 else 0
  vehicles : session.desk.running = 0 ∨
    ∃ snapshot, session.snapshot? session.desk.running = some snapshot ∧
      session.desk.vehicles = snapshot.vehicles.length

theorem recorded_opened (switch : PaceSwitch) : (opened switch).Recorded where
  inLine := .opened switch
  counted := rfl
  waiting := fun _ waits => nomatch waits
  matched := fun _ begun => nomatch begun
  increasing := List.pairwise_singleton _ _
  last := rfl
  balanced := rfl
  vehicles := .inl rfl

namespace Recorded

variable {session : Session}

/-- The snapshot that is handed over next belongs to the next generation. -/
theorem snapshot?_handed (recorded : session.Recorded) {action : Action} {snapshot : Snapshot}
    (handed : session.desk.handed action = [snapshot]) :
    (session.step action).snapshot? (session.desk.newest + 1) = some snapshot := by
  show (session.snapshots ++ session.desk.handed action)[session.desk.newest]? = some snapshot
  rw [handed, ← recorded.counted, List.getElem?_append_right (Nat.le_refl _), Nat.sub_self]
  rfl

theorem counted_step (recorded : session.Recorded) (action : Action) :
    (session.step action).snapshots.length = (session.step action).desk.newest := by
  show (session.snapshots ++ session.desk.handed action).length = (session.desk.act action).newest
  rw [List.length_append, recorded.counted]
  rcases handed_cases recorded.inLine (act_effect session.desk action) with
    ⟨nothing, same, -⟩ | ⟨snapshot, handed, next, -⟩
  · rw [nothing, same]
    rfl
  · rw [handed, next]
    rfl

theorem waiting_step (recorded : session.Recorded) (action : Action) :
    ∀ job ∈ (session.step action).desk.pending,
      (session.step action).snapshot? job.generation = some job.snapshot := by
  intro job waits
  rcases handed_cases recorded.inLine (act_effect session.desk action) with
    ⟨-, -, older⟩ | ⟨snapshot, handed, -, older⟩
  · exact snapshot?_step (recorded.waiting job (older job waits)) action
  · rcases older job waits with before | rfl
    · exact snapshot?_step (recorded.waiting job before) action
    · exact recorded.snapshot?_handed handed

theorem matched_step (recorded : session.Recorded) (action : Action) :
    ∀ start ∈ (session.step action).starts, start.job.generation = start.newest ∧
      (session.step action).snapshot? start.job.generation = some start.job.snapshot := by
  intro start begun
  rcases List.mem_append.1 begun with before | now
  · obtain ⟨current, known⟩ := recorded.matched start before
    exact ⟨current, snapshot?_step known action⟩
  · rcases begun_cases (act_effect session.desk action) with
      ⟨nothing, -, -⟩ | ⟨job, waits, isNewest, started, -, -⟩
    · rw [nothing] at now
      cases now
    · rw [started, List.mem_singleton] at now
      subst now
      exact ⟨isNewest, snapshot?_step (recorded.waiting job waits) action⟩

/-- The generations that were begun stay in order, and the last of them is the running one. -/
theorem begunGenerations_step (recorded : session.Recorded) (action : Action) :
    (session.step action).begunGenerations.Pairwise (· < ·) ∧
      (session.step action).begunGenerations.getLast? =
        some (session.step action).desk.running := by
  have extended : (session.step action).begunGenerations =
      session.begunGenerations ++
        (begun session.desk (session.desk.act action)).map fun start => start.job.generation := by
    show 0 :: (session.starts ++ begun session.desk (session.desk.act action)).map _ = _
    rw [List.map_append]
    rfl
  rw [extended]
  show _ ∧ _ = some (session.desk.act action).running
  rcases begun_cases (act_effect session.desk action) with
    ⟨nothing, same, -⟩ | ⟨job, waits, -, started, running, -⟩
  · rw [nothing, same, List.map_nil, List.append_nil]
    exact ⟨recorded.increasing, recorded.last⟩
  · rw [started, running, List.map_singleton, List.getLast?_concat, List.pairwise_append]
    refine ⟨⟨recorded.increasing, List.pairwise_singleton _ _, ?_⟩, rfl⟩
    intro earlier member now isNow
    rw [List.mem_singleton.1 isNow]
    exact Nat.lt_of_le_of_lt (le_last recorded.increasing recorded.last earlier member)
      (recorded.inLine.running_lt_pending waits)

theorem balanced_step (recorded : session.Recorded) (action : Action) :
    (session.step action).starts.length =
      (session.step action).returns + if (session.step action).desk.isComputing then 1 else 0 := by
  have balance := begun_returned session.desk (session.desk.act action)
  have before := recorded.balanced
  show (session.starts ++ begun session.desk (session.desk.act action)).length =
    session.returns + returned session.desk (session.desk.act action) +
      if (session.desk.act action).isComputing then 1 else 0
  rw [List.length_append]
  omega

theorem vehicles_step (recorded : session.Recorded) (action : Action) :
    (session.step action).desk.running = 0 ∨
      ∃ snapshot,
        (session.step action).snapshot? (session.step action).desk.running = some snapshot ∧
          (session.step action).desk.vehicles = snapshot.vehicles.length := by
  show (session.desk.act action).running = 0 ∨
    ∃ snapshot, (session.step action).snapshot? (session.desk.act action).running = some snapshot ∧
      (session.desk.act action).vehicles = snapshot.vehicles.length
  rcases begun_cases (act_effect session.desk action) with
    ⟨-, same, sameVehicles⟩ | ⟨job, waits, -, -, running, vehicles⟩
  · rw [same, sameVehicles]
    rcases recorded.vehicles with none | ⟨snapshot, known, counted⟩
    · exact .inl none
    · exact .inr ⟨snapshot, snapshot?_step known action, counted⟩
  · rw [running]
    exact .inr ⟨job.snapshot, snapshot?_step (recorded.waiting job waits) action, vehicles⟩

theorem step (recorded : session.Recorded) (action : Action) : (session.step action).Recorded where
  inLine := recorded.inLine.act action
  counted := recorded.counted_step action
  waiting := recorded.waiting_step action
  matched := recorded.matched_step action
  increasing := (recorded.begunGenerations_step action).1
  last := (recorded.begunGenerations_step action).2
  balanced := recorded.balanced_step action
  vehicles := recorded.vehicles_step action

end Recorded

/-- The record of every story is right. -/
theorem recorded_run (switch : PaceSwitch) (actions : List Action) :
    (run switch actions).Recorded :=
  run_induction Recorded (recorded_opened switch) (fun _ action recorded => recorded.step action)
    actions

/-! ### The newest snapshot -/

theorem snapshot?_length (session : Session) :
    session.snapshot? session.snapshots.length = session.snapshots.getLast? := by
  rw [List.getLast?_eq_getElem?]
  cases counted : session.snapshots.length with
  | zero => rw [List.eq_nil_of_length_eq_zero counted, snapshot?, List.getElem?_nil]
  | succ earlier => rw [snapshot?, Nat.add_sub_cancel]

namespace Recorded

variable {session : Session}

/-- The running generation is that of the computation that was begun last. -/
theorem running_eq (recorded : session.Recorded) :
    session.desk.running =
      (session.starts.getLast?.map fun start => start.job.generation).getD 0 := by
  have last := recorded.last
  rw [begunGenerations, List.getLast?_cons, List.getLast?_map] at last
  exact (Option.some.inj last).symm

/-- Nothing was begun exactly if the running generation is none. -/
theorem running_eq_zero_iff (recorded : session.Recorded) :
    session.desk.running = 0 ↔ session.starts = [] := by
  rw [recorded.running_eq]
  cases last : session.starts.getLast? with
  | none => simp [List.getLast?_eq_none_iff.1 last]
  | some start =>
    have begun := List.mem_of_getLast? last
    have known := (recorded.matched start begun).2
    constructor
    · intro none
      rw [Option.map_some, Option.getD_some] at none
      rw [none] at known
      cases known
    · intro empty
      rw [empty] at begun
      cases begun

/-- Once the newest generation is running, the snapshot that was handed over last is the one that
was begun last. -/
theorem last_start (recorded : session.Recorded)
    (isNewest : session.desk.running = session.desk.newest)
    {snapshot : Snapshot} (handed : session.snapshots.getLast? = some snapshot) :
    session.starts.getLast?.map Start.job = some ⟨session.desk.newest, snapshot⟩ := by
  have newest : session.snapshot? session.desk.newest = some snapshot := by
    rw [← recorded.counted, snapshot?_length, handed]
  cases last : session.starts.getLast? with
  | none =>
    have nothing := recorded.running_eq_zero_iff.2 (List.getLast?_eq_none_iff.1 last)
    rw [← isNewest, nothing] at newest
    cases newest
  | some start =>
    have running := recorded.running_eq
    rw [last, Option.map_some, Option.getD_some, isNewest] at running
    have known := (recorded.matched start (List.mem_of_getLast? last)).2
    rw [← running, newest] at known
    rw [Option.map_some, running, Option.some.inj known]

end Recorded

/-- What is promised of the snapshots that are handed over. -/
structure KeepsNewest (session : Session) : Prop where
  /-- The worker is inside of at most one computation, and every other one has returned. -/
  oneAtATime :
    session.starts.length = session.returns + if session.desk.isComputing then 1 else 0
  /-- Later computations are of newer generations, so no generation is computed twice. -/
  increasing : (session.starts.map fun start => start.job.generation).Pairwise (· < ·)
  /-- Each computation was begun as the newest of all, with the snapshot of its generation. -/
  current : ∀ start ∈ session.starts, start.job.generation = start.newest ∧
    session.snapshot? start.job.generation = some start.job.snapshot
  /-- The newest generation waits, is in the worker's hands, or was begun. -/
  kept : session.desk.fault = none → session.snapshots ≠ [] →
    (∃ job ∈ session.desk.queue, job.generation = session.desk.newest) ∨
      (∃ job, (session.desk.phase = .draining job ∨ session.desk.phase = .claiming job) ∧
        job.generation = session.desk.newest) ∨
      session.desk.running = session.desk.newest
  /-- A worker that waits at an empty queue has begun the snapshot that was handed over last. -/
  delivered : session.desk.fault = none → session.desk.phase = .waiting →
    session.desk.queue = [] → ∀ snapshot, session.snapshots.getLast? = some snapshot →
      session.starts.getLast?.map Start.job = some ⟨session.desk.newest, snapshot⟩

theorem mem_inHand_iff {phase : WorkerPhase} {job : Job} :
    job ∈ phase.inHand ↔ phase = .draining job ∨ phase = .claiming job := by
  cases phase <;> simp [WorkerPhase.inHand, eq_comm]

/-- However the simulation, the worker and the solver take turns at a desk, the newest snapshot
reaches the solver. -/
theorem keepsNewest_run (switch : PaceSwitch) (actions : List Action) :
    (run switch actions).KeepsNewest := by
  have recorded := recorded_run switch actions
  generalize run switch actions = session at recorded
  refine ⟨recorded.balanced, (List.pairwise_cons.1 recorded.increasing).2, recorded.matched,
    ?_, ?_⟩
  · intro _ _
    rcases recorded.inLine.newest_cases with begun | ⟨job, waits, isNewest⟩
    · exact .inr (.inr begun)
    · rcases List.mem_append.1 waits with inHand | queued
      · exact .inr (.inl ⟨job, mem_inHand_iff.1 inHand, isNewest⟩)
      · exact .inl ⟨job, queued, isNewest⟩
  · intro _ waiting emptied snapshot handed
    refine recorded.last_start (recorded.inLine.running_eq_newest ?_) handed
    rw [pending, waiting, emptied]
    rfl

/-- Three snapshots in a row: the worker puts the first one aside when it finds the second in the
queue, drops that one when the third overtakes it, and begins the third. -/
theorem keepsNewest_burst :
    let last : Snapshot := ⟨3, [], []⟩
    let actions : List Action := [.dispatch ⟨1, [], []⟩, .move .take, .dispatch ⟨2, [], []⟩,
      .move .takeNewer, .move .keep, .dispatch last, .move .claim, .move .take, .move .keep,
      .move .claim, .move (.finish (.ok ()))]
    let session := run (.start .simulated) actions
    session.desk.fault = none ∧ session.desk.phase = .waiting ∧ session.desk.queue = [] ∧
      session.snapshots.getLast? = some last ∧
      session.starts.getLast?.map Start.job = some ⟨3, last⟩ :=
  ⟨rfl, rfl, rfl, rfl,
    (keepsNewest_run (.start .simulated) _).delivered rfl rfl rfl _ rfl⟩

end LiveFleet.Session
