/-
This file proves what still happens at a desk once it has been closed. Closing
cancels the token of the newest generation and takes no snapshot any more, but the
queue keeps what is in it, and the worker compares generations and never looks at a
token. So the newest snapshot, if it still waited, is computed all the same, by a
computation that finds its token cancelled. Nothing else is begun: every other job
that waits is older than the newest one, and dropped.
-/
import LiveFleet.Proofs.Desk.Delivery

namespace LiveFleet

namespace Desk

variable {desk : Desk}

/-! ### The token of the newest generation -/

/-- The desk can still cancel the token of its newest generation, or somebody has done so. -/
def MindsToken (desk : Desk) : Prop :=
  0 < desk.newest → desk.held = some desk.newest ∨ desk.newest ∈ desk.cancelled

theorem MindsToken.opened (switch : PaceSwitch) : (Desk.opened switch).MindsToken :=
  fun begun => absurd begun (Nat.lt_irrefl 0)

/-- With the token that the desk holds, that of the newest generation is cancelled. -/
theorem MindsToken.mem_cancelHeld (minds : desk.MindsToken) (begun : 0 < desk.newest) :
    desk.newest ∈ desk.held.toList ++ desk.cancelled := by
  rw [List.mem_append, Option.mem_toList]
  exact minds begun

theorem MindsToken.act (minds : desk.MindsToken) (action : Action) :
    (desk.act action).MindsToken := by
  have effect := act_effect desk action
  generalize desk.act action = after at effect
  cases effect with
  | handedOver | lost => exact fun _ => .inl rfl
  | closed => exact fun begun => .inr (minds.mem_cancelHeld begun)
  | cancelled generation =>
    exact fun begun => (minds begun).imp_right (List.mem_cons_of_mem generation)
  | _ => exact minds

/-! ### A closed desk -/

/-- A closed desk stays closed, its newest generation stays what it is, and no token recovers. -/
theorem act_of_closed (isClosed : desk.isOpen = false) (action : Action) :
    (desk.act action).isOpen = false ∧ (desk.act action).newest = desk.newest ∧
      ∀ generation ∈ desk.cancelled, generation ∈ (desk.act action).cancelled := by
  have effect := act_effect desk action
  generalize desk.act action = after at effect
  cases effect with
  | handedOver snapshot isOpen | lost snapshot isOpen =>
    rw [isClosed] at isOpen
    cases isOpen
  | closed => exact ⟨rfl, rfl, fun _ member => List.mem_append_right _ member⟩
  | cancelled => exact ⟨isClosed, rfl, fun _ member => List.mem_cons_of_mem _ member⟩
  | _ => exact ⟨isClosed, rfl, fun _ member => member⟩

/-- No job is added at a closed desk. -/
theorem pending_of_closed (inLine : desk.InLine) (isClosed : desk.isOpen = false)
    (action : Action) : ∀ job ∈ (desk.act action).pending, job ∈ desk.pending := by
  rcases handed_cases inLine (act_effect desk action) with ⟨-, -, older⟩ | ⟨_, -, next, -⟩
  · exact older
  · rw [(act_of_closed isClosed action).2.1] at next
    exact absurd next (Nat.ne_of_lt (Nat.lt_succ_self _))

end Desk

namespace Session

open Desk

/-! ### From the closing on -/

/-- Of the jobs that waited at the closing, the newest one has been begun since, or none. -/
def HasBegunNewest (closing session : Session) : Prop :=
  session.starts = closing.starts ∨
    ∃ job ∈ closing.desk.pending, job.generation = closing.desk.newest ∧
      session.starts = closing.starts ++ [⟨job, job.generation⟩] ∧
        session.desk.running = closing.desk.newest

/-- A moment after a desk was closed. -/
structure WindsDown (closing session : Session) : Prop where
  recorded : session.Recorded
  isClosed : session.desk.isOpen = false
  newest : session.desk.newest = closing.desk.newest
  waited : ∀ job ∈ session.desk.pending, job ∈ closing.desk.pending
  cancelled : 0 < closing.desk.newest → closing.desk.newest ∈ session.desk.cancelled
  starts : HasBegunNewest closing session

namespace WindsDown

variable {closing session : Session}

theorem of_closing (recorded : closing.Recorded) (minds : closing.desk.MindsToken) :
    WindsDown closing (closing.step .shutdown) where
  recorded := recorded.step .shutdown
  isClosed := rfl
  newest := by
    show (closing.desk.act .shutdown).newest = _
    rw [act_shutdown]
  waited := by
    show ∀ job ∈ (closing.desk.act .shutdown).pending, _
    rw [act_shutdown]
    exact fun _ waits => waits
  cancelled := by
    show _ → _ ∈ (closing.desk.act .shutdown).cancelled
    rw [act_shutdown]
    exact minds.mem_cancelHeld
  starts := by
    refine .inl ?_
    show closing.starts ++ begun closing.desk (closing.desk.act .shutdown) = closing.starts
    rw [begun_of_phase (by rw [act_shutdown]), List.append_nil]

/-- Once the newest generation is running, nothing that waits is as new. -/
theorem not_begun (windsDown : WindsDown closing session)
    (running : session.desk.running = closing.desk.newest) (action : Action) :
    begun session.desk (session.desk.act action) = [] ∧
      (session.desk.act action).running = session.desk.running := by
  rcases begun_cases (act_effect session.desk action) with
    ⟨nothing, same, -⟩ | ⟨job, waits, isNewest, -⟩
  · exact ⟨nothing, same⟩
  · have newer := windsDown.recorded.inLine.running_lt_pending waits
    rw [isNewest, running, windsDown.newest] at newer
    exact absurd newer (Nat.lt_irrefl _)

theorem starts_step (windsDown : WindsDown closing session) (action : Action) :
    HasBegunNewest closing (session.step action) := by
  have starts : (session.step action).starts =
      session.starts ++ begun session.desk (session.desk.act action) := rfl
  rcases windsDown.starts with same | ⟨job, waited, isNewest, added, running⟩
  · rcases begun_cases (act_effect session.desk action) with
      ⟨nothing, -, -⟩ | ⟨job, waits, isNewest, begins, running, -⟩
    · exact .inl (by rw [starts, nothing, List.append_nil, same])
    · rw [windsDown.newest] at isNewest
      refine .inr ⟨job, windsDown.waited job waits, isNewest, ?_, running.trans isNewest⟩
      rw [starts, begins, same, windsDown.newest, isNewest]
  · obtain ⟨nothing, stays⟩ := windsDown.not_begun running action
    refine .inr ⟨job, waited, isNewest, ?_, stays.trans running⟩
    rw [starts, nothing, List.append_nil, added]

theorem step (windsDown : WindsDown closing session) (action : Action) :
    WindsDown closing (session.step action) := by
  obtain ⟨isClosed, sameNewest, kept⟩ := act_of_closed windsDown.isClosed action
  have older := pending_of_closed windsDown.recorded.inLine windsDown.isClosed action
  exact
    { recorded := windsDown.recorded.step action
      isClosed
      newest := sameNewest.trans windsDown.newest
      waited := fun job waits => windsDown.waited job (older job waits)
      cancelled := fun begun => kept _ (windsDown.cancelled begun)
      starts := windsDown.starts_step action }

end WindsDown

theorem mindsToken_run (switch : PaceSwitch) (actions : List Action) :
    (run switch actions).desk.MindsToken :=
  run_induction (fun session => session.desk.MindsToken) (.opened switch)
    (fun _ action minds => minds.act action) actions

theorem windsDown_run (switch : PaceSwitch) (early late : List Action) :
    WindsDown (run switch early) (run switch (early ++ .shutdown :: late)) := by
  rw [run_append]
  exact later_induction (WindsDown (run switch early))
    (fun _ action windsDown => windsDown.step action) late
    (.of_closing (recorded_run switch early) (mindsToken_run switch early))

/-! ### What is promised -/

/-- What is promised of any moment after the closing of a desk. -/
structure ComesToRest (closing session : Session) : Prop where
  /-- All that has been begun was begun before the closing. The one exception is the newest
  generation, if at the closing its job was in the queue or in the worker's hands. -/
  begun : session.starts = closing.starts ∨
    ∃ job, (job ∈ closing.desk.queue ∨ closing.desk.phase = .draining job ∨
        closing.desk.phase = .claiming job) ∧
      job.generation = closing.desk.newest ∧
        session.starts = closing.starts ++ [⟨job, job.generation⟩]
  /-- There is no exception if the newest generation had been begun. -/
  begunBefore : closing.desk.running = closing.desk.newest → session.starts = closing.starts
  /-- From the closing on, the token of the newest generation is cancelled. -/
  cancelled : 0 < closing.desk.newest →
    (session.desk.token closing.desk.newest).isCancelled = true
  /-- Apart from the computation that the worker was inside of, at most one returns. -/
  returned : session.returns ≤ closing.returns + (if closing.desk.isComputing then 1 else 0) + 1

/-- However the simulation, the worker and the solver take turns before a desk is closed and
afterwards, at most one more computation is begun, that of the newest snapshot, and it finds its
token cancelled. -/
theorem comesToRest_shutdown (switch : PaceSwitch) (early late : List Action) :
    ComesToRest (run switch early) (run switch (early ++ .shutdown :: late)) := by
  have recorded := recorded_run switch early
  have windsDown := windsDown_run switch early late
  generalize run switch early = closing at recorded windsDown
  generalize run switch (early ++ .shutdown :: late) = session at windsDown
  refine ⟨?_, fun running => ?_, fun begun => ?_, ?_⟩
  · refine windsDown.starts.imp_right fun ⟨job, waited, isNewest, added, _⟩ => ?_
    refine ⟨job, ?_, isNewest, added⟩
    rw [← mem_inHand_iff, or_comm]
    exact List.mem_append.1 waited
  · rcases windsDown.starts with same | ⟨job, waited, isNewest, -⟩
    · exact same
    · have older := recorded.inLine.running_lt_pending waited
      rw [running, isNewest] at older
      exact absurd older (Nat.lt_irrefl _)
  · rw [token, List.contains_iff_mem]
    exact windsDown.cancelled begun
  · have balanced := recorded.balanced
    have balancedThen := windsDown.recorded.balanced
    have atMostOne : session.starts.length ≤ closing.starts.length + 1 := by
      rcases windsDown.starts with same | ⟨job, -, -, added, -⟩
      · rw [same]
        exact Nat.le_succ _
      · rw [added, List.length_append]
        exact Nat.le_refl _
    omega

/-- The worker is computing a snapshot that has been overtaken when the desk is closed. It gives up,
takes the newer snapshot from the queue, and begins to compute it. -/
theorem snapshot_is_begun_after_shutdown :
    let early : List Action := [.dispatch ⟨1, [], []⟩, .move .take, .move .keep, .move .claim,
      .dispatch ⟨2, [], []⟩]
    let late : List Action := [.move (.finish (.error (.refused .cancelled))), .move .take,
      .move .keep, .move .claim]
    let closing := run (.start .simulated) early
    let session := run (.start .simulated) (early ++ .shutdown :: late)
    closing.starts = [⟨⟨1, 1, [], []⟩, 1⟩] ∧
      session.starts = [⟨⟨1, 1, [], []⟩, 1⟩, ⟨⟨2, 2, [], []⟩, 2⟩] :=
  ⟨rfl, rfl⟩

end Session

end LiveFleet
