/-
This file proves that the generations at a desk stand in line. The generation
that runs, the job in the worker's hands and the jobs of the queue follow each
other in strictly increasing order, and the last of them is the newest one. This
one invariant is why the worker may drop a job in two places: whatever it drops,
the newest generation stands further back in the line.
-/
import LiveFleet.Proofs.Desk.Action

namespace LiveFleet

namespace WorkerPhase

/-- The job that the worker holds and has not begun to compute. -/
def inHand : WorkerPhase → List Job
  | draining job | claiming job => [job]
  | _ => []

/-- The worker is out of its loop. -/
def hasLeft : WorkerPhase → Bool
  | leaving | gone => true
  | _ => false

end WorkerPhase

namespace Desk

/-- The jobs that have not been begun, the oldest first. -/
def pending (desk : Desk) : List Job := desk.phase.inHand ++ desk.queue

/-- The generation that was begun last, and the generations behind it. -/
def line (desk : Desk) : List Nat := desk.running :: desk.pending.map Job.generation

/-- The generations stand in line, and a worker leaves its loop for a reason. -/
structure InLine (desk : Desk) : Prop where
  increasing : desk.line.Pairwise (· < ·)
  last : desk.line.getLast? = some desk.newest
  leaves : desk.phase.hasLeft = true → desk.isOpen = false ∨ desk.fault ≠ none

/-- The last entry of an increasing list is its largest. -/
theorem le_last {entries : List Nat} {last : Nat} (increasing : entries.Pairwise (· < ·))
    (isLast : entries.getLast? = some last) : ∀ entry ∈ entries, entry ≤ last := by
  obtain ⟨earlier, rfl⟩ := List.getLast?_eq_some_iff.1 isLast
  intro entry member
  rcases List.mem_append.1 member with before | atEnd
  · exact Nat.le_of_lt ((List.pairwise_append.1 increasing).2.2 entry before last
      (List.mem_singleton_self last))
  · exact Nat.le_of_eq (List.mem_singleton.1 atEnd)

theorem line_of_same {before after : Desk} (running : after.running = before.running)
    (inHand : after.phase.inHand = before.phase.inHand) (queue : after.queue = before.queue) :
    after.line = before.line := by
  unfold line pending
  rw [running, inHand, queue]

/-- The line with a job in the worker's hands. -/
theorem line_of_inHand {desk : Desk} {job : Job} (inHand : desk.phase.inHand = [job]) :
    desk.line = desk.running :: job.generation :: desk.queue.map Job.generation := by
  rw [line, pending, inHand]
  rfl

namespace InLine

variable {desk : Desk}

theorem le_newest (inLine : desk.InLine) : ∀ generation ∈ desk.line, generation ≤ desk.newest :=
  le_last inLine.increasing inLine.last

theorem running_le_newest (inLine : desk.InLine) : desk.running ≤ desk.newest :=
  inLine.le_newest _ List.mem_cons_self

theorem running_lt_pending (inLine : desk.InLine) {job : Job} (waits : job ∈ desk.pending) :
    desk.running < job.generation :=
  List.rel_of_pairwise_cons inLine.increasing (List.mem_map_of_mem waits)

/-- With nothing left to begin, the newest generation was begun. -/
theorem running_eq_newest (inLine : desk.InLine) (nothing : desk.pending = []) :
    desk.running = desk.newest := by
  have last := inLine.last
  rw [line, nothing] at last
  exact Option.some.inj last

/-- The newest generation was begun, or it is the last one that waits. -/
theorem newest_cases (inLine : desk.InLine) :
    desk.running = desk.newest ∨ ∃ job ∈ desk.pending, job.generation = desk.newest := by
  have isLast := List.mem_of_getLast? inLine.last
  rcases List.mem_cons.1 isLast with begun | waits
  · exact .inl begun.symm
  · obtain ⟨job, member, same⟩ := List.mem_map.1 waits
    exact .inr ⟨job, member, same⟩

/-- At a desk that is open and healthy there is a worker. -/
theorem staffed (inLine : desk.InLine) (isOpen : desk.isOpen = true) (healthy : desk.fault = none) :
    desk.phase ≠ .gone := by
  intro gone
  rcases inLine.leaves (by rw [gone]; rfl) with isClosed | faulty
  · rw [isOpen] at isClosed
    cases isClosed
  · exact faulty healthy

theorem opened (switch : PaceSwitch) : (Desk.opened switch).InLine where
  increasing := List.pairwise_singleton _ _
  last := rfl
  leaves := nofun

/-- A line that has not changed, and a reason to leave, are all that is needed. -/
theorem of_same {after : Desk} (inLine : desk.InLine) (sameLine : after.line = desk.line)
    (sameNewest : after.newest = desk.newest)
    (leaves : after.phase.hasLeft = true → after.isOpen = false ∨ after.fault ≠ none) :
    after.InLine where
  increasing := sameLine ▸ inLine.increasing
  last := by rw [sameLine, sameNewest]; exact inLine.last
  leaves := leaves

/-- A generation that is newer than all others may stand at the end. -/
theorem of_appended {after : Desk} (inLine : desk.InLine)
    (appended : after.line = desk.line ++ [after.newest]) (newer : desk.newest < after.newest)
    (leaves : after.phase.hasLeft = true → after.isOpen = false ∨ after.fault ≠ none) :
    after.InLine where
  increasing := by
    rw [appended, List.pairwise_append]
    refine ⟨inLine.increasing, List.pairwise_singleton _ _, ?_⟩
    intro generation member newest isNewest
    rw [List.mem_singleton.1 isNewest]
    exact Nat.lt_of_le_of_lt (inLine.le_newest generation member) newer
  last := by rw [appended, List.getLast?_concat]
  leaves := leaves

/-- With nothing left to begin, it is enough that the newest generation was begun. -/
theorem of_nothing_pending {after : Desk} (begun : after.running = after.newest)
    (nothing : after.pending = [])
    (leaves : after.phase.hasLeft = true → after.isOpen = false ∨ after.fault ≠ none) :
    after.InLine where
  increasing := by
    rw [line, nothing]
    exact List.pairwise_singleton _ _
  last := by
    rw [line, nothing, begun]
    rfl
  leaves := leaves

/-- A job of the newest generation has nothing behind it. -/
theorem queue_eq_nil (inLine : desk.InLine) {job : Job} (inHand : desk.phase.inHand = [job])
    (isNewest : job.generation = desk.newest) : desk.queue = [] := by
  rw [List.eq_nil_iff_forall_not_mem]
  intro other queued
  have increasing := inLine.increasing
  rw [line_of_inHand inHand, List.pairwise_cons, List.pairwise_cons] at increasing
  have behind := increasing.2.1 other.generation (List.mem_map_of_mem queued)
  have bounded := inLine.le_newest other.generation (by
    rw [line_of_inHand inHand]
    exact .tail _ (.tail _ (List.mem_map_of_mem queued)))
  omega

/-- The job in the worker's hands may be dropped if the newest generation is not in its hands. -/
theorem of_dropped {after : Desk} {job : Job} (inLine : desk.InLine)
    (inHand : desk.phase.inHand = [job]) (superseded : desk.queue ≠ [])
    (running : after.running = desk.running) (newest : after.newest = desk.newest)
    (pending : after.pending = desk.queue)
    (leaves : after.phase.hasLeft = true → after.isOpen = false ∨ after.fault ≠ none) :
    after.InLine := by
  have behind : after.line = desk.running :: desk.queue.map Job.generation := by
    rw [line, running, pending]
  refine ⟨?_, ?_, leaves⟩
  · have increasing := inLine.increasing
    rw [line_of_inHand inHand] at increasing
    rw [behind]
    exact increasing.sublist ((List.sublist_cons_self _ _).cons_cons _)
  · have last := inLine.last
    obtain ⟨next, rest, queued⟩ := List.exists_cons_of_ne_nil superseded
    rw [line_of_inHand inHand, queued, List.map_cons, List.getLast?_cons_cons,
      List.getLast?_cons_cons] at last
    rw [behind, newest, queued, List.map_cons, List.getLast?_cons_cons]
    exact last

theorem act (inLine : desk.InLine) (action : Action) : (desk.act action).InLine := by
  have effect := act_effect desk action
  generalize desk.act action = after at effect
  cases effect with
  | nothing step => exact inLine
  | refused snapshot reason => exact inLine
  | handedOver snapshot isOpen healthy staffed =>
    refine inLine.of_appended ?_ (Nat.lt_succ_self _) inLine.leaves
    rw [line, line, pending, pending, ← List.append_assoc, List.map_append]
    rfl
  | lost snapshot isOpen healthy gone =>
    exact absurd gone (inLine.staffed isOpen healthy)
  | closed => exact inLine.of_same rfl rfl fun _ => .inl rfl
  | took waiting queued =>
    refine inLine.of_same ?_ rfl nofun
    rw [line, line, pending, pending, waiting, queued]
    rfl
  | tookNewer draining queued =>
    refine inLine.of_dropped (by rw [draining]; rfl) ?_ rfl rfl ?_ nofun
    · rw [queued]
      exact List.cons_ne_nil _ _
    · rw [queued]
      rfl
  | kept draining emptied =>
    refine inLine.of_same ?_ rfl nofun
    exact line_of_same rfl (by rw [draining]; rfl) rfl
  | started claiming isNewest =>
    have emptied := inLine.queue_eq_nil (by rw [claiming]; rfl) isNewest
    refine .of_nothing_pending isNewest ?_ nofun
    rw [pending, emptied]
    rfl
  | dropped claiming superseded =>
    refine inLine.of_dropped (by rw [claiming]; rfl) (fun emptied => superseded ?_) rfl rfl rfl
      nofun
    have last := inLine.last
    rw [line, pending, claiming, emptied] at last
    exact Option.some.inj last
  | published schedule begun isNewest fits => exact inLine.of_same rfl rfl inLine.leaves
  | answered isNewest unanswered => exact inLine.of_same rfl rfl inLine.leaves
  | cancelled generation => exact inLine.of_same rfl rfl inLine.leaves
  | ended outcome computing expected =>
    refine inLine.of_same ?_ rfl nofun
    exact line_of_same rfl (by rw [computing]; rfl) rfl
  | failed failure computing unexpected =>
    exact inLine.of_same (line_of_same rfl (by rw [computing]; rfl) rfl) rfl
      fun _ => .inr (Option.some_ne_none _)
  | dismissed waiting emptied isClosed =>
    exact inLine.of_same (line_of_same rfl (by rw [waiting]; rfl) rfl) rfl fun _ => .inl isClosed
  | departed leaving =>
    exact inLine.of_same (line_of_same rfl (by rw [leaving]; rfl) rfl) rfl
      fun _ => inLine.leaves (by rw [leaving]; rfl)

end InLine

end Desk

end LiveFleet
