/-
This file proves that the board shows what was accepted last. A schedule is
accepted exactly if the newest generation is the running one and the schedule has
an entry for each vehicle of its snapshot; it then takes the next version, and in
every other case the board stays as it is. So along a story the versions count up
from one, the generations behind them never go back, and every schedule that was
ever shown had the size that its own snapshot asked for, whatever snapshots came
later.
-/
import LiveFleet.Proofs.Desk.Delivery

namespace LiveFleet

/-! ### What one action does to the board -/

namespace Desk

variable {before after : Desk} {action : Action}

theorem version_of_published {desk : Desk} {publication : Publication}
    (shown : desk.published = some publication) : desk.version = publication.version := by
  rw [version, shown]
  rfl

/-- The next version is not the one on the board. -/
theorem next_ne_published (desk : Desk) (schedule : Schedule) :
    some ⟨desk.version + 1, schedule⟩ ≠ desk.published := by
  intro same
  have counted : desk.version = desk.version + 1 := version_of_published same.symm
  omega

/-- An action that changes the board publishes a schedule of the newest generation, which is the
running one, and of the right size. -/
theorem accepted_cases (effect : Effect before action after) :
    (accepted before after = [] ∧ after.published = before.published) ∨
      ∃ schedule, accepted before after = [⟨before.running, ⟨before.version + 1, schedule⟩⟩] ∧
        after.published = some ⟨before.version + 1, schedule⟩ ∧ before.running ≠ 0 ∧
          schedule.size = before.vehicles := by
  cases effect with
  | published schedule begun isNewest fits =>
    exact .inr ⟨schedule, if_neg (next_ne_published before schedule), rfl, begun, fits⟩
  | _ => exact .inl ⟨accepted_of_published rfl, rfl⟩

/-- The running generation never goes back. -/
theorem running_le_act (inLine : before.InLine) (effect : Effect before action after) :
    before.running ≤ after.running := by
  rcases begun_cases effect with ⟨-, same, -⟩ | ⟨job, waits, -, -, running, -⟩
  · exact Nat.le_of_eq same.symm
  · rw [running]
    exact Nat.le_of_lt (inLine.running_lt_pending waits)

end Desk

namespace Session

open Desk

/-! ### The record of the board -/

/-- What is promised of the schedules that were accepted, and of the board that shows the last. -/
structure Published (session : Session) : Prop where
  /-- The versions count up from one. -/
  versions : session.acceptances.map (fun acceptance => acceptance.publication.version) =
    List.range' 1 session.acceptances.length
  /-- The generations behind the versions never go back. -/
  generations : (session.acceptances.map Acceptance.generation).Pairwise (· ≤ ·)
  /-- The board shows the schedule that was accepted last, with its own version. -/
  board : session.desk.published = session.acceptances.getLast?.map Acceptance.publication
  /-- A reader of the version alone is told the number of schedules accepted so far. -/
  version : session.desk.version = session.acceptances.length
  /-- Every schedule has an entry for each vehicle of the snapshot that it was accepted for. -/
  sizes : ∀ acceptance ∈ session.acceptances, ∃ snapshot,
    session.snapshot? acceptance.generation = some snapshot ∧
      acceptance.publication.schedule.size = snapshot.vehicles.length
  /-- No schedule is of a generation that was begun after the running one. -/
  bounded : ∀ acceptance ∈ session.acceptances, acceptance.generation ≤ session.desk.running

theorem published_opened (switch : PaceSwitch) : (opened switch).Published where
  versions := rfl
  generations := .nil
  board := rfl
  version := rfl
  sizes := fun _ accepted => nomatch accepted
  bounded := fun _ accepted => nomatch accepted

namespace Published

variable {session : Session}

/-- An action that leaves the board alone keeps the promises. -/
theorem of_same (published : session.Published) (recorded : session.Recorded) {action : Action}
    (nothing : accepted session.desk (session.desk.act action) = [])
    (same : (session.desk.act action).published = session.desk.published) :
    (session.step action).Published := by
  have kept : (session.step action).acceptances = session.acceptances := by
    show session.acceptances ++ accepted session.desk (session.desk.act action) = _
    rw [nothing, List.append_nil]
  constructor
  · rw [kept]
    exact published.versions
  · rw [kept]
    exact published.generations
  · rw [kept]
    exact same.trans published.board
  · rw [kept, ← published.version]
    exact congrArg (fun board => (board.map Publication.version).getD 0) same
  · rw [kept]
    intro acceptance member
    obtain ⟨snapshot, known, fits⟩ := published.sizes acceptance member
    exact ⟨snapshot, snapshot?_step known action, fits⟩
  · rw [kept]
    exact fun acceptance member => Nat.le_trans (published.bounded acceptance member)
      (running_le_act recorded.inLine (act_effect session.desk action))

/-- A schedule of the running generation, of the right size and with the next version, keeps the
promises. -/
theorem of_accepted (published : session.Published) (recorded : session.Recorded)
    {action : Action} {schedule : Schedule}
    (accepts : accepted session.desk (session.desk.act action) =
      [⟨session.desk.running, ⟨session.desk.version + 1, schedule⟩⟩])
    (shown : (session.desk.act action).published = some ⟨session.desk.version + 1, schedule⟩)
    (begun : session.desk.running ≠ 0) (fits : schedule.size = session.desk.vehicles) :
    (session.step action).Published := by
  have extended : (session.step action).acceptances =
      session.acceptances ++ [⟨session.desk.running, ⟨session.desk.version + 1, schedule⟩⟩] := by
    show session.acceptances ++ accepted session.desk (session.desk.act action) = _
    rw [accepts]
  have onward := running_le_act recorded.inLine (act_effect session.desk action)
  constructor
  · rw [extended, List.map_append, published.versions, List.length_append, List.length_singleton,
      List.range'_1_concat, published.version, Nat.add_comm]
    rfl
  · rw [extended, List.map_append, List.pairwise_append]
    refine ⟨published.generations, List.pairwise_singleton _ _, ?_⟩
    intro earlier member now isNow
    obtain ⟨acceptance, accepted, rfl⟩ := List.mem_map.1 member
    rw [List.mem_singleton.1 isNow]
    exact published.bounded acceptance accepted
  · rw [extended, List.getLast?_concat]
    exact shown
  · rw [extended, List.length_append, ← published.version]
    exact version_of_published shown
  · rw [extended]
    intro acceptance member
    rcases List.mem_append.1 member with before | now
    · obtain ⟨snapshot, known, sized⟩ := published.sizes acceptance before
      exact ⟨snapshot, snapshot?_step known action, sized⟩
    · rw [List.mem_singleton.1 now]
      rcases recorded.vehicles with none | ⟨snapshot, known, counted⟩
      · exact absurd none begun
      · exact ⟨snapshot, snapshot?_step known action, fits.trans counted⟩
  · rw [extended]
    intro acceptance member
    rcases List.mem_append.1 member with before | now
    · exact Nat.le_trans (published.bounded acceptance before) onward
    · rw [List.mem_singleton.1 now]
      exact onward

theorem step (published : session.Published) (recorded : session.Recorded) (action : Action) :
    (session.step action).Published := by
  rcases accepted_cases (act_effect session.desk action) with
    ⟨nothing, same⟩ | ⟨schedule, accepts, shown, begun, fits⟩
  · exact published.of_same recorded nothing same
  · exact published.of_accepted recorded accepts shown begun fits

end Published

/-- The board of every story keeps its promises. -/
theorem published_run (switch : PaceSwitch) (actions : List Action) :
    (run switch actions).Published := by
  have first : (opened switch).Recorded ∧ (opened switch).Published :=
    ⟨recorded_opened switch, published_opened switch⟩
  have both := run_induction (fun session => session.Recorded ∧ session.Published) first
    (fun _ action kept => ⟨kept.1.step action, kept.2.step kept.1 action⟩) actions
  exact both.2

/-! ### The answer to a publication -/

/-- The answer to a call that publishes a schedule, and the desk after it. The four conditions
exclude each other. -/
inductive Answer (session : Session) (schedule : Schedule) :
    Except SolverError Unit × Desk → Prop where
  /-- Before the first computation the call is refused. -/
  | nothingBegun (none : session.starts = []) :
      Answer session schedule (.error .noSnapshot, session.desk)
  /-- After a newer dispatch the schedule is ignored, whatever its size. -/
  | superseded (begun : session.starts ≠ []) (older : session.desk.running ≠ session.desk.newest) :
      Answer session schedule (.ok (), session.desk)
  /-- A schedule of the wrong size is refused, with both sizes. -/
  | misfit (begun : session.starts ≠ []) (isNewest : session.desk.running = session.desk.newest)
      {snapshot : Snapshot} (known : session.snapshot? session.desk.newest = some snapshot)
      (differs : schedule.size ≠ snapshot.vehicles.length) :
      Answer session schedule
        (.error (.entryCountMismatch snapshot.vehicles.length schedule.size), session.desk)
  /-- Every other schedule is shown from now on, as the next version. -/
  | accepted (begun : session.starts ≠ []) (isNewest : session.desk.running = session.desk.newest)
      {snapshot : Snapshot} (known : session.snapshot? session.desk.newest = some snapshot)
      (fits : schedule.size = snapshot.vehicles.length) :
      Answer session schedule
        (.ok (), { session.desk with published := some ⟨session.desk.version + 1, schedule⟩ })

/-- The schedule is one that the desk accepts. -/
def Accepts (session : Session) (schedule : Schedule) : Prop :=
  session.starts ≠ [] ∧ session.desk.running = session.desk.newest ∧
    ∃ snapshot, session.snapshot? session.desk.newest = some snapshot ∧
      schedule.size = snapshot.vehicles.length

theorem Recorded.answer {session : Session} (recorded : session.Recorded) (schedule : Schedule) :
    Answer session schedule (updateSchedule schedule session.desk) := by
  unfold updateSchedule
  by_cases none : session.desk.running = 0
  · rw [if_pos none]
    exact .nothingBegun (recorded.running_eq_zero_iff.1 none)
  · have begun : session.starts ≠ [] := fun empty => none (recorded.running_eq_zero_iff.2 empty)
    obtain ⟨snapshot, known, counted⟩ := recorded.vehicles.resolve_left none
    rw [if_neg none]
    by_cases older : session.desk.running ≠ session.desk.newest
    · rw [if_pos older]
      exact .superseded begun older
    · have isNewest : session.desk.running = session.desk.newest :=
        Decidable.not_not.1 older
      rw [isNewest] at known
      rw [if_neg older]
      by_cases differs : schedule.size ≠ session.desk.vehicles
      · rw [if_pos differs]
        rw [counted] at differs ⊢
        exact .misfit begun isNewest known differs
      · rw [if_neg differs]
        rw [counted] at differs
        exact .accepted begun isNewest known (Decidable.not_not.1 differs)

/-- The board changes exactly if the schedule is one that the desk accepts. -/
theorem Answer.changes_iff {session : Session} {schedule : Schedule}
    {outcome : Except SolverError Unit × Desk} (answer : Answer session schedule outcome) :
    outcome.2.published ≠ session.desk.published ↔ session.Accepts schedule := by
  cases answer with
  | nothingBegun none =>
    exact ⟨fun changed => absurd rfl changed, fun accepts => absurd none accepts.1⟩
  | superseded begun older =>
    exact ⟨fun changed => absurd rfl changed, fun accepts => absurd accepts.2.1 older⟩
  | @misfit begun isNewest snapshot known differs =>
    refine ⟨fun changed => absurd rfl changed, fun ⟨_, _, other, same, fits⟩ => ?_⟩
    rw [known] at same
    rw [← Option.some.inj same] at fits
    exact absurd fits differs
  | accepted begun isNewest known fits =>
    exact ⟨fun _ => ⟨begun, isNewest, _, known, fits⟩,
      fun _ => next_ne_published session.desk schedule⟩

/-- However the simulation, the worker and the solver take turns at a desk, a schedule is accepted
exactly if it answers the newest snapshot, and readers see the schedule accepted last. -/
theorem accepts_current_schedules (switch : PaceSwitch) (actions : List Action) :
    (∀ schedule,
      Answer (run switch actions) schedule (updateSchedule schedule (run switch actions).desk) ∧
        ((updateSchedule schedule (run switch actions).desk).2.published ≠
            (run switch actions).desk.published ↔
          (run switch actions).Accepts schedule)) ∧
      (run switch actions).Published ∧
      ∀ acceptance, (run switch actions).acceptances.getLast? = some acceptance →
        (run switch actions).desk.published = some acceptance.publication ∧
          (run switch actions).desk.version = acceptance.publication.version ∧
            (run switch actions).desk.currentSchedule = .ok acceptance.publication.schedule := by
  have recorded := recorded_run switch actions
  have published := published_run switch actions
  generalize run switch actions = session at recorded published
  refine ⟨?_, published, ?_⟩
  · intro schedule
    have answer := recorded.answer schedule
    exact ⟨answer, answer.changes_iff⟩
  · intro acceptance last
    have board := published.board
    rw [last, Option.map_some] at board
    refine ⟨board, version_of_published board, ?_⟩
    rw [currentSchedule, board]

/-- A schedule that comes too late is ignored, and one for the next snapshot, which has fewer
vehicles, is shown as the second version. -/
theorem accepts_current_schedules_late :
    let two : Snapshot := ⟨0, [], [⟨⟨0⟩, .origin, [], none⟩, ⟨⟨1⟩, .origin, [], none⟩]⟩
    let none : Snapshot := ⟨1, [], []⟩
    let actions : List Action := [.dispatch two, .move .take, .move .keep, .move .claim,
      .move (.publish (.empty 2)), .dispatch none, .move (.publish (.empty 2)),
      .move (.finish (.ok ())), .move .take, .move .keep, .move .claim, .move (.publish (.empty 0))]
    let session := run (.start .simulated) actions
    session.acceptances.getLast? = some ⟨2, 2, .empty 0⟩ ∧ session.desk.version = 2 :=
  ⟨rfl, ((accepts_current_schedules (.start .simulated) _).2.2 ⟨2, 2, .empty 0⟩ rfl).2.1⟩

end Session

end LiveFleet
