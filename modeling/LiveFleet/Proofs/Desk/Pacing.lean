/-
This file proves that the pace of a run follows the wall clock exactly while the
newest snapshot is unanswered and the solver has not failed. Four actions ask for
a pace: a dispatch, the answer to the newest snapshot, a fault, and a dispatch
that cannot be delivered, which never happens. The invariant behind it is that
the generation answered last is never newer than the running one.
-/
import LiveFleet.Proofs.Desk.Session

namespace LiveFleet

namespace Desk

/-- The newest snapshot is unanswered, and the solver has not failed. -/
def isAwaited (desk : Desk) : Bool := desk.isOutstanding && desk.fault.isNone

/-- The generations are answered in order, and the pace says whether an answer is awaited. -/
structure Paced (desk : Desk) : Prop where
  inLine : desk.InLine
  done_le_running : desk.done ≤ desk.running
  pace : desk.switch.pace = if desk.isAwaited then .realTime else .simulated

namespace Paced

variable {desk : Desk}

theorem opened : (Desk.opened (.start .simulated)).Paced where
  inLine := .opened _
  done_le_running := Nat.le_refl 0
  pace := rfl

theorem done_le_newest (paced : desk.Paced) : desk.done ≤ desk.newest :=
  Nat.le_trans paced.done_le_running paced.inLine.running_le_newest

theorem pace_eq_realTime_iff (paced : desk.Paced) :
    desk.switch.pace = .realTime ↔ desk.done < desk.newest ∧ desk.fault = none := by
  rw [paced.pace]
  unfold isAwaited isOutstanding
  split <;> simp_all

theorem decide_pace (paced : desk.Paced) :
    decide (desk.switch.pace = .realTime) = desk.isAwaited := by
  rw [paced.pace]
  cases desk.isAwaited <;> rfl

/-- What neither answers nor hands over keeps the pace. -/
theorem of_same {after : Desk} (paced : desk.Paced) (inLine : after.InLine)
    (onward : desk.running ≤ after.running) (newest : after.newest = desk.newest)
    (done : after.done = desk.done) (fault : after.fault = desk.fault)
    (switch : after.switch = desk.switch) : after.Paced where
  inLine := inLine
  done_le_running := by
    rw [done]
    exact Nat.le_trans paced.done_le_running onward
  pace := by
    unfold isAwaited isOutstanding
    rw [switch, newest, done, fault]
    exact paced.pace

theorem act (paced : desk.Paced) (action : Action) : (desk.act action).Paced := by
  have inLine := paced.inLine.act action
  have effect := act_effect desk action
  generalize desk.act action = after at effect inLine
  cases effect with
  | handedOver snapshot isOpen healthy staffed =>
    refine ⟨inLine, paced.done_le_running, ?_⟩
    have awaited : desk.done < desk.newest + 1 := Nat.lt_succ_of_le paced.done_le_newest
    rw [PaceSwitch.request_pace]
    simp [isAwaited, isOutstanding, healthy, awaited]
  | lost snapshot isOpen healthy gone =>
    exact absurd gone (paced.inLine.staffed isOpen healthy)
  | started claiming isNewest =>
    refine paced.of_same inLine ?_ rfl rfl rfl rfl
    rw [isNewest]
    exact paced.inLine.running_le_newest
  | answered isNewest unanswered =>
    refine ⟨inLine, Nat.le_of_eq isNewest.symm, ?_⟩
    rw [PaceSwitch.request_pace]
    simp [isAwaited, isOutstanding]
  | failed failure computing unexpected =>
    refine ⟨inLine, paced.done_le_running, ?_⟩
    rw [PaceSwitch.request_pace]
    simp [isAwaited]
  | _ => exact paced.of_same inLine (Nat.le_refl _) rfl rfl rfl rfl

/-- Whatever the parties do, the pace follows the answers. -/
theorem of_leadsTo {after : Desk} (paced : desk.Paced) (leads : desk.LeadsTo after) :
    after.Paced := by
  obtain ⟨actions, rfl⟩ := leads
  exact acts_induction Paced (fun _ action paced => paced.act action) actions paced

/-- A dispatch while an answer is awaited does not touch the pace. -/
theorem dispatch_switch (paced : desk.Paced) (outstanding : desk.isOutstanding = true)
    (snapshot : Snapshot) : (Desk.dispatch snapshot desk).2.switch = desk.switch := by
  have effect := dispatch_effect desk snapshot
  generalize (Desk.dispatch snapshot desk).2 = after at effect
  cases effect with
  | refused snapshot reason => rfl
  | handedOver snapshot isOpen healthy staffed =>
    have already : desk.switch.pace = .realTime :=
      paced.pace_eq_realTime_iff.2 ⟨of_decide_eq_true outstanding, healthy⟩
    exact if_pos already
  | lost snapshot isOpen healthy gone =>
    exact absurd gone (paced.inLine.staffed isOpen healthy)

end Paced

/-! ### The number of changes -/

/-- One while the run follows the wall clock. -/
def unfinished (switch : PaceSwitch) : Nat := if switch.pace = .realTime then 1 else 0

/-- A request begins a period at the pace of the wall clock, ends one, or changes nothing. -/
theorem transitions_request (switch : PaceSwitch) (pace : Pace) :
    (switch.request pace).transitions + unfinished switch =
      switch.transitions +
        2 * (if switch.pace = .realTime && (switch.request pace).pace = .simulated then 1 else 0) +
          unfinished (switch.request pace) := by
  obtain ⟨current, transitions⟩ := switch
  cases current <;> cases pace <;> rfl

theorem transitions_of_same {before after : Desk} (same : after.switch = before.switch) :
    after.switch.transitions + unfinished before.switch =
      before.switch.transitions + 2 * relaxed before after + unfinished after.switch := by
  unfold relaxed
  rw [same]
  cases before.switch.pace <;> rfl

theorem transitions_act {before after : Desk} {action : Action} (inLine : before.InLine)
    (effect : Effect before action after) :
    after.switch.transitions + unfinished before.switch =
      before.switch.transitions + 2 * relaxed before after + unfinished after.switch := by
  cases effect with
  | handedOver snapshot isOpen healthy staffed => exact transitions_request before.switch .realTime
  | lost snapshot isOpen healthy gone =>
    exact absurd gone (inLine.staffed isOpen healthy)
  | answered isNewest unanswered => exact transitions_request before.switch .simulated
  | failed failure computing unexpected => exact transitions_request before.switch .simulated
  | _ => exact transitions_of_same rfl

end Desk

namespace Session

open Desk

/-- Every change of the pace began a period at the pace of the wall clock or ended one. -/
theorem transitions_run (actions : List Action) :
    (run (.start .simulated) actions).desk.switch.transitions =
      2 * (run (.start .simulated) actions).periods +
        unfinished (run (.start .simulated) actions).desk.switch := by
  have first : (opened (.start .simulated)).desk.InLine ∧
      (opened (.start .simulated)).desk.switch.transitions =
        2 * (opened (.start .simulated)).periods +
          unfinished (opened (.start .simulated)).desk.switch := ⟨.opened _, rfl⟩
  refine (run_induction (fun session => session.desk.InLine ∧ session.desk.switch.transitions =
    2 * session.periods + unfinished session.desk.switch) first (fun session action kept => ?_)
    actions).2
  refine ⟨kept.1.act action, ?_⟩
  have balance := transitions_act kept.1 (act_effect session.desk action)
  show (session.desk.act action).switch.transitions =
    2 * (session.periods + relaxed session.desk (session.desk.act action)) +
      unfinished (session.desk.act action).switch
  have before := kept.2
  omega

/-- What is promised of the pace of a run. -/
structure KeepsPace (session : Session) : Prop where
  /-- Generations are begun once they are handed over, and answered once they are begun. -/
  ordered : session.desk.done ≤ session.desk.running ∧ session.desk.running ≤ session.desk.newest
  /-- The run follows the wall clock while the newest snapshot is unanswered, without a fault. -/
  pace : session.desk.switch.pace = .realTime ↔
    session.desk.done < session.desk.newest ∧ session.desk.fault = none
  /-- A snapshot that overtakes an unanswered one does not touch the pace. -/
  steady : session.desk.done < session.desk.newest →
    ∀ snapshot, (Desk.dispatch snapshot session.desk).2.switch = session.desk.switch
  /-- Every period at the pace of the wall clock that is over has changed the pace twice. -/
  transitions : session.desk.switch.transitions =
    2 * session.periods + if session.desk.switch.pace = .realTime then 1 else 0

theorem paced_run (actions : List Action) : (run (.start .simulated) actions).desk.Paced := by
  rw [run_desk]
  exact Paced.of_leadsTo .opened ⟨actions, rfl⟩

theorem KeepsPace.of_paced {session : Session} (paced : session.desk.Paced)
    (transitions : session.desk.switch.transitions =
      2 * session.periods + unfinished session.desk.switch) : session.KeepsPace where
  ordered := ⟨paced.done_le_running, paced.inLine.running_le_newest⟩
  pace := paced.pace_eq_realTime_iff
  steady := fun outstanding snapshot => paced.dispatch_switch (decide_eq_true outstanding) snapshot
  transitions := transitions

end Session

end LiveFleet
