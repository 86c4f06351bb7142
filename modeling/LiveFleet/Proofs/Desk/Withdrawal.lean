/-
This file proves that the failures of a solver are kept and that nothing else is
taken for one. A computation may give up once its token is cancelled, and the
token of a generation is cancelled by the dispatch of the next one and by the
closing of the desk, and by nothing else as long as the solver leaves the tokens
alone. So to give up is a fault exactly if the generation is still wanted. A fault
sends the worker away and stays where it is stored. A dispatch counts the
generation up before it knows that the worker is there; it does so only at a desk
that is open and healthy, which the worker never leaves, so every dispatch that
fails has changed nothing.
-/
import LiveFleet.Proofs.Desk.Line

namespace LiveFleet.Desk

/-! ### The tokens and the computation at every moment -/

/-- The action cancels a token, as only a solver can do it: with the token that it was given. -/
def Action.Cancels (action : Action) : Prop := ∃ generation, action = .move (.cancel generation)

/-- The tokens say which generations are no longer wanted, and there is a computation only without
a fault. -/
structure Withdraws (desk : Desk) : Prop where
  inLine : desk.InLine
  held : ∀ generation, desk.held = some generation ↔
    generation = desk.newest ∧ 0 < desk.newest ∧ desk.isOpen = true
  cancelled : ∀ generation, generation ∈ desk.cancelled ↔
    0 < generation ∧ (generation < desk.newest ∨ generation = desk.newest ∧ desk.isOpen = false)
  begun : ∀ job, desk.phase = .computing job → 0 < job.generation ∧ job.generation ≤ desk.newest
  settled : desk.fault ≠ none → desk.phase.hasLeft = true

namespace Withdraws

variable {desk : Desk}

theorem opened (switch : PaceSwitch) : (Desk.opened switch).Withdraws where
  inLine := .opened switch
  held := by simp [Desk.opened]
  cancelled := by
    intro generation
    simp only [Desk.opened, List.not_mem_nil, Bool.true_eq_false, and_false, or_false, false_iff]
    omega
  begun := nofun
  settled := fun faulty => absurd rfl faulty

/-- A worker that is inside its loop has no fault behind it. -/
theorem healthy (withdraws : desk.Withdraws) (inside : desk.phase.hasLeft = false) :
    desk.fault = none := by
  by_cases faulty : desk.fault = none
  · exact faulty
  · rw [withdraws.settled faulty] at inside
    cases inside

/-- What touches neither the generations nor their tokens keeps what the tokens say. -/
theorem of_same {after : Desk} (withdraws : desk.Withdraws) (inLine : after.InLine)
    (newest : after.newest = desk.newest) (isOpen : after.isOpen = desk.isOpen)
    (held : after.held = desk.held) (cancelled : after.cancelled = desk.cancelled)
    (begun : ∀ job, after.phase = .computing job →
      0 < job.generation ∧ job.generation ≤ desk.newest)
    (settled : after.fault ≠ none → after.phase.hasLeft = true) : after.Withdraws where
  inLine := inLine
  held := by
    rw [held, newest, isOpen]
    exact withdraws.held
  cancelled := by
    rw [cancelled, newest, isOpen]
    exact withdraws.cancelled
  begun := by
    rw [newest]
    exact begun
  settled := settled

/-- With the token that the desk holds, all tokens up to the newest generation are cancelled. -/
theorem mem_cancelHeld (withdraws : desk.Withdraws) (generation : Nat) :
    generation ∈ desk.held.toList ++ desk.cancelled ↔
      0 < generation ∧ generation ≤ desk.newest := by
  rw [List.mem_append, Option.mem_toList, withdraws.held, withdraws.cancelled]
  cases desk.isOpen <;> simp <;> omega

theorem act (withdraws : desk.Withdraws) {action : Action} (leaves : ¬ action.Cancels) :
    (desk.act action).Withdraws := by
  have inLine := withdraws.inLine.act action
  have effect := act_effect desk action
  generalize desk.act action = after at effect inLine
  cases effect with
  | handedOver snapshot isOpen healthy staffed =>
    refine ⟨inLine, fun generation => ?_, fun generation => ?_, fun job computing => ?_,
      withdraws.settled⟩
    · simp [isOpen, eq_comm]
    · rw [withdraws.mem_cancelHeld, ← Nat.lt_succ_iff]
      simp [isOpen]
    · have bounded := withdraws.begun job computing
      exact ⟨bounded.1, Nat.le_succ_of_le bounded.2⟩
  | lost snapshot isOpen healthy gone =>
    exact absurd gone (withdraws.inLine.staffed isOpen healthy)
  | closed =>
    refine ⟨inLine, fun generation => by simp, fun generation => ?_, withdraws.begun,
      withdraws.settled⟩
    rw [withdraws.mem_cancelHeld]
    simp [Nat.le_iff_lt_or_eq]
  | cancelled generation => exact absurd ⟨generation, rfl⟩ leaves
  | took waiting | tookNewer waiting | kept waiting | dropped waiting | ended _ waiting =>
    have healthy := withdraws.healthy (by rw [waiting]; rfl)
    refine withdraws.of_same inLine rfl rfl rfl rfl (fun _ computing => ?_) (absurd healthy)
    cases computing
  | @started job claiming isNewest =>
    have healthy := withdraws.healthy (by rw [claiming]; rfl)
    have waits : job ∈ desk.pending := by simp [pending, claiming, WorkerPhase.inHand]
    have later := withdraws.inLine.running_lt_pending waits
    refine withdraws.of_same inLine rfl rfl rfl rfl (fun other computing => ?_) (absurd healthy)
    cases computing
    exact ⟨Nat.zero_lt_of_lt later, Nat.le_of_eq isNewest⟩
  | failed | dismissed | departed =>
    refine withdraws.of_same inLine rfl rfl rfl rfl (fun _ computing => ?_) fun _ => rfl
    cases computing
  | _ => exact withdraws.of_same inLine rfl rfl rfl rfl withdraws.begun withdraws.settled

theorem acts {actions : List Action} (withdraws : desk.Withdraws)
    (leaves : ∀ action ∈ actions, ¬ action.Cancels) : (desk.acts actions).Withdraws := by
  induction actions generalizing desk with
  | nil => exact withdraws
  | cons action rest inductionHypothesis =>
    rw [List.forall_mem_cons] at leaves
    exact inductionHypothesis (withdraws.act leaves.1) leaves.2

/-- The token of a generation is cancelled once the generation is no longer wanted. -/
theorem token_iff (withdraws : desk.Withdraws) {generation : Nat} (counted : 0 < generation) :
    (desk.token generation).isCancelled = true ↔
      generation < desk.newest ∨ generation = desk.newest ∧ desk.isOpen = false := by
  rw [token, List.contains_iff_mem, withdraws.cancelled]
  exact and_iff_right counted

end Withdraws

/-! ### What becomes of a fault -/

/-- A solver that has failed computes nothing more. -/
def Retires (error : SolverError) (desk : Desk) : Prop :=
  desk.fault = some error ∧ desk.phase.hasLeft = true

/-- Nothing that the parties do touches a fault. -/
theorem Retires.act {error : SolverError} {desk : Desk} (retires : desk.Retires error)
    (action : Action) : (desk.act action).Retires error := by
  obtain ⟨fault, left⟩ := retires
  have effect := act_effect desk action
  generalize desk.act action = after at effect
  cases effect with
  | took inside | tookNewer inside | kept inside | started inside | dropped inside
  | ended _ inside | failed _ inside =>
    rw [inside] at left
    cases left
  | dismissed | departed => exact ⟨fault, rfl⟩
  | _ => exact ⟨fault, left⟩

/-- A dispatch hands the snapshot over, or the desk is closed, or it is faulty and says so. A desk
that refuses a snapshot stays as it is. -/
theorem InLine.dispatch_cases {desk : Desk} (inLine : desk.InLine) (snapshot : Snapshot) :
    (desk.isOpen = true ∧ desk.fault = none ∧
        (Desk.dispatch snapshot desk).1 = .ok (desk.newest + 1)) ∨
      (desk.isOpen = false ∧ Desk.dispatch snapshot desk = (.error .workerGone, desk)) ∨
        ∃ error, desk.isOpen = true ∧ desk.fault = some error ∧
          Desk.dispatch snapshot desk = (.error error, desk) := by
  cases isOpen : desk.isOpen with
  | false => exact .inr (.inl ⟨rfl, by rw [Desk.dispatch, isOpen]; rfl⟩)
  | true =>
    cases fault : desk.fault with
    | none =>
      have taken := dispatch_of_staffed isOpen fault (inLine.staffed isOpen fault) snapshot
      exact .inl ⟨rfl, rfl, congrArg Prod.fst taken⟩
    | some error => exact .inr (.inr ⟨error, rfl, rfl, by rw [Desk.dispatch, isOpen, fault]; rfl⟩)

/-! ### The end of a computation -/

section

variable {desk : Desk} {job : Job} {failure : SolverFailure}

theorem move_finish (computing : desk.phase = .computing job)
    (outcome : Except SolverFailure Unit) :
    desk.move (.finish outcome) = desk.endComputation job outcome := by
  rw [move, computing]

theorem fault_of_expected (expected : desk.IsExpected job failure) :
    (desk.endComputation job (.error failure)).fault = desk.fault := by
  simp [endComputation, expected.1, expected.2]

theorem fault_of_unexpected (unexpected : ¬ desk.IsExpected job failure) :
    (desk.endComputation job (.error failure)).fault = some failure.error := by
  unfold IsExpected at unexpected
  simp [endComputation, requestPace, unexpected]

end

/-! ### What is promised -/

/-- What is promised of a desk whose solver leaves its tokens alone, and which has or has not been
closed. -/
structure KeepsFaults (desk : Desk) (closed : Prop) : Prop where
  /-- Until the desk is closed, the cancelled tokens are those of the superseded generations. -/
  tokens : ¬ closed → ∀ generation, 0 < generation →
    ((desk.token generation).isCancelled = true ↔ generation < desk.newest)
  /-- A computation that gives up while its generation is still wanted is a fault. -/
  wanted : ∀ job, desk.phase = .computing job → job.generation = desk.newest → ¬ closed →
    (desk.move (.finish (.error (.refused .cancelled)))).fault = some .cancelled
  /-- It is none if the generation has been superseded or the desk has been closed. -/
  unwanted : ∀ job, desk.phase = .computing job → job.generation ≠ desk.newest ∨ closed →
    (desk.move (.finish (.error (.refused .cancelled)))).fault = none
  /-- Any other failure of a computation is a fault, and an answer is none. -/
  ended : ∀ job, desk.phase = .computing job →
    (desk.move (.finish (.ok ()))).fault = none ∧
      ∀ failure, failure ≠ .refused .cancelled →
        (desk.move (.finish (.error failure))).fault = some failure.error
  /-- A fault stays, whatever the parties do. -/
  kept : ∀ error, desk.fault = some error → ∀ actions, (desk.acts actions).fault = some error
  /-- A dispatch that fails says that the desk has been closed, or names the fault, and has changed
  nothing. -/
  refused : ∀ snapshot error after, Desk.dispatch snapshot desk = (.error error, after) →
    after = desk ∧ (closed ∧ error = .workerGone ∨ ¬ closed ∧ desk.fault = some error)
  /-- Once the desk has been closed, every dispatch fails. -/
  gone : closed → ∀ snapshot, Desk.dispatch snapshot desk = (.error .workerGone, desk)
  /-- Until then the worker of a healthy desk is there, and a dispatch does not fail. -/
  taken : ¬ closed → desk.fault = none → desk.phase ≠ .gone ∧
    ∀ snapshot, (Desk.dispatch snapshot desk).1 = .ok (desk.newest + 1)

namespace Withdraws

variable {desk : Desk} (withdraws : desk.Withdraws)
include withdraws

/-- A job in the middle of its computation is expected to give up unless it is still wanted. -/
theorem isExpected_iff {job : Job} (computing : desk.phase = .computing job) :
    desk.IsExpected job (.refused .cancelled) ↔
      ¬ (job.generation = desk.newest ∧ desk.isOpen = true) := by
  obtain ⟨counted, bounded⟩ := withdraws.begun job computing
  unfold IsExpected
  rw [withdraws.token_iff counted, and_iff_right rfl]
  cases desk.isOpen <;> simp <;> omega

theorem keepsFaults {closed : Prop} (unclosed : desk.isOpen = true ↔ ¬ closed) :
    desk.KeepsFaults closed where
  tokens := by
    intro notClosed generation counted
    rw [withdraws.token_iff counted, unclosed.2 notClosed]
    simp
  wanted := by
    intro job computing isNewest notClosed
    rw [move_finish computing]
    refine fault_of_unexpected fun expected => ?_
    exact (withdraws.isExpected_iff computing).1 expected ⟨isNewest, unclosed.2 notClosed⟩
  unwanted := by
    intro job computing reason
    have expected : desk.IsExpected job (.refused .cancelled) := by
      rw [withdraws.isExpected_iff computing, unclosed]
      rintro ⟨isNewest, notClosed⟩
      exact reason.elim (absurd isNewest) notClosed
    rw [move_finish computing, fault_of_expected expected]
    exact withdraws.healthy (by rw [computing]; rfl)
  ended := by
    intro job computing
    have healthy := withdraws.healthy (by rw [computing]; rfl)
    refine ⟨?_, fun failure other => ?_⟩
    · rw [move_finish computing]
      exact healthy
    · rw [move_finish computing]
      exact fault_of_unexpected fun expected => other expected.1
  kept := by
    intro error fault actions
    have retires : desk.Retires error :=
      ⟨fault, withdraws.settled (fault ▸ Option.some_ne_none error)⟩
    exact (acts_induction (Retires error) (fun _ action holds => holds.act action) actions
      retires).1
  refused := by
    intro snapshot error after refused
    rcases withdraws.inLine.dispatch_cases snapshot with
      ⟨-, -, taken⟩ | ⟨isClosed, closes⟩ | ⟨stored, isOpen, fault, faulty⟩
    · rw [refused] at taken
      cases taken
    · rw [refused] at closes
      cases closes
      refine ⟨rfl, .inl ⟨Classical.not_not.1 fun notClosed => ?_, rfl⟩⟩
      exact Bool.eq_false_iff.1 isClosed (unclosed.2 notClosed)
    · rw [refused] at faulty
      cases faulty
      exact ⟨rfl, .inr ⟨unclosed.1 isOpen, fault⟩⟩
  gone := by
    intro closes snapshot
    have isClosed : desk.isOpen = false :=
      Bool.eq_false_iff.2 fun isOpen => unclosed.1 isOpen closes
    rw [Desk.dispatch, isClosed]
    rfl
  taken := by
    intro notClosed healthy
    have isOpen := unclosed.2 notClosed
    have staffed := withdraws.inLine.staffed isOpen healthy
    refine ⟨staffed, fun snapshot => ?_⟩
    rw [dispatch_of_staffed isOpen healthy staffed]

end Withdraws

/-- However the simulation, the worker and the solver take turns at a desk, and whether or not it is
shut down among them, its solver is blamed for what it is to blame for, and a dispatch that fails
has changed nothing. -/
theorem keepsFaults_acts (switch : PaceSwitch) (actions : List Action)
    (leaves : ∀ action ∈ actions, ¬ action.Cancels) :
    ((Desk.opened switch).acts actions).KeepsFaults (Action.shutdown ∈ actions) :=
  ((Withdraws.opened switch).acts leaves).keepsFaults (isOpen_acts_iff.trans (and_iff_right rfl))

/-- A computation gives up when it is overtaken, which is expected of it, and the next one gives up
as well. If the desk has been shut down before, that is expected too, and the desk takes no snapshot
any more. Otherwise it is a fault, and the desk stays as it is. -/
theorem keepsFaults_acts_giving_up :
    let givesUp : Action := .move (.finish (.error (.refused .cancelled)))
    let first : List Action := [.dispatch ⟨1, [], []⟩, .move .take, .move .keep, .move .claim,
      .dispatch ⟨2, [], []⟩]
    let second : List Action := first ++ [givesUp, .move .take, .move .keep, .move .claim]
    let overtaken := (Desk.opened (.start .simulated)).acts first
    let wanted := (Desk.opened (.start .simulated)).acts second
    let closed := (Desk.opened (.start .simulated)).acts (second ++ [.shutdown])
    (∀ action ∈ second ++ [.shutdown, givesUp], ¬ action.Cancels) ∧
      (overtaken.act givesUp).fault = none ∧
      (wanted.act givesUp).fault = some .cancelled ∧
        (Desk.dispatch ⟨3, [], []⟩ (wanted.act givesUp)).2 = wanted.act givesUp ∧
      (closed.act givesUp).fault = none ∧
        Desk.dispatch ⟨3, [], []⟩ (closed.act givesUp) =
          (.error .workerGone, closed.act givesUp) := by
  intro givesUp first second overtaken wanted closed
  have leaves : ∀ action ∈ second ++ [.shutdown, givesUp], ¬ action.Cancels := by
    simp [second, first, givesUp, Action.Cancels]
  have keeps (actions : List Action) (among : actions ⊆ second ++ [.shutdown, givesUp]) :
      ((Desk.opened (.start .simulated)).acts actions).KeepsFaults (.shutdown ∈ actions) :=
    keepsFaults_acts (.start .simulated) actions fun action member => leaves action (among member)
  have early : first ⊆ second ++ [.shutdown, givesUp] :=
    fun _ member => List.mem_append_left _ (List.mem_append_left _ member)
  have shuts : closed = wanted.act .shutdown := acts_append _ _ _
  have computing : closed.phase = .computing ⟨2, 2, [], []⟩ := by
    rw [shuts, act_shutdown]
    rfl
  refine ⟨leaves, ?_, ?_, ?_, ?_, ?_⟩
  · exact (keeps first early).unwanted ⟨1, 1, [], []⟩ rfl (.inl (by decide))
  · refine (keeps second (List.subset_append_left _ _)).wanted ⟨2, 2, [], []⟩ rfl rfl ?_
    simp [second, first, givesUp]
  · refine ((keeps (second ++ [givesUp]) ?_).refused ⟨3, [], []⟩ .cancelled _ rfl).1
    simp
  · have shut : closed.KeepsFaults (.shutdown ∈ second ++ [.shutdown]) := keeps _ (by simp)
    exact shut.unwanted _ computing (.inr (by simp))
  · have gone := (keeps (second ++ [.shutdown, givesUp]) (List.Subset.refl _)).gone (by simp)
    have ends : (Desk.opened (.start .simulated)).acts (second ++ [.shutdown, givesUp]) =
        closed.act givesUp := by
      rw [acts_append, shuts]
      rfl
    rw [ends] at gone
    exact gone _

end LiveFleet.Desk
