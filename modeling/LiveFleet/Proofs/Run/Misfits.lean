/-
This file writes down which schedule versions the drivers find not to fit. A driver
looks at the board at the start of its tick and after each service, and a look at an
entry that does not fit is a failed check of its version. The memory of rejected
entries is nothing but the trace of these checks: it is what flagging their versions
one after the other leads to, however the tick ends.
-/
import LiveFleet.Proofs.Run.Adoption

namespace LiveFleet

open Attempt

/-! ### Several failed checks -/

namespace RepairLog

/-- The log after checks of these versions have failed, in order. -/
def flagAll (log : RepairLog) (versions : List Nat) : RepairLog := versions.foldl flag log

theorem flagAll_append (log : RepairLog) (first second : List Nat) :
    log.flagAll (first ++ second) = (log.flagAll first).flagAll second :=
  List.foldl_append

/-- A version is flagged again, or for the first time. -/
theorem flag_cases (log : RepairLog) (version : Nat) :
    (version ≤ log.lastFlagged ∧ log.flag version = log) ∨
      (log.lastFlagged < version ∧ log.flag version = ⟨true, version, log.repairs + 1⟩) := by
  rcases Nat.lt_or_ge log.lastFlagged version with first | again
  · exact .inr ⟨first, if_neg (by omega)⟩
  · exact .inl ⟨again, flag_of_flagged again⟩

/-- What is newer than all that was flagged. -/
theorem lastFlagged_flagAll_lt {log : RepairLog} {versions : List Nat} {bound : Nat} :
    (log.flagAll versions).lastFlagged < bound ↔
      log.lastFlagged < bound ∧ ∀ version ∈ versions, version < bound := by
  induction versions generalizing log with
  | nil => simp [flagAll]
  | cons version rest inductionHypothesis =>
    have flagged : (log.flag version).lastFlagged < bound ↔
        log.lastFlagged < bound ∧ version < bound := by
      rcases log.flag_cases version with ⟨again, same⟩ | ⟨first, same⟩
      · rw [same]
        omega
      · rw [same]
        exact ⟨fun newer => ⟨Nat.lt_trans first newer, newer⟩, fun newer => newer.2⟩
    show ((log.flag version).flagAll rest).lastFlagged < bound ↔ _
    rw [inductionHypothesis, flagged, List.forall_mem_cons, and_assoc]

/-- A snapshot is asked for by the first failed check of a version that is newer than all before. -/
theorem requested_flagAll {log : RepairLog} {versions : List Nat} :
    (log.flagAll versions).requested = true ↔
      log.requested = true ∨ ∃ version ∈ versions, log.lastFlagged < version := by
  induction versions generalizing log with
  | nil => simp [flagAll]
  | cons version rest inductionHypothesis =>
    show ((log.flag version).flagAll rest).requested = true ↔ _
    rw [inductionHypothesis]
    simp only [List.mem_cons, exists_eq_or_imp]
    rcases log.flag_cases version with ⟨again, same⟩ | ⟨first, same⟩
    · rw [same]
      have older : ¬ log.lastFlagged < version := Nat.not_lt_of_le again
      simp only [older, false_or]
    · rw [same]
      simp only [first, true_or, or_true]

/-- Each version that is flagged first is newer than the one before it. -/
theorem repairs_flagAll_le {log : RepairLog} (versions : List Nat)
    (counted : log.repairs ≤ log.lastFlagged) :
    (log.flagAll versions).repairs ≤ (log.flagAll versions).lastFlagged := by
  induction versions generalizing log with
  | nil => exact counted
  | cons version rest inductionHypothesis =>
    refine inductionHypothesis ?_
    rcases log.flag_cases version with ⟨-, same⟩ | ⟨first, same⟩
    · rw [same]
      exact counted
    · rw [same]
      exact Nat.succ_le_of_lt (Nat.lt_of_le_of_lt counted first)

/-- A new snapshot is asked for by a version that is flagged first. -/
theorem asked_flagAll_le (log : RepairLog) (versions : List Nat) :
    log.repairs + (log.flagAll versions).requested.toNat ≤
      (log.flagAll versions).repairs + log.requested.toNat := by
  induction versions generalizing log with
  | nil => exact Nat.le_refl _
  | cons version rest inductionHypothesis =>
    have later : (log.flag version).repairs + (log.flagAll (version :: rest)).requested.toNat ≤
        (log.flagAll (version :: rest)).repairs + (log.flag version).requested.toNat :=
      inductionHypothesis (log.flag version)
    rcases log.flag_cases version with ⟨-, same⟩ | ⟨-, same⟩
    · rwa [same] at later
    · rw [same] at later
      dsimp only [Bool.toNat_true] at later
      omega

/-- A request that is settled makes no difference to what is flagged. -/
theorem takeRequest_flagAll {log other : RepairLog} (versions : List Nat)
    (same : log.takeRequest.2 = other.takeRequest.2) :
    (log.flagAll versions).takeRequest.2 = (other.flagAll versions).takeRequest.2 := by
  induction versions generalizing log other with
  | nil => exact same
  | cons version rest inductionHypothesis =>
    refine inductionHypothesis ?_
    obtain ⟨requested, lastFlagged, repairs⟩ := log
    obtain ⟨otherRequested, otherFlagged, otherRepairs⟩ := other
    cases same
    unfold flag
    dsimp only
    split <;> rfl

end RepairLog

namespace Cab

variable {Board : Type} {read : ReadBoard Board} {cab : Cab Board}

/-! ### Steps that check nothing -/

theorem onWorld_repairs (change : World.Change) :
    Keeps (fun cab : Cab Board => cab.repairs) (onWorld change) := by
  intro cab
  unfold onWorld within
  split <;> rfl

theorem popStop_repairs (parcel : ParcelId) :
    Keeps (fun cab : Cab Board => cab.repairs) (popStop parcel) :=
  keeps_bind keeps_get fun _ => keeps_bind (lookUp_keeps _ _) fun _ => onWorld_repairs _

theorem travel_repairs (target : Point) (time finish : Nat) :
    Keeps (fun cab : Cab Board => cab.repairs) (travel target time finish) :=
  fun cab => congrArg (fun books => books.2.2.1) (travel_books target time finish cab)

theorem approach_repairs (stop : ParcelId) (parcel : Parcel) (kind : StopKind) (time : Nat)
    (lapse : TimeLapse) :
    Keeps (fun cab : Cab Board => cab.repairs) (approach stop parcel kind time lapse) := by
  refine keeps_bind keeps_get fun cab => keeps_bind (onWorld_repairs _) fun _ =>
    keeps_bind (travel_repairs _ _ _) fun reached => ?_
  dsimp only
  split
  · exact keeps_pure _
  · split
    · exact keeps_pure _
    · refine keeps_bind (keeps_bind keeps_get fun _ => keeps_bind (onWorld_repairs _) fun _ =>
        keeps_bind (keeps_ofExcept _ _) fun _ => ?_) fun _ => keeps_pure _
      exact keeps_modify fun _ => rfl

theorem rest_repairs (mayReturn : Bool) (time : Nat) (lapse : TimeLapse) :
    Keeps (fun cab : Cab Board => cab.repairs) (rest mayReturn time lapse) :=
  fun cab => congrArg (fun books => books.2.2.1) (rest_books mayReturn time lapse cab)

/-! ### One look -/

/-- The version whose check fails if the driver looks at the board now. -/
def misfit? (read : ReadBoard Board) (cab : Cab Board) : Option Nat :=
  if cab.courier.service.isSome then none
  else
    match (read cab.board).1 with
    | none => none
    | some publication =>
      if publication.version ≤ cab.courier.adopted then none
      else
        (cab.world.entryProblem? cab.courier.vehicle
          (publication.schedule.entry? cab.courier.vehicle)).map fun _ => publication.version

/-- Versions count from one. -/
theorem pos_of_misfit? {version : Nat} (failed : cab.misfit? read = some version) :
    0 < version := by
  unfold misfit? at failed
  split at failed
  · cases failed
  · split at failed
    · cases failed
    · split at failed
      · cases failed
      · rename_i newer
        obtain ⟨_, -, rfl⟩ := Option.map_eq_some_iff.1 failed
        omega

theorem committedRoute_repairs {publication : Publication} :
    (committedRoute publication cab).2.repairs = cab.repairs.flagAll
      ((cab.world.entryProblem? cab.courier.vehicle
        (publication.schedule.entry? cab.courier.vehicle)).map
          fun _ => publication.version).toList := by
  unfold committedRoute RepairLog.check
  dsimp only
  cases cab.world.entryProblem? cab.courier.vehicle
      (publication.schedule.entry? cab.courier.vehicle) with
  | none => rfl
  | some problem =>
    dsimp only
    split <;> rfl

/-- A look flags the version whose check fails. -/
theorem adopt_repairs (read : ReadBoard Board) (cab : Cab Board) :
    (adopt read cab).2.repairs = cab.repairs.flagAll (cab.misfit? read).toList := by
  rw [adopt, get_bind_apply]
  unfold misfit?
  cases cab.courier.service with
  | some service => rfl
  | none =>
    have looked : look read cab =
        (.ok (read cab.board).1, { cab with board := (read cab.board).2 }) := rfl
    rw [if_neg (by simp), if_neg (by simp), bind_of_ok looked]
    cases (read cab.board).1 with
    | none => rfl
    | some publication =>
      dsimp only
      split
      · rfl
      · exact (view_bind fun _ => onWorld_repairs _).trans committedRoute_repairs

/-! ### The looks of a tick -/

/-- The driver ends a service, up to its look at the board. -/
def settleService (service : Service) (time : Nat) : Step Board Unit := do
  let cab ← get
  onWorld (service.kind.finish cab.courier.vehicle service.parcel time)
  setService none
  popStop service.parcel

theorem settleService_repairs (service : Service) (time : Nat) :
    Keeps (fun cab : Cab Board => cab.repairs) (settleService service time) :=
  keeps_bind keeps_get fun _ => keeps_bind (onWorld_repairs _) fun _ =>
    keeps_bind (keeps_modify fun _ => rfl) fun _ => popStop_repairs _

/-- To end a service is to settle it, and then to look at the board. -/
theorem endService_apply (read : ReadBoard Board) (service : Service) (time : Nat)
    (cab : Cab Board) :
    endService read service time cab =
      (settleService service time >>= fun _ => adopt read) cab := by
  show (onWorld _ >>= fun _ => setService none >>= fun _ =>
    popStop service.parcel >>= fun _ => adopt read) cab = ((onWorld _ >>= fun _ =>
      setService none >>= fun _ => popStop service.parcel) >>= fun _ => adopt read) cab
  rw [← bind_bind_apply]
  exact congrArg (fun rest => (onWorld _ >>= rest) cab)
    (funext fun _ => funext fun state => bind_bind_apply _ _ _ state)

/-- Where the driver looks at the board in a round: after a service that ends in it. -/
def roundLooks (lapse : TimeLapse) (time : Nat) (cab : Cab Board) : List (Cab Board) :=
  match cab.courier.service with
  | none => []
  | some service =>
    if lapse.finish < service.endsAt then []
    else
      match settleService service (max time service.endsAt) cab with
      | (.ok (), settled) => [settled]
      | (.error _, _) => []

theorem filterMap_single (read : ReadBoard Board) (cab : Cab Board) :
    [cab].filterMap (misfit? read) = (cab.misfit? read).toList := by
  rw [List.filterMap_cons]
  cases cab.misfit? read <;> rfl

/-- A round flags what does not fit at its look. -/
theorem round_repairs (read : ReadBoard Board) (lapse : TimeLapse) (mayReturn : Bool) (time : Nat)
    (cab : Cab Board) :
    (round read lapse mayReturn time cab).2.repairs =
      cab.repairs.flagAll ((cab.roundLooks lapse time).filterMap (misfit? read)) := by
  rw [round, get_bind_apply, roundLooks]
  cases cab.courier.service with
  | some service =>
    dsimp only
    split
    · rfl
    · rw [bind_pure_apply, endService_apply, bind_apply]
      have kept := settleService_repairs service (max time service.endsAt) cab
      generalize settleService service (max time service.endsAt) cab = outcome at kept
      rcases outcome with ⟨_ | _, settled⟩
      · exact kept
      · have same : settled.repairs = cab.repairs := kept
        dsimp only
        rw [adopt_repairs, same, filterMap_single]
  | none =>
    dsimp only
    split
    · rfl
    · refine (keeps_bind (lookUp_keeps (fun cab => cab.repairs) _) fun vehicle => ?_) cab
      split
      · exact keeps_bind (rest_repairs _ _ _) fun _ => keeps_pure _
      · refine keeps_bind (lookUp_keeps _ _) fun parcel => ?_
        split
        · exact approach_repairs _ _ _ _ _
        · exact keeps_bind (popStop_repairs _) fun _ => keeps_pure _

/-- Where the driver looks at the board in the rounds from a time on. -/
def driveLooks (read : ReadBoard Board) (lapse : TimeLapse) (mayReturn : Bool) (time : Nat)
    (cab : Cab Board) : List (Cab Board) :=
  match _ : round read lapse mayReturn time cab with
  | (.error _, _) => cab.roundLooks lapse time
  | (.ok none, _) => cab.roundLooks lapse time
  | (.ok (some next), reached) =>
    cab.roundLooks lapse time ++ driveLooks read lapse mayReturn next reached
termination_by cab.effort
decreasing_by exact round_less (by assumption)

/-- The rounds flag what does not fit at their looks. -/
theorem drive_repairs (read : ReadBoard Board) (lapse : TimeLapse) (mayReturn : Bool) (time : Nat)
    (cab : Cab Board) :
    (drive read lapse mayReturn time cab).2.repairs = cab.repairs.flagAll
      ((driveLooks read lapse mayReturn time cab).filterMap (misfit? read)) := by
  fun_induction driveLooks read lapse mayReturn time cab with
  | case1 time cab failure reached gone =>
    have first := round_repairs read lapse mayReturn time cab
    rw [gone] at first
    rw [drive_of_failed gone]
    exact first
  | case2 time cab reached gone =>
    have first := round_repairs read lapse mayReturn time cab
    rw [gone] at first
    rw [drive_of_over gone]
    exact first
  | case3 time cab next reached gone inductionHypothesis =>
    have first : reached.repairs = _ :=
      (congrArg (fun outcome => outcome.2.repairs) gone).symm.trans
        (round_repairs read lapse mayReturn time cab)
    rw [drive_of_next gone, inductionHypothesis, first, List.filterMap_append,
      RepairLog.flagAll_append]

/-- Where the driver looks at the board in a tick: at its start, and after each service that ends in
it. -/
def looks (read : ReadBoard Board) (lapse : TimeLapse) (mayReturn : Bool) (cab : Cab Board) :
    List (Cab Board) :=
  match adopt read cab with
  | (.error _, _) => [cab]
  | (.ok (), reached) => cab :: driveLooks read lapse mayReturn lapse.start reached

/-- The versions whose checks fail in a tick of the driver, in order. -/
def misfits (read : ReadBoard Board) (lapse : TimeLapse) (mayReturn : Bool) (cab : Cab Board) :
    List Nat := (cab.looks read lapse mayReturn).filterMap (misfit? read)

/-- A tick of a driver flags what does not fit at its looks, also if the tick fails. -/
theorem tick_repairs (read : ReadBoard Board) (lapse : TimeLapse) (mayReturn : Bool)
    (cab : Cab Board) :
    (tick read lapse mayReturn cab).2.repairs =
      cab.repairs.flagAll (cab.misfits read lapse mayReturn) := by
  have first := adopt_repairs read cab
  rw [tick_apply, misfits, looks]
  generalize adopt read cab = outcome at first
  rcases outcome with ⟨_ | _, reached⟩
  · dsimp only
    rw [filterMap_single]
    exact first
  · have same : reached.repairs = cab.repairs.flagAll (cab.misfit? read).toList := first
    dsimp only
    rw [drive_repairs, same, ← List.singleton_append, List.filterMap_append, filterMap_single,
      RepairLog.flagAll_append]

/-- A version that does not fit counts from one. -/
theorem pos_of_mem_misfits {lapse : TimeLapse} {mayReturn : Bool} {version : Nat}
    (failed : version ∈ cab.misfits read lapse mayReturn) : 0 < version := by
  obtain ⟨_, -, shown⟩ := List.mem_filterMap.1 failed
  exact pos_of_misfit? shown

end Cab

/-! ### The drivers of a fleet -/

namespace Fleet

variable {Surroundings : Type} {worker : Worker Surroundings} {lapse : TimeLapse}
  {fleet : Fleet Surroundings}

/-- The versions whose checks fail in a tick of the driver at a position of the list. -/
def misfitsOf (worker : Worker Surroundings) (lapse : TimeLapse) (index : Nat)
    (fleet : Fleet Surroundings) : List Nat :=
  match fleet.couriers[index]? with
  | none => []
  | some courier =>
    (fleet.cab courier).misfits (readBoard worker) lapse (fleet.scene.pending = 0)

/-- The drivers at these positions drive, one after the other. -/
def driveAll (worker : Worker Surroundings) (lapse : TimeLapse) (indices : List Nat) :
    Step Surroundings Unit :=
  (indices.map (driving worker)).forM fun member => member.before lapse

/-- The versions whose checks fail when the drivers at these positions drive, one after the other,
until one of them fails. -/
def misfitsOfAll (worker : Worker Surroundings) (lapse : TimeLapse) :
    List Nat → Fleet Surroundings → List Nat
  | [], _ => []
  | index :: rest, fleet =>
    fleet.misfitsOf worker lapse index ++
      match driveOne worker index lapse fleet with
      | (.error _, _) => []
      | (.ok (), reached) => misfitsOfAll worker lapse rest reached

theorem driveOne_repairs (worker : Worker Surroundings) (lapse : TimeLapse) (index : Nat)
    (fleet : Fleet Surroundings) :
    (driveOne worker index lapse fleet).2.repairs =
      fleet.repairs.flagAll (fleet.misfitsOf worker lapse index) := by
  unfold driveOne misfitsOf
  rw [get_bind_apply]
  cases fleet.couriers[index]? with
  | none => rfl
  | some courier =>
    have ticked := Cab.tick_repairs (readBoard worker) lapse (fleet.scene.pending = 0)
      (fleet.cab courier)
    dsimp only [within]
    generalize Cab.tick (readBoard worker) lapse (fleet.scene.pending = 0) (fleet.cab courier) =
      outcome at ticked
    rcases outcome with ⟨_ | _, cab⟩ <;> exact ticked

/-- The drivers flag what does not fit at their looks, also if one of them fails. -/
theorem driveAll_repairs (indices : List Nat) :
    (driveAll worker lapse indices fleet).2.repairs =
      fleet.repairs.flagAll (fleet.misfitsOfAll worker lapse indices) := by
  induction indices generalizing fleet with
  | nil => rfl
  | cons index rest inductionHypothesis =>
    have first := driveOne_repairs worker lapse index fleet
    show ((driveOne worker index lapse >>= fun _ => driveAll worker lapse rest) fleet).2.repairs = _
    rw [bind_apply, misfitsOfAll, RepairLog.flagAll_append]
    generalize driveOne worker index lapse fleet = outcome at first
    rcases outcome with ⟨_ | _, reached⟩
    · exact first
    · have same : reached.repairs = fleet.repairs.flagAll (fleet.misfitsOf worker lapse index) :=
        first
      dsimp only
      rw [inductionHypothesis, same]

theorem pos_of_mem_misfitsOfAll {indices : List Nat} {version : Nat}
    (failed : version ∈ fleet.misfitsOfAll worker lapse indices) : 0 < version := by
  induction indices generalizing fleet with
  | nil => cases failed
  | cons index rest inductionHypothesis =>
    rcases List.mem_append.1 failed with own | later
    · unfold misfitsOf at own
      split at own
      · cases own
      · exact Cab.pos_of_mem_misfits own
    · split at later
      · cases later
      · exact inductionHypothesis later

end Fleet

end LiveFleet
