/-
This file says how the part of a driver in a tick can end. No driver is refused
anything. If its part does not end well, then the driver has come to a round in which
a time leaves the range: the end of the service that begins in it, or the arrival at
the place for which the vehicle sets out.
-/
import LiveFleet.Proofs.Run.Paths

namespace LiveFleet

open Attempt

/-! ### The round that fails -/

namespace Cab

variable {Board : Type} {read : ReadBoard Board} {lapse : TimeLapse} {mayReturn : Bool}
  {time : Nat} {cab after : Cab Board}

/-- A drive fails in one of its rounds, with what this round leaves. -/
theorem drive_failed {failure : Failure WorldError}
    (failed : drive read lapse mayReturn time cab = (.error failure, after)) :
    ∃ moment last, DrivesTo read lapse mayReturn (time, cab) (moment, last) ∧
      round read lapse mayReturn moment last = (.error failure, after) := by
  induction time, cab using drive.induct read lapse mayReturn with
  | case1 time cab error reached gone =>
    rw [drive_of_failed gone] at failed
    cases failed
    exact ⟨time, cab, .refl, gone⟩
  | case2 time cab reached gone =>
    rw [drive_of_over gone] at failed
    cases failed
  | case3 time cab next reached gone inductionHypothesis =>
    rw [drive_of_next gone] at failed
    obtain ⟨moment, last, drives, fails⟩ := inductionHypothesis failed
    exact ⟨moment, last, .head gone drives, fails⟩

/-- From round to round the time does not go back. -/
theorem DrivesTo.onward {start last : Nat × Cab Board}
    (drives : DrivesTo read lapse mayReturn start last) : start.1 ≤ last.1 := by
  induction drives with
  | refl => exact Nat.le_refl _
  | tail _ gone inductionHypothesis => exact Nat.le_trans inductionHypothesis (round_onward gone)

/-- What leaves the range of times in a round: the end of the service that begins in it, or the
arrival of the vehicle at the place for which it sets out. -/
inductive LeavesRange (lapse : TimeLapse) (time : Nat) (cab : Cab Board) : Prop where
  | service {stop : ParcelId} {known : Parcel} {kind : StopKind} {moment : Nat}
      (opens : Opens lapse time cab stop known kind moment)
      (beyond : Checked.range ≤ moment + kind.duration known.order)
  | journey {carrier : Vehicle} {target : Point} (idle : cab.courier.service = none)
      (present : cab.world.vehicle? cab.courier.vehicle = some carrier)
      (bound : cab.SetsOutFor carrier target) (strays : carrier.Strays target time lapse.finish)

/-- A round of a ready driver fails only because a time leaves the range. -/
theorem Turn.leavesRange {failure : Failure WorldError}
    (turn : Turn read lapse time cab (.error failure) after) :
    failure = .crashed .addOverflow ∧ cab.LeavesRange lapse time := by
  cases turn with
  | lost opens _ beyond => exact ⟨rfl, .service opens beyond⟩
  | strayed idle present bound strays => exact ⟨rfl, .journey idle present bound strays⟩

end Cab

/-! ### The driver that fails -/

namespace Fleet

variable {Surroundings : Type} {worker : Worker Surroundings} {index : Nat} {lapse : TimeLapse}
  {fleet reached : Fleet Surroundings}

/-- Within a tick the driver at a position of the list comes to this moment and to what it then
sees, with a round to drive. -/
def DrivesTo (worker : Worker Surroundings) (index : Nat) (lapse : TimeLapse)
    (fleet : Fleet Surroundings) (time : Nat) (last : Cab (Desk × Surroundings)) : Prop :=
  ∃ courier cab, fleet.couriers[index]? = some courier ∧
    Cab.adopt (readBoard worker) (fleet.cab courier) = (.ok (), cab) ∧
      Cab.DrivesTo (readBoard worker) lapse (fleet.scene.pending = 0) (lapse.start, cab)
        (time, last)

/-- In its part of the tick the driver at a position of the list comes to a round in which a time
leaves the range. -/
def Overflows (worker : Worker Surroundings) (index : Nat) (lapse : TimeLapse)
    (fleet : Fleet Surroundings) : Prop :=
  ∃ time last, fleet.DrivesTo worker index lapse time last ∧ last.LeavesRange lapse time

/-- A driver of a fleet whose drivers are ready fails in a round, and that is its last one. -/
theorem driveOne_failed (manned : fleet.IsManned) {failure : Failure Refusal}
    (failed : driveOne worker index lapse fleet = (.error failure, reached)) :
    ∃ time last reason after, failure = reason.map .world ∧
      fleet.DrivesTo worker index lapse time last ∧
        Cab.round (readBoard worker) lapse (fleet.scene.pending = 0) time last =
          (.error reason, after) ∧ reached = putBack index after fleet := by
  cases found : fleet.couriers[index]? with
  | none =>
    unfold driveOne at failed
    rw [get_bind_apply, found] at failed
    cases failed
  | some courier =>
    obtain ⟨cab, looked⟩ := manned.looks found worker
    cases drove : Cab.drive (readBoard worker) lapse (fleet.scene.pending = 0) lapse.start cab with
    | mk result after =>
      rw [driveOne_of_drive found looked drove] at failed
      rcases result with reason | _ <;> cases failed
      obtain ⟨time, last, drives, fails⟩ := Cab.drive_failed drove
      exact ⟨time, last, reason, after, rfl, ⟨courier, cab, found, looked, drives⟩, fails, rfl⟩

namespace DrivesTo

variable {time : Nat} {last : Cab (Desk × Surroundings)}
  (drives : fleet.DrivesTo worker index lapse time last)

include drives

theorem later : lapse.start ≤ time := by
  obtain ⟨courier, cab, -, -, drives⟩ := drives
  exact drives.onward

theorem seated : (putBack index last fleet).couriers[index]? = some last.courier := by
  obtain ⟨courier, cab, found, -⟩ := drives
  exact couriers_putBack found last

theorem path : Path worker fleet (putBack index last fleet) := by
  obtain ⟨courier, cab, found, looked, drives⟩ := drives
  have looks : Takes worker fleet _ := .inl (.adopted found)
  rw [looked] at looks
  have rounds : Path worker (putBack index cab fleet) (putBack index last fleet) :=
    path_of_drivesTo found drives
  exact .head looks rounds

/-- Wherever a driver comes in a tick, it is ready there. -/
theorem isReady (manned : fleet.IsManned) : last.IsReady :=
  (drives.path.isManned manned).isReady drives.seated

end DrivesTo

/-- A driver of a fleet whose drivers are ready ends its part, or a time leaves the range. -/
theorem driveOne_overflows (manned : fleet.IsManned) (worker : Worker Surroundings) (index : Nat)
    (lapse : TimeLapse) :
    (driveOne worker index lapse fleet).1 = .ok () ∨
      (driveOne worker index lapse fleet).1 = .error (.crashed .addOverflow) ∧
        fleet.Overflows worker index lapse := by
  cases drove : driveOne worker index lapse fleet with
  | mk result reached =>
    rcases result with failure | _
    · obtain ⟨time, last, reason, after, rfl, drives, fails, -⟩ := driveOne_failed manned drove
      have turn := Cab.round_turn (drives.isReady manned) (readBoard worker) lapse
        (fleet.scene.pending = 0) time
      rw [fails] at turn
      obtain ⟨rfl, leaves⟩ := turn.leavesRange
      exact .inr ⟨rfl, time, last, drives, leaves⟩
    · exact .inl rfl

end Fleet

/-! ### Runs -/

namespace Simulation

open TickLoop Fleet

variable {Surroundings : Type} {settings : Settings} {scenario : Scenario}
  {startSolver : UInt64 → Except SolverFailure Surroundings} {simulation : Simulation Surroundings}

/-- In every tick of every call, also of one after calls that have failed, each driver ends its part
or comes to a round in which a time leaves the range. So all that a call is ever refused for is a
fault of the solver that is stored at the desk. -/
theorem drivers_are_never_refused (built : build settings scenario startSolver = .ok simulation)
    (worker : Worker Surroundings) (calls : Nat) :
    (∀ tick loop fleet lapse index driven,
      (simulation.after worker [] calls).atTick worker [] tick = (.ok (), loop, fleet) →
        loop.clock.lapse = .ok lapse → HasTurn worker lapse index fleet driven →
          (driveOne worker index lapse driven).1 = .ok () ∨
            (driveOne worker index lapse driven).1 = .error (.crashed .addOverflow) ∧
              driven.Overflows worker index lapse) ∧
      ∀ error, (run worker (simulation.after worker [] calls)).1 = .error (.refused error) →
        ∃ tick fault, error = .ticks (.listener tick (.solver fault)) ∧
          (simulation.after worker [] (calls + 1)).fleet.desk.fault = some fault := by
  have manned := isManned_after built worker calls
  constructor
  · intro tick loop fleet lapse index driven begun covered hasTurn
    have mannedThen := upkeep_atTick (manned_upkeep worker) manned tick
    rw [begun] at mannedThen
    exact driveOne_overflows (hasTurn.isManned covered mannedThen) worker index lapse
  · intro error failed
    exact run_refused manned (retains_after built worker calls) failed

/-! ### A solver that does not know the parcels -/

/-- A solver that sends the first vehicle to parcels that do not exist. -/
def careless : Worker Unit where
  turn := fun _ desk => ((), if desk.queue.isEmpty then [] else
    [.take, .keep, .claim, .publish ⟨[[⟨7⟩, ⟨0⟩, ⟨9⟩]]⟩, .signalDone, .finish (.ok ())])

/-- The fleet of one order after the careless solver has been informed. -/
def misled : Fleet Unit :=
  (reportNews careless onlyLapse (announcing.before onlyLapse errand.fleet).2).2

/-- Its schedule is on the board, and the driver is not refused. -/
theorem drivers_are_never_refused_misled :
    build oneTick ⟨.origin, [.standard], [(OrderDraft.between .origin .origin).order]⟩
        (fun _ => .ok ()) = .ok errand ∧
      misled.desk.published = some ⟨1, ⟨[[⟨7⟩, ⟨0⟩, ⟨9⟩]]⟩⟩ ∧
      ((driveOne careless 0 onlyLapse misled).1 = .ok () ∨
        (driveOne careless 0 onlyLapse misled).1 = .error (.crashed .addOverflow) ∧
          misled.Overflows careless 0 onlyLapse) := by
  have built : build oneTick _ _ = .ok errand := build_standing _ (by decide) (by decide)
  have hasTurn : HasTurn careless onlyLapse 0 errand.fleet misled := ⟨_, _, rfl, rfl, rfl⟩
  have begun : (errand.after careless [] 0).atTick careless [] 0 =
      (.ok (), errand.loop, errand.fleet) := rfl
  exact ⟨built, rfl, (drivers_are_never_refused built careless 0).1 0 _ _ _ _ _ begun rfl hasTurn⟩

end Simulation

end LiveFleet
