/-
This file proves that a run fails for one reason only: the solver has failed, and
the liaison has seen it. No driver is refused anything, in any state that a run can
reach, whatever is published and whenever. What can still end a driver's tick is a
time that leaves the range; that is a crash, and it leaves a state from which the
drivers of the next call are not refused anything either.
-/
import LiveFleet.Proofs.Run.Faults
import LiveFleet.Proofs.Run.Readiness

namespace LiveFleet

open Attempt

/-! ### All drivers -/

/-- Every driver has its vehicle and is ready, and the books agree about what is aboard. -/
structure Manned (ledger : Ledger) (couriers : List Courier) : Prop where
  crewed : Crewed ledger couriers
  laden : Laden ledger
  ready : ∀ (index : Nat) (courier : Courier), couriers[index]? = some courier →
    Ready ledger courier

namespace Manned

variable {Board : Type} {read : ReadBoard Board} {cab after : Cab Board} {couriers : List Courier}
  {index : Nat}

theorem isReady (manned : Manned cab.world.ledger couriers)
    (found : couriers[index]? = some cab.courier) : cab.IsReady :=
  ⟨manned.laden, manned.ready index cab.courier found⟩

theorem adoption (manned : Manned cab.world.ledger couriers)
    (found : couriers[index]? = some cab.courier) (adoption : Cab.Adoption read cab after) :
    Manned after.world.ledger (couriers.set index after.courier) where
  crewed := adoption.crewed manned.crewed found
  laden := manned.laden.adoption adoption
  ready := by
    have own := manned.ready index cab.courier found
    intro other driver there
    rcases Courier.set_cases there with ⟨rfl, rfl⟩ | ⟨-, foundOther⟩
    · exact own.adoption_own adoption
    · exact Ready.adoption_ledger adoption own (manned.ready other driver foundOther)

theorem deed (manned : Manned cab.world.ledger couriers)
    (found : couriers[index]? = some cab.courier) {time : Nat} (deed : Cab.Deed time cab after) :
    Manned after.world.ledger (couriers.set index after.courier) where
  crewed := deed.crewed manned.crewed found
  laden := manned.laden.deed deed
  ready := by
    have own := manned.ready index cab.courier found
    intro other driver there
    rcases Courier.set_cases there with ⟨rfl, rfl⟩ | ⟨differs, foundOther⟩
    · exact own.deed_own deed
    · exact Ready.deed_other deed own (manned.ready other driver foundOther)
        (manned.crewed.apart found foundOther differs)

end Manned

namespace Fleet

variable {Surroundings : Type} {worker : Worker Surroundings}

/-- The drivers of the fleet are ready. -/
def IsManned (fleet : Fleet Surroundings) : Prop :=
  Manned fleet.scene.world.ledger fleet.couriers

theorem isManned_initial (scenario : Scenario) (pace : Pace) (surroundings : Surroundings) :
    (Simulation.initialFleet scenario pace surroundings).IsManned where
  crewed := isCrewed_initial scenario pace surroundings
  laden := by
    rw [initial_ledger]
    refine ⟨fun _ _ found => absurd found (Option.some_ne_none _).symm, ?_⟩
    intro vehicle load found
    obtain ⟨-, same⟩ := Option.ite_none_right_eq_some.1 found
    cases same
    exact fun _ aboard => absurd aboard List.not_mem_nil
  ready := by
    intro index courier found
    have crewed := isCrewed_initial scenario pace surroundings
    refine ⟨Option.isSome_iff_exists.2 (crewed.load found), ?_, ?_⟩
    · intro load present stop listed
      rw [initial_ledger] at present
      obtain ⟨-, same⟩ := Option.ite_none_right_eq_some.1 present
      cases same
      exact absurd listed List.not_mem_nil
    · intro service underWay
      rw [Simulation.initialFleet_courier found] at underWay
      cases underWay

/-- Whoever takes part in a run keeps the drivers ready. -/
theorem manned_upkeep (worker : Worker Surroundings) :
    Upkeep worker fun _ fleet => fleet.IsManned where
  turn := fun _ _ manned => manned
  announcing := by
    intro clock lapse _
    refine maintains_announcing (fun _ _ _ manned => manned)
      (fun fleet order _ manned => ?_) fun fleet manned => ?_
    · have crewed : fleet.IsCrewed := manned.crewed
      exact ⟨crewed.of_world rfl, manned.laden.announced _ _,
        fun index courier found => (manned.ready index courier found).announced _ _⟩
    · have crewed : fleet.IsCrewed := manned.crewed
      exact ⟨crewed.of_world rfl, manned.laden.refreshed _,
        fun index courier found => (manned.ready index courier found).refreshed _⟩
  handing := fun _ _ _ manned => manned
  driving := by
    intro clock lapse index _
    refine maintains_driving (fun _ manned => manned.crewed) (fun _ manned => manned)
      (fun fleet courier cab found adoption manned => ?_)
      fun fleet courier time cab found _ deed manned => ?_
    · have manned : Manned (fleet.cab courier).world.ledger fleet.couriers := manned
      exact manned.adoption found adoption
    · have manned : Manned (fleet.cab courier).world.ledger fleet.couriers := manned
      exact manned.deed found deed
  onward := fun _ _ _ _ manned => manned

/-- What is kept separately is kept together. -/
theorem Upkeep.and {First Second : TickClock → Fleet Surroundings → Prop}
    (first : Upkeep worker First) (second : Upkeep worker Second) :
    Upkeep worker fun clock fleet => First clock fleet ∧ Second clock fleet where
  turn := fun clock fleet both =>
    ⟨first.turn clock fleet both.1, second.turn clock fleet both.2⟩
  announcing := fun clock lapse covered fleet both =>
    ⟨first.announcing clock lapse covered fleet both.1,
      second.announcing clock lapse covered fleet both.2⟩
  handing := fun clock fleet time both =>
    ⟨first.handing clock fleet time both.1, second.handing clock fleet time both.2⟩
  driving := fun clock lapse index covered fleet both =>
    ⟨first.driving clock lapse index covered fleet both.1,
      second.driving clock lapse index covered fleet both.2⟩
  onward := fun clock next fleet advanced both =>
    ⟨first.onward clock next fleet advanced both.1, second.onward clock next fleet advanced both.2⟩

/-! ### Who is refused -/

variable {fleet final : Fleet Surroundings} {lapse : TimeLapse} {failure : Failure Refusal}

/-- A driver of a fleet whose drivers are ready is not refused. -/
theorem driveOne_overflowsAtWorst (manned : fleet.IsManned) (worker : Worker Surroundings)
    (index : Nat) (lapse : TimeLapse) : OverflowsAtWorst (driveOne worker index lapse fleet).1 := by
  unfold driveOne
  rw [get_bind_apply]
  cases found : fleet.couriers[index]? with
  | none => exact .of_ok rfl
  | some courier =>
    have manned : Manned (fleet.cab courier).world.ledger fleet.couriers := manned
    have ticked := Cab.tick_overflowsAtWorst (manned.isReady found) (readBoard worker) lapse
      (fleet.scene.pending = 0)
    dsimp only [within]
    generalize Cab.tick (readBoard worker) lapse (fleet.scene.pending = 0) (fleet.cab courier) =
      outcome at ticked
    rcases outcome with ⟨failure | _, cab⟩
    · intro other failed
      cases failed
      rw [ticked failure rfl]
      rfl
    · exact .of_ok rfl

theorem report_failed {time : Nat}
    (failed : report worker time { fleet with repairs := fleet.repairs.takeRequest.2 } =
      (.error failure, final)) : ∃ error, failure = .refused (.solver error) := by
  rcases report_cases worker fleet time with ⟨error, -, refused⟩ | taken
  · rw [refused] at failed
    cases failed
    exact ⟨error, rfl⟩
  · rw [taken] at failed
    cases failed

/-- The liaison fails with an error of the solver. -/
theorem reportNews_failed (failed : reportNews worker lapse fleet = (.error failure, final)) :
    ∃ error, failure = .refused (.solver error) := by
  cases faulty : (turn worker fleet).2.desk.fault with
  | some error =>
    rw [reportNews_of_fault faulty] at failed
    cases failed
    exact ⟨error, rfl⟩
  | none =>
    rw [reportNews_of_healthy faulty] at failed
    split at failed
    · exact report_failed failed
    · cases failed

theorem reportRepairs_failed (failed : reportRepairs worker lapse fleet = (.error failure, final)) :
    ∃ error, failure = .refused (.solver error) := by
  rw [reportRepairs_apply] at failed
  split at failed
  · rcases bind_eq_error_iff.1 failed with refused | ⟨_, middle, -, turned⟩
    · exact report_failed refused
    · cases turned
  · cases failed

/-- A tick fails because a time has left the range, or with the fault of the solver. -/
theorem runTick_fails {vehicles : Nat} {clock : TickClock} {reason : Failure (TickError Refusal)}
    (manned : fleet.IsManned) (retains : fleet.desk.Retains none)
    (covered : clock.lapse = .ok lapse)
    (failed : TickLoop.runTick (members worker vehicles ++ []) lapse fleet =
      (.error reason, final)) :
    reason = .crashed .addOverflow ∨
      ∃ error, reason = .refused (.listener lapse.tick (.solver error)) ∧
        final.desk.fault = some error := by
  obtain ⟨member, isMember, blame, last, told, mannedLast, blamed⟩ :=
    TickLoop.runTick_failed ((manned_upkeep worker).before covered)
      ((manned_upkeep worker).after clock) manned failed
  have bySolver : (∃ error, blame = .refused (.solver error)) →
      ∃ error, reason = .refused (.listener lapse.tick (.solver error)) ∧
        final.desk.fault = some error := by
    rintro ⟨error, rfl⟩
    rw [told] at failed ⊢
    exact ⟨error, rfl, fault_of_runTick covered retains failed⟩
  simp only [members, List.append_nil, List.mem_cons, List.mem_map] at isMember
  rcases isMember with rfl | rfl | ⟨index, -, rfl⟩
  · rcases blamed with began | ended
    · cases began
    · cases ended
  · rcases blamed with began | ended
    · exact .inr (bySolver (reportNews_failed began))
    · exact .inr (bySolver (reportRepairs_failed ended))
  · rcases blamed with began | ended
    · have crashed := driveOne_overflowsAtWorst mannedLast worker index lapse blame
        (congrArg Prod.fst began)
      rw [told, crashed]
      exact .inl rfl
    · cases ended

/-- It is the turn of the driver at a position of the list, in a tick that began with a fleet: the
announcer, the liaison and the drivers before it have done their part. -/
def HasTurn (worker : Worker Surroundings) (lapse : TimeLapse) (index : Nat)
    (fleet driven : Fleet Surroundings) : Prop :=
  ∃ announced informed, announcing.before lapse fleet = (.ok (), announced) ∧
    reportNews worker lapse announced = (.ok (), informed) ∧
    ((List.range index).map (driving worker)).forM (fun member => member.before lapse) informed =
      (.ok (), driven)

/-- What is kept up in a run holds at the turn of every driver. -/
theorem HasTurn.upheld {Holds : TickClock → Fleet Surroundings → Prop} {clock : TickClock}
    {index : Nat} {driven : Fleet Surroundings}
    (hasTurn : HasTurn worker lapse index fleet driven) (upkeep : Upkeep worker Holds)
    (covered : clock.lapse = .ok lapse) (holds : Holds clock fleet) : Holds clock driven := by
  obtain ⟨announced, informed, announces, informs, drives⟩ := hasTurn
  have holdsThen := upkeep.announcing clock lapse covered fleet holds
  rw [announces] at holdsThen
  have holdsNext :=
    maintains_reportNews (upkeep.turn clock) (upkeep.handing clock) lapse _ holdsThen
  rw [informs] at holdsNext
  have holdsLast : Holds clock (((List.range index).map (driving worker)).forM
      (fun member => member.before lapse) informed).2 := by
    refine maintains_forM (fun member isMember => ?_) informed holdsNext
    obtain ⟨earlier, -, rfl⟩ := List.mem_map.1 isMember
    exact upkeep.driving clock lapse earlier covered
  rw [drives] at holdsLast
  exact holdsLast

theorem HasTurn.isManned {clock : TickClock} {index : Nat} {driven : Fleet Surroundings}
    (hasTurn : HasTurn worker lapse index fleet driven) (covered : clock.lapse = .ok lapse)
    (manned : fleet.IsManned) : driven.IsManned :=
  hasTurn.upheld (manned_upkeep worker) covered manned

end Fleet

/-! ### Runs -/

namespace Simulation

open TickLoop Fleet

variable {Surroundings : Type} {settings : Settings} {scenario : Scenario}
  {startSolver : UInt64 → Except SolverFailure Surroundings} {simulation : Simulation Surroundings}

theorem isManned_after (built : build settings scenario startSolver = .ok simulation)
    (worker : Worker Surroundings) (calls : Nat) :
    (simulation.after worker [] calls).fleet.IsManned := by
  obtain ⟨surroundings, fresh⟩ := build_fleet built
  have first : simulation.fleet.IsManned := by
    rw [fresh]
    exact isManned_initial _ _ _
  exact upkeep_after (manned_upkeep worker) first calls

/-- A call that is refused has found a fault of the solver. -/
theorem run_refused {worker : Worker Surroundings} {error : RunError}
    (manned : simulation.fleet.IsManned) (retains : simulation.fleet.desk.Retains none)
    (failed : (run worker simulation).1 = .error (.refused error)) :
    ∃ tick fault, error = .ticks (.listener tick (.solver fault)) ∧
      (run worker simulation).2.fleet.desk.fault = some fault := by
  let stop := fun (fleet : Fleet Surroundings) lapse => simulation.stop.isMet fleet.scene lapse
  unfold run runObserved Setup.run at failed ⊢
  dsimp only at failed ⊢
  generalize ran : (simulation.setup worker []).runFrom stop 0 0 simulation.loop
    (turn worker simulation.fleet).2 = outcome at failed ⊢
  rcases outcome with ⟨reason | summary, loop, fleet⟩
  · cases reason with
    | crashed crash => cases failed
    | refused refusal =>
      cases failed
      have upkeep := (manned_upkeep worker).and (retains_upkeep worker none)
      have turned : (turn worker simulation.fleet).2.IsManned ∧
          (turn worker simulation.fleet).2.desk.Retains none :=
        ⟨manned, retains_turn simulation.fleet retains⟩
      obtain ⟨lapse, before, covered, ⟨mannedBefore, retainsBefore⟩, ended⟩ :=
        (upkeep.upholds simulation).runFrom_failed turned ran
      rcases runTick_fails mannedBefore retainsBefore covered ended with
        crashed | ⟨error, same, stored⟩
      · cases crashed
      · cases same
        exact ⟨_, error, rfl, stored⟩
  · cases failed

end Simulation

end LiveFleet
