/-
This file proves when a fault of the solver ends a call. The first fault that is
stored at the desk stays there for good. At the start of every tick the liaison
looks for one, and from a tick at whose look there is a fault a call does not come
back without naming it. Only the liaison looks: a fault that is stored after its
last look leaves no trace in the report of the call.
-/
import LiveFleet.Proofs.Desk.Sitting
import LiveFleet.Proofs.Run.ParcelCourse
import LiveFleet.Proofs.Run.Tempo
import LiveFleet.Proofs.Run.Upkeep

namespace LiveFleet

open Attempt

/-! ### Who passes a fault on -/

namespace Fleet

variable {Surroundings : Type} {worker : Worker Surroundings} {fault : Option SolverError}
  {error : SolverError} {fleet final : Fleet Surroundings}

theorem retains_turn : Maintains (fun fleet => fleet.desk.Retains fault) (turn worker) :=
  fun _ retains => retains.moves _

/-- Whatever happens in a run, a fault stays at the desk. -/
theorem retains_upkeep (worker : Worker Surroundings) (fault : Option SolverError) :
    Upkeep worker fun _ fleet => fleet.desk.Retains fault where
  turn := fun _ => retains_turn
  announcing := fun _ _ _ _ retains => retains
  handing := fun _ fleet time retains =>
    retains.act (.dispatch (.capture fleet.scene.world time)) (Desk.Action.dispatch_ne_shutdown _)
  driving := fun _ lapse index _ => by
    have looking : ∀ board : Desk × Surroundings, board.1.Retains fault →
        (readBoard worker board).2.1.Retains fault := fun _ retains => retains.moves _
    refine maintains_driveOne (fun fleet courier mayReturn time _ _ retains => ?_)
      fun fleet courier _ retains => ?_
    · exact Cab.round_board looking lapse mayReturn time (fleet.cab courier) retains
    · exact Cab.adopt_board looking (fleet.cab courier) retains
  onward := fun _ _ _ _ retains => retains

theorem fault_of_report {time : Nat} (retains : fleet.desk.Retains none)
    (failed : report worker time { fleet with repairs := fleet.repairs.takeRequest.2 } =
      (.error (.refused (.solver error)), final)) : final.desk.fault = some error := by
  rcases report_cases worker fleet time with ⟨reason, refused, reported⟩ | reported
  · rw [reported] at failed
    cases failed
    obtain ⟨faulty, same⟩ := retains.fault_of_dispatch (Prod.ext refused rfl)
    exact (congrArg Desk.fault same).trans faulty
  · rw [reported] at failed
    cases failed

theorem fault_of_reportNews {lapse : TimeLapse} (retains : fleet.desk.Retains none)
    (failed : reportNews worker lapse fleet = (.error (.refused (.solver error)), final)) :
    final.desk.fault = some error := by
  have turned : (turn worker fleet).2.desk.Retains none := retains_turn fleet retains
  cases found : (turn worker fleet).2.desk.fault with
  | some stored =>
    rw [reportNews_of_fault found] at failed
    cases failed
    exact found
  | none =>
    rw [reportNews_of_healthy found] at failed
    split at failed
    · refine fault_of_report ?_ failed
      exact turned
    · cases failed

theorem fault_of_reportRepairs {lapse : TimeLapse} (retains : fleet.desk.Retains none)
    (failed : reportRepairs worker lapse fleet = (.error (.refused (.solver error)), final)) :
    final.desk.fault = some error := by
  have turned : (turn worker fleet).2.desk.Retains none := retains_turn fleet retains
  rw [reportRepairs_apply] at failed
  split at failed
  · rw [bind_apply] at failed
    generalize reported : report worker lapse.finish _ = outcome at failed
    rcases outcome with ⟨reason | _, middle⟩
    · cases failed
      refine fault_of_report ?_ reported
      exact turned
    · cases failed
  · cases failed

/-- A driver has no reason of the solver to fail. -/
theorem driveOne_not_solver {index : Nat} {lapse : TimeLapse} :
    (driveOne worker index lapse fleet).1 ≠ .error (.refused (.solver error)) := by
  unfold driveOne
  rw [get_bind_apply]
  cases fleet.couriers[index]? with
  | none => nofun
  | some courier =>
    dsimp only [within]
    generalize Cab.tick (readBoard worker) lapse _ _ = outcome
    rcases outcome with ⟨⟨_ | _⟩ | _, cab⟩ <;> nofun

/-- Whoever ends a tick with an error of the solver has found it at the desk. -/
theorem fault_of_runTick {vehicles : Nat} {lapse : TimeLapse} {clock : TickClock} {tick : Nat}
    (covered : clock.lapse = .ok lapse) (retains : fleet.desk.Retains none)
    (failed : TickLoop.runTick (members worker vehicles ++ []) lapse fleet =
      (.error (.refused (.listener tick (.solver error))), final)) :
    final.desk.fault = some error := by
  have upkeep := retains_upkeep worker none
  obtain ⟨member, isMember, reason, last, told, retainsLast, blamed⟩ :=
    TickLoop.runTick_failed (upkeep.before covered) (upkeep.after clock) retains failed
  have reasons : reason = .refused (.solver error) := by
    cases reason with
    | crashed crash => cases told
    | refused refusal =>
      cases told
      rfl
  subst reasons
  simp only [members, List.append_nil, List.mem_cons, List.mem_map] at isMember
  rcases isMember with rfl | rfl | ⟨index, -, rfl⟩
  · rcases blamed with began | ended
    · cases began
    · cases ended
  · rcases blamed with began | ended
    · exact fault_of_reportNews retainsLast began
    · exact fault_of_reportRepairs retainsLast ended
  · rcases blamed with began | ended
    · exact absurd (congrArg Prod.fst began) driveOne_not_solver
    · cases ended

/-- A tick at whose first look there is a fault ends with it. -/
theorem runTick_of_fault {vehicles : Nat} {lapse : TimeLapse}
    (faulty : (turn worker fleet).2.desk.fault = some error) :
    ∃ reached, TickLoop.runTick (members worker vehicles ++ []) lapse fleet =
      (.error (.refused (.listener lapse.tick (.solver error))), reached) := by
  have began : announcing.before lapse fleet =
      (.ok (), (announcing.before lapse fleet).2) := rfl
  have told : reportNews worker lapse (announcing.before lapse fleet).2 = _ :=
    reportNews_of_fault faulty
  have notified : Listener.notify (members worker vehicles ++ []) lapse fleet = _ :=
    bind_of_failed ((bind_of_ok began).trans (bind_of_failed told))
  refine ⟨(turn worker (announcing.before lapse fleet).2).2, ?_⟩
  dsimp only [TickLoop.runTick, within, id]
  rw [notified]
  rfl

end Fleet

/-! ### Calls -/

namespace Simulation

open TickLoop Fleet

variable {Surroundings : Type} {settings : Settings} {scenario : Scenario}
  {startSolver : UInt64 → Except SolverFailure Surroundings} {simulation : Simulation Surroundings}

theorem retains_after (built : build settings scenario startSolver = .ok simulation)
    (worker : Worker Surroundings) (calls : Nat) :
    (simulation.after worker [] calls).fleet.desk.Retains none := by
  obtain ⟨surroundings, fresh⟩ := build_fleet built
  have first : simulation.fleet.desk.Retains none := by
    rw [fresh]
    exact .opened _
  exact upkeep_after (retains_upkeep worker none) first calls

/-- A call that fails with an error of the solver has found it at the desk. -/
theorem fault_of_run {worker : Worker Surroundings} {tick : Nat} {error : SolverError}
    (retains : simulation.fleet.desk.Retains none)
    (failed : (run worker simulation).1 =
      .error (.refused (.ticks (.listener tick (.solver error))))) :
    (run worker simulation).2.fleet.desk.fault = some error := by
  let stop := fun (fleet : Fleet Surroundings) lapse => simulation.stop.isMet fleet.scene lapse
  unfold run runObserved Setup.run at failed ⊢
  dsimp only at failed ⊢
  generalize ran : (simulation.setup worker []).runFrom stop 0 0 simulation.loop
    (turn worker simulation.fleet).2 = outcome at failed ⊢
  rcases outcome with ⟨reason | summary, loop, fleet⟩
  · have told : reason = .refused (.listener tick (.solver error)) := by
      cases reason with
      | crashed crash => cases failed
      | refused refusal =>
        cases failed
        rfl
    rw [told] at ran
    obtain ⟨lapse, before, covered, retainsBefore, ended⟩ :=
      ((retains_upkeep worker none).upholds simulation).runFrom_failed
        (retains_turn simulation.fleet retains) ran
    exact fault_of_runTick covered retainsBefore ended
  · cases failed

/-- A call that gets to a tick at whose first look there is a fault fails with that fault. -/
theorem run_of_fault {worker : Worker Surroundings} {tick : Nat} {loop : TickLoop}
    {fleet : Fleet Surroundings} {lapse : TimeLapse} {error : SolverError}
    (begun : simulation.atTick worker [] tick = (.ok (), loop, fleet))
    (covered : loop.clock.lapse = .ok lapse)
    (faulty : (turn worker fleet).2.desk.fault = some error) :
    (∃ report final, run worker simulation = (.ok report, final) ∧ report.summary.ticks ≤ tick) ∨
      (run worker simulation).1 =
        .error (.refused (.ticks (.listener lapse.tick (.solver error)))) := by
  let stop := fun (fleet : Fleet Surroundings) lapse => simulation.stop.isMet fleet.scene lapse
  obtain ⟨reached, fails⟩ := runTick_of_fault faulty
  rcases Setup.runFrom_of_fails begun covered fails with ⟨summary, final, ran, early⟩ | ran
  · have ran : (simulation.setup worker []).runFrom stop 0 0 simulation.loop _ = _ := ran
    refine .inl ⟨_, _, runObserved_of_ok ran, ?_⟩
    rw [Nat.zero_add] at early
    exact early
  · have ran : (simulation.setup worker []).runFrom stop 0 0 simulation.loop _ = _ := ran
    exact .inr (congrArg Prod.fst (runObserved_of_failed ran))

/-- A fault that is stored stays at the desk, an error of the solver that ends a call is the fault
that is stored, and a call that gets to a tick at whose first look a fault is stored ends with it:
a call that comes back with a report has stopped before that look. -/
theorem seen_faults_end_calls (built : build settings scenario startSolver = .ok simulation)
    (worker : Worker Surroundings) (calls : Nat) :
    (∀ error, (simulation.after worker [] calls).fleet.desk.fault = some error →
      (∀ tick, ((simulation.after worker [] calls).atTick worker [] tick).2.2.desk.fault =
          some error) ∧
        (simulation.after worker [] (calls + 1)).fleet.desk.fault = some error) ∧
      (∀ tick error,
        (run worker (simulation.after worker [] calls)).1 =
            .error (.refused (.ticks (.listener tick (.solver error)))) →
          (simulation.after worker [] (calls + 1)).fleet.desk.fault = some error) ∧
      ∀ tick loop fleet lapse error,
        (simulation.after worker [] calls).atTick worker [] tick = (.ok (), loop, fleet) →
          loop.clock.lapse = .ok lapse → (turn worker fleet).2.desk.fault = some error →
            (∃ report final,
              run worker (simulation.after worker [] calls) = (.ok report, final) ∧
                report.summary.ticks ≤ tick) ∨
              (run worker (simulation.after worker [] calls)).1 =
                .error (.refused (.ticks (.listener lapse.tick (.solver error)))) := by
  have retains := retains_after built worker calls
  refine ⟨fun error faulty => ?_, fun tick error failed => fault_of_run retains failed,
    fun tick loop fleet lapse error begun covered faulty => run_of_fault begun covered faulty⟩
  have knows := retains.now
  rw [faulty] at knows
  exact ⟨fun tick => (upkeep_atTick (retains_upkeep worker _) knows tick).kept nofun,
    (upkeep_run (retains_upkeep worker _) knows).kept nofun⟩

/-! ### A solver that fails at its first snapshot -/

/-- A solver that fails whatever it is given. -/
def faulty : Worker Unit where
  turn := fun _ desk => ((), if desk.queue.isEmpty then [] else
    [.take, .keep, .claim, .finish (.error (.refused (.failed "no route")))])

/-- The run of one order after its only tick. -/
def abandoned : Simulation Unit :=
  { errand with
    loop := afterOneTick
    fleet := (reportNews faulty onlyLapse (announcing.before onlyLapse errand.fleet).2).2 }

theorem run_abandoned :
    run faulty errand = (.ok (abandoned.report ⟨1, 0, 2, .condition⟩), abandoned) := by
  have ticked : runTick (members faulty 1 ++ []) onlyLapse errand.fleet =
      (.ok (), abandoned.fleet) :=
    runTick_alone rfl rfl (driveOne_of_drive rfl rfl (Cab.drive_of_over rfl)) rfl
  exact runObserved_of_ok ((runFrom_of_tick rfl rfl rfl ticked rfl).trans (runFrom_of_stop rfl rfl))

/-- With a second tick the fault is seen, and the call ends with it. -/
theorem seen_faults_end_calls_unanswered :
    build brief ⟨.origin, [.standard], [(OrderDraft.between .origin .origin).order]⟩
        (fun _ => .ok ()) = .ok unanswered ∧
      (run faulty unanswered).1 =
        .error (.refused (.ticks (.listener 1 (.solver (.failed "no route"))))) ∧
      (unanswered.after faulty [] 1).fleet.desk.fault = some (.failed "no route") := by
  have built : build brief _ _ = .ok unanswered := build_standing _ (by decide) (by decide)
  have ticked : runTick (members faulty 1 ++ []) onlyLapse unanswered.fleet =
      (.ok (), abandoned.fleet) :=
    runTick_alone rfl rfl (driveOne_of_drive rfl rfl (Cab.drive_of_over rfl)) rfl
  have stored : (turn faulty abandoned.fleet).2.desk.fault = some (.failed "no route") := rfl
  obtain ⟨reached, fails⟩ := runTick_of_fault stored
  have second : runTick (members faulty 1 ++ []) ⟨1, 2, 4⟩ abandoned.fleet = _ := fails
  have failed : (run faulty unanswered).1 = _ := congrArg Prod.fst (runObserved_of_failed
    ((runFrom_of_tick rfl rfl rfl ticked rfl).trans (runFrom_of_failed rfl rfl rfl second)))
  exact ⟨built, failed, (seen_faults_end_calls built faulty 0).2.1 1 _ failed⟩

/-- The solver fails in the last tick, after the last look, and the call comes back with a report. -/
theorem fault_after_last_look_is_not_reported :
    build oneTick ⟨.origin, [.standard], [(OrderDraft.between .origin .origin).order]⟩
        (fun _ => .ok ()) = .ok errand ∧
      ∃ report final, run faulty errand = (.ok report, final) ∧
        final.fleet.desk.fault = some (.failed "no route") :=
  ⟨build_standing _ (by decide) (by decide), _, _, run_abandoned, rfl⟩

end Simulation

end LiveFleet
