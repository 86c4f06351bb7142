/-
This file follows a run over any number of calls. What one call does to the fleet
is a trail of steps, and so is what all calls do, as long as none of them crashes
and loses a service. At the desk nothing happens in a run but what the parties of a
desk do. A call that ends with a summary has counted its ticks, and as real-time
ticks those at whose start the run followed the wall clock.
-/
import LiveFleet.Proofs.Run.Trail

namespace LiveFleet

/-! ### The ticks of one call -/

namespace TickLoop

variable {Context Refusal : Type} {setup : Setup Context Refusal}

/-- The tick loop runs one tick, and then the others. -/
theorem Setup.runTicks_succ {loop : TickLoop} {context reached : Context} {lapse : TimeLapse}
    {clock : TickClock} (covered : loop.clock.lapse = .ok lapse)
    (ran : runTick setup.listeners lapse context = (.ok (), reached))
    (advanced : loop.clock.advance = .ok clock) (count : Nat) :
    setup.runTicks (count + 1) loop context =
      setup.runTicks count { loop with clock } reached := by
  simp only [Setup.runTicks, covered, ran, advanced]

/-- A call that ends with a summary has run the ticks that it reports, one after the other, and has
counted those at whose start the pace was that of the wall clock. -/
theorem Setup.runFrom_summary {stop : Context → TimeLapse → Bool} {ticks realTimeTicks : Nat}
    {loop : TickLoop} {context : Context} {summary : RunSummary} {final : TickLoop × Context}
    (ended : setup.runFrom stop ticks realTimeTicks loop context = (.ok summary, final)) :
    ∃ count, summary.ticks = ticks + count ∧
      (∀ tick ≤ count, (setup.runTicks tick loop context).1 = .ok ()) ∧
      summary.realTimeTicks = realTimeTicks + (List.range count).countP fun tick =>
        setup.pace (setup.runTicks tick loop context).2.2 = .realTime := by
  fun_induction setup.runFrom stop ticks realTimeTicks loop context with
  | case1 | case4 | case5 => cases ended
  | case2 ticks realTimeTicks loop context | case3 ticks realTimeTicks loop context =>
    cases ended
    refine ⟨0, rfl, ?_, rfl⟩
    intro tick none
    rw [Nat.le_zero.1 none]
    rfl
  | case6 ticks realTimeTicks loop context lapse covered _ _ reached ran clock advanced paced
      inductionHypothesis =>
    obtain ⟨count, counted, reachedAll, realTime⟩ := inductionHypothesis ended
    have later := runTicks_succ covered ran advanced
    refine ⟨count + 1, ?_, ?_, ?_⟩
    · rw [counted, Nat.add_right_comm, Nat.add_assoc]
    · intro tick within
      cases tick with
      | zero => rfl
      | succ earlier =>
        rw [later]
        exact reachedAll earlier (Nat.le_of_succ_le_succ within)
    · have first : (setup.runTicks 0 loop context).2.2 = context := rfl
      have rest : (fun tick => decide (setup.pace
            (setup.runTicks tick { loop with clock } reached).2.2 = .realTime)) =
          (fun tick => decide (setup.pace (setup.runTicks tick loop context).2.2 = .realTime)) ∘
            Nat.succ := by
        funext tick
        rw [Function.comp_apply, Nat.succ_eq_add_one, later]
      rw [realTime, List.range_succ_eq_map, List.countP_cons, List.countP_map, first, rest,
        Nat.add_assoc, Nat.add_comm paced]
      simp only [decide_eq_true_eq, paced]
      split <;> rfl

end TickLoop

/-! ### What a call does -/

namespace Fleet

variable {Surroundings : Type} {worker : Worker Surroundings}
  {observers : List (Member Surroundings)}

theorem ends_runTick {listeners : List (Member Surroundings)} {vehicles : Nat}
    (told : listeners = members worker vehicles ++ observers) (lapse : TimeLapse)
    (fleet : Fleet Surroundings) :
    Ends worker observers fleet (TickLoop.runTick listeners lapse fleet).1
      (TickLoop.runTick listeners lapse fleet).2 := by
  have notified : Ends worker observers fleet _ _ := treads_notify vehicles lapse fleet
  rw [← told] at notified
  dsimp only [TickLoop.runTick, Attempt.within, id]
  generalize Listener.notify listeners lapse fleet = outcome at notified
  rcases outcome with ⟨failure | _, after⟩
  · exact notified.told _
  · exact .whole notified.trail_of_ok

section Ticks

variable {setup : TickLoop.Setup (Fleet Surroundings) Refusal} {vehicles : Nat}
  (members : setup.listeners = Fleet.members worker vehicles ++ observers)

include members

/-- A tick that is run to its end leads the fleet on by steps. -/
theorem trail_of_ran {lapse : TimeLapse} {fleet after : Fleet Surroundings}
    (ran : TickLoop.runTick setup.listeners lapse fleet = (.ok (), after)) :
    Trail worker observers fleet after := by
  have ends := ends_runTick members lapse fleet
  rw [ran] at ends
  exact ends.trail_of_ok

/-- A tick that fails ends the call that it belongs to. -/
theorem ends_of_failed {lapse : TimeLapse} {fleet after : Fleet Surroundings}
    {failure : Failure (TickError Refusal)}
    (failed : TickLoop.runTick setup.listeners lapse fleet = (.error failure, after))
    (Value : Type) :
    Ends worker observers fleet (.error failure : Except (Failure (TickError Refusal)) Value)
      after := by
  have ends := ends_runTick members lapse fleet
  rw [failed] at ends
  exact ends.passedOn

/-- The ticks of a call lead the fleet on by steps. -/
theorem ends_runFrom (stop : Fleet Surroundings → TimeLapse → Bool) (ticks realTimeTicks : Nat)
    (loop : TickLoop) (fleet : Fleet Surroundings) :
    Ends worker observers fleet (setup.runFrom stop ticks realTimeTicks loop fleet).1
      (setup.runFrom stop ticks realTimeTicks loop fleet).2.2 := by
  fun_induction setup.runFrom stop ticks realTimeTicks loop fleet with
  | case1 | case2 | case3 => exact .whole .refl
  | case4 ticks realTimeTicks loop fleet lapse _ _ _ failure after failed =>
    exact ends_of_failed members failed _
  | case5 ticks realTimeTicks loop fleet lapse _ _ _ after ran =>
    exact .whole (trail_of_ran members ran)
  | case6 ticks realTimeTicks loop fleet lapse _ _ _ after ran clock advanced paced
      inductionHypothesis =>
    exact .later (trail_of_ran members ran) inductionHypothesis

theorem ends_runTicks (count : Nat) (loop : TickLoop) (fleet : Fleet Surroundings) :
    Ends worker observers fleet (setup.runTicks count loop fleet).1
      (setup.runTicks count loop fleet).2.2 := by
  fun_induction setup.runTicks count loop fleet with
  | case1 | case2 => exact .whole .refl
  | case3 count loop fleet lapse _ failure after failed =>
    exact ends_of_failed members failed _
  | case4 count loop fleet lapse _ after ran => exact .whole (trail_of_ran members ran)
  | case5 count loop fleet lapse _ after ran clock _ inductionHypothesis =>
    exact .later (trail_of_ran members ran) inductionHypothesis

end Ticks

/-! ### The desk -/

/-- Observers that leave the desk alone. -/
def AreDiscreet (observers : List (Member Surroundings)) : Prop :=
  ∀ observer ∈ observers, ∀ lapse,
    Attempt.Keeps Fleet.desk (observer.before lapse) ∧
      Attempt.Keeps Fleet.desk (observer.after lapse)

/-- What a step does to the desk is what the parties of a desk do. -/
theorem Stride.desk (discreet : AreDiscreet observers) {before after : Fleet Surroundings}
    (stride : Stride worker observers before after) : before.desk.LeadsTo after.desk := by
  have looking := readBoard_desk worker before.desk
  cases stride with
  | aside world couriers desk => exact desk
  | announced | opened => exact .refl
  | adopted found => exact Cab.adopt_board looking _ .refl
  | drove found lapse mayReturn time whole =>
    exact Cab.round_board looking lapse mayReturn time _ .refl
  | observed member lapse =>
    rw [(discreet _ member lapse).1 before]
    exact .refl
  | observedEnd member lapse =>
    rw [(discreet _ member lapse).2 before]
    exact .refl

theorem Stumble.desk {before after : Fleet Surroundings} (stumble : Stumble worker before after) :
    before.desk.LeadsTo after.desk := by
  cases stumble with
  | drove found lapse mayReturn time crash lost =>
    exact Cab.round_board (readBoard_desk worker before.desk) lapse mayReturn time _ .refl

theorem Trail.desk (discreet : AreDiscreet observers) {before after : Fleet Surroundings}
    (trail : Trail worker observers before after) : before.desk.LeadsTo after.desk := by
  induction trail with
  | refl => exact .refl
  | tail _ stride inductionHypothesis => exact inductionHypothesis.trans (stride.desk discreet)

/-- In every operation nothing happens at the desk but what the parties of a desk do. -/
theorem Ends.desk {Reason Value : Type} {result : Except (Failure Reason) Value}
    {first after : Fleet Surroundings} (discreet : AreDiscreet observers)
    (ends : Ends worker observers first result after) : first.desk.LeadsTo after.desk := by
  cases ends with
  | whole trail => exact trail.desk discreet
  | stumbled trail stumble => exact (trail.desk discreet).trans stumble.desk

end Fleet

/-! ### Any number of calls -/

namespace Simulation

variable {Surroundings : Type}

/-- The run after the given number of calls, whatever each of them has answered. -/
def after (worker : Worker Surroundings) (observers : List (Fleet.Member Surroundings))
    (simulation : Simulation Surroundings) : Nat → Simulation Surroundings
  | 0 => simulation
  | calls + 1 => (runObserved worker observers (simulation.after worker observers calls)).2

/-- The fleet at the start of a tick of the next call. The first tick is tick zero. -/
def atTick (worker : Worker Surroundings) (observers : List (Fleet.Member Surroundings))
    (simulation : Simulation Surroundings) (tick : Nat) :
    TickLoop.Reached (Fleet Surroundings) Refusal Unit :=
  (simulation.setup worker observers).runTicks tick simulation.loop
    (Fleet.turn worker simulation.fleet).2

variable {worker : Worker Surroundings} {observers : List (Fleet.Member Surroundings)}

/-! ### A fresh run -/

/-- The vehicles of a scenario are parked in its order, behind those that are there. -/
theorem addVehicles_eq (profiles : List VehicleProfile) (world : World) :
    profiles.foldl (fun world profile => (world.addVehicle profile).2) world =
      { world with
        vehicles := world.vehicles ++ profiles.mapIdx fun index profile =>
          .parked ⟨world.vehicles.length + index⟩ profile } := by
  induction profiles generalizing world with
  | nil => simp
  | cons profile rest inductionHypothesis =>
    rw [List.foldl_cons, inductionHypothesis]
    simp [World.addVehicle, List.mapIdx_cons, Nat.add_assoc, Nat.add_comm 1]

/-- A world begins with nothing but its vehicles, all of them parked. -/
theorem initialWorld_eq (scenario : Scenario) :
    initialWorld scenario =
      { World.empty scenario.depot with
        vehicles := scenario.vehicles.mapIdx fun index profile => .parked ⟨index⟩ profile } := by
  rw [initialWorld, addVehicles_eq]
  simp [World.empty]

/-- A driver begins without a schedule and without a service. -/
theorem initialFleet_courier {scenario : Scenario} {pace : Pace} {surroundings : Surroundings}
    {index : Nat} {courier : Courier}
    (found : (initialFleet scenario pace surroundings).couriers[index]? = some courier) :
    courier = .start ⟨index⟩ := by
  obtain ⟨position, there, rfl⟩ := Option.map_eq_some_iff.1 (List.getElem?_map.symm.trans found)
  obtain ⟨inside, rfl⟩ := List.getElem?_eq_some_iff.1 there
  rw [List.getElem_range]

theorem start_ticks {settings : Settings} (positive : 0 < settings.tickLength) :
    (TickLoop.start settings.ticks : Except (TickError Refusal) TickLoop) =
      .ok ⟨⟨settings.tickLength, 0, positive⟩, none⟩ := by
  simp [TickLoop.start, Settings.ticks, TickClock.start, positive]

/-- A run is built from a scenario with vehicles and from settings under which a tick takes time, and
begins before its first tick. -/
theorem build_eq_ok {settings : Settings} {scenario : Scenario}
    {startSolver : UInt64 → Except SolverFailure Surroundings}
    {simulation : Simulation Surroundings}
    (built : build settings scenario startSolver = .ok simulation) :
    scenario.vehicles ≠ [] ∧ ∃ surroundings, ∃ positive : 0 < settings.tickLength,
      startSolver (solverSeed settings) = .ok surroundings ∧
        simulation =
          { loop := ⟨⟨settings.tickLength, 0, positive⟩, none⟩
            stop := stopRule settings
            fleet := initialFleet scenario settings.initialPace surroundings } := by
  unfold build at built
  cases empty : scenario.vehicles.isEmpty with
  | true =>
    rw [empty] at built
    cases built
  | false =>
    rw [empty] at built
    have vehicles : scenario.vehicles ≠ [] := by
      intro none
      rw [none] at empty
      cases empty
    cases valid : settings.validate with
    | error _ =>
      rw [valid] at built
      cases built
    | ok _ =>
      have positive : 0 < settings.tickLength :=
        Nat.pos_of_ne_zero (Settings.validate_eq_ok_iff.1 valid).1
      have looped : (TickLoop.start settings.ticks : Except (TickError Refusal) TickLoop) = _ :=
        start_ticks positive
      cases started : startSolver (solverSeed settings) with
      | error _ =>
        rw [valid, looped, started] at built
        cases built
      | ok surroundings =>
        rw [valid, looped, started] at built
        cases built
        exact ⟨vehicles, surroundings, positive, rfl, rfl⟩

/-- A run that is built begins with the fleet of its scenario. -/
theorem build_fleet {settings : Settings} {scenario : Scenario}
    {startSolver : UInt64 → Except SolverFailure Surroundings}
    {simulation : Simulation Surroundings}
    (built : build settings scenario startSolver = .ok simulation) :
    ∃ surroundings,
      simulation.fleet = initialFleet scenario settings.initialPace surroundings := by
  obtain ⟨-, surroundings, -, -, rfl⟩ := build_eq_ok built
  exact ⟨surroundings, rfl⟩

/-- A call leads the fleet on by steps. -/
theorem ends_run (simulation : Simulation Surroundings) :
    Fleet.Ends worker observers simulation.fleet (runObserved worker observers simulation).1
      (runObserved worker observers simulation).2.fleet := by
  have first : Fleet.Ends worker observers simulation.fleet _ _ :=
    Fleet.treads_turn simulation.fleet
  have members : (simulation.setup worker observers).listeners = _ := rfl
  have rest := Fleet.ends_runFrom members
    (fun fleet lapse => simulation.stop.isMet fleet.scene lapse) 0 0 simulation.loop
    (Fleet.turn worker simulation.fleet).2
  have both := Fleet.Ends.later first.trail_of_ok rest
  unfold runObserved TickLoop.Setup.run
  dsimp only at both ⊢
  generalize (simulation.setup worker observers).runFrom _ 0 0 simulation.loop
    (Fleet.turn worker simulation.fleet).2 = outcome at both
  rcases outcome with ⟨failure | summary, loop, fleet⟩
  · exact both.told _
  · exact .whole both.trail_of_ok

/-- The ticks before a tick lead the fleet on by steps. -/
theorem ends_atTick (simulation : Simulation Surroundings) (tick : Nat) :
    Fleet.Ends worker observers simulation.fleet (simulation.atTick worker observers tick).1
      (simulation.atTick worker observers tick).2.2 := by
  have first : Fleet.Ends worker observers simulation.fleet _ _ :=
    Fleet.treads_turn simulation.fleet
  exact .later first.trail_of_ok (Fleet.ends_runTicks rfl tick _ _)

/-- In any number of calls nothing happens at the desk but what the parties of a desk do. -/
theorem after_desk (discreet : Fleet.AreDiscreet observers) (simulation : Simulation Surroundings)
    (calls : Nat) :
    simulation.fleet.desk.LeadsTo (simulation.after worker observers calls).fleet.desk := by
  induction calls with
  | zero => exact .refl
  | succ calls inductionHypothesis =>
    have called : Fleet.Ends worker observers _ _ _ :=
      ends_run (simulation.after worker observers calls)
    exact inductionHypothesis.trans (called.desk discreet)

/-- As long as no overflow has lost a service, all calls together are one trail. -/
theorem after_trail (simulation : Simulation Surroundings) (calls : Nat)
    (whole : ∀ earlier < calls,
      (runObserved worker observers (simulation.after worker observers earlier)).1 =
          .error (.crashed .addOverflow) →
        ¬ (simulation.after worker observers (earlier + 1)).fleet.HasLostService) :
    Fleet.Trail worker observers simulation.fleet
      (simulation.after worker observers calls).fleet := by
  induction calls with
  | zero => exact .refl
  | succ calls inductionHypothesis =>
    have earlierCalls := inductionHypothesis fun earlier before =>
      whole earlier (Nat.lt_succ_of_lt before)
    have called : Fleet.Ends worker observers _ _ _ :=
      ends_run (simulation.after worker observers calls)
    exact earlierCalls.trans (called.trail (whole calls (Nat.lt_succ_self calls)))

/-- A call that ends with a report has counted as real-time ticks those at whose start the run
followed the wall clock. -/
theorem run_summary {simulation final : Simulation Surroundings} {report : RunReport}
    (ended : runObserved worker observers simulation = (.ok report, final)) :
    (∀ tick ≤ report.summary.ticks,
        (simulation.atTick worker observers tick).1 = .ok ()) ∧
      report.summary.realTimeTicks = (List.range report.summary.ticks).countP fun tick =>
        (simulation.atTick worker observers tick).2.2.desk.switch.pace = .realTime := by
  unfold runObserved TickLoop.Setup.run at ended
  dsimp only at ended
  split at ended
  · rename_i summary loop fleet ran
    cases ended
    obtain ⟨count, counted, reached, realTime⟩ := TickLoop.Setup.runFrom_summary ran
    rw [Nat.zero_add] at counted realTime
    subst counted
    exact ⟨reached, realTime⟩
  · cases ended

end Simulation

end LiveFleet
