/-
This file proves what the pace of a run depends on. At the desk it is the pace of
the wall clock exactly while the newest snapshot is unanswered and the solver has
not failed, and the ticks that a call reports as real-time ticks are those at whose
start this is so.
-/
import LiveFleet.Proofs.Desk.Pacing
import LiveFleet.Proofs.Run.Replay

namespace LiveFleet.Simulation

open TickLoop Fleet

variable {Surroundings : Type} {worker : Worker Surroundings}
  {observers : List (Fleet.Member Surroundings)}

/-- In a run that begins at simulated pace, the pace follows the answers at the start of every
tick. -/
theorem paced_atTick {settings : Settings} {scenario : Scenario}
    {startSolver : UInt64 → Except SolverFailure Surroundings}
    {simulation : Simulation Surroundings}
    (built : build settings scenario startSolver = .ok simulation)
    (simulated : settings.initialPace = .simulated) (discreet : Fleet.AreDiscreet observers)
    (calls tick : Nat) :
    ((simulation.after worker observers calls).atTick worker observers tick).2.2.desk.Paced := by
  obtain ⟨surroundings, fresh⟩ := build_fleet built
  have opened : simulation.fleet.desk.Paced := by
    rw [fresh, simulated]
    exact .opened
  have called : simulation.fleet.desk.LeadsTo
      (simulation.after worker observers calls).fleet.desk := after_desk discreet simulation calls
  have ticked : Fleet.Ends worker observers (simulation.after worker observers calls).fleet _ _ :=
    ends_atTick (simulation.after worker observers calls) tick
  exact opened.of_leadsTo (called.trans (ticked.desk discreet))

/-- However the parties take turns at a desk, the pace follows the answers; and in every call of a
run that begins at simulated pace and whose observers leave the desk alone, a tick is counted as
real-time exactly if at its start an answer is awaited. -/
theorem pace_follows_answers :
    (∀ actions, (Session.run (.start .simulated) actions).KeepsPace) ∧
      ∀ {Surroundings : Type} {settings : Settings} {scenario : Scenario}
        {startSolver : UInt64 → Except SolverFailure Surroundings}
        {simulation : Simulation Surroundings},
        build settings scenario startSolver = .ok simulation → settings.initialPace = .simulated →
        ∀ (worker : Worker Surroundings) (observers : List (Fleet.Member Surroundings)),
          Fleet.AreDiscreet observers → ∀ (calls : Nat) (report : RunReport)
            (final : Simulation Surroundings),
            runObserved worker observers (simulation.after worker observers calls) =
              (.ok report, final) →
            (∀ tick ≤ report.summary.ticks,
              ((simulation.after worker observers calls).atTick worker observers tick).1 = .ok ()) ∧
            report.summary.realTimeTicks = (List.range report.summary.ticks).countP fun tick =>
              ((simulation.after worker observers calls).atTick worker observers
                tick).2.2.desk.isAwaited := by
  refine ⟨fun actions => .of_paced (Session.paced_run actions) (Session.transitions_run actions),
    fun built simulated worker observers discreet calls report final ended => ?_⟩
  obtain ⟨reached, counted⟩ := run_summary ended
  refine ⟨reached, counted.trans (congrArg (fun counts => List.countP counts _) ?_)⟩
  funext tick
  exact (paced_atTick built simulated discreet calls tick).decide_pace

/-! ### A solver that never answers -/

/-- Two ticks. -/
def brief : Settings :=
  { tickLength := 2, initialPace := .simulated, seed := 0, timeOut := 3 }

/-- Nobody works at the desk. -/
def silent : Worker Unit := ⟨fun _ _ => ((), [])⟩

/-- A run whose only order is known from the start. -/
def unanswered : Simulation Unit :=
  standing brief (OrderDraft.between .origin .origin).order (by decide)

/-- The fleet once the order is known: its snapshot waits at the desk. -/
def waiting : Fleet Unit :=
  let world : World :=
    { depot := .origin
      parcels := [⟨⟨0⟩, (OrderDraft.between .origin .origin).order, .available⟩]
      vehicles := [.parked ⟨0⟩ .standard]
      events := [⟨.newParcel, 0, ⟨0⟩, none⟩] }
  { unanswered.fleet with
    scene := ⟨world, 0⟩
    announcer := ⟨[]⟩
    reported := 1
    desk := (Desk.dispatch (.capture world 0) unanswered.fleet.desk).2 }

/-- The first tick begins before the order is known, and only the second one follows the wall
clock. -/
theorem pace_follows_answers_unanswered :
    ∃ report final,
      build brief ⟨.origin, [.standard], [(OrderDraft.between .origin .origin).order]⟩
        (fun _ => .ok ()) = .ok unanswered ∧
      runObserved silent [] unanswered = (.ok report, final) ∧
      report.summary = ⟨2, 1, 4, .condition⟩ ∧
      ((List.range 2).countP fun tick =>
        (unanswered.atTick silent [] tick).2.2.desk.isAwaited) = 1 := by
  have first : runTick (members silent 1 ++ []) ⟨0, 0, 2⟩ unanswered.fleet = (.ok (), waiting) :=
    runTick_alone rfl rfl (driveOne_of_drive rfl rfl (Cab.drive_of_over rfl)) rfl
  have second : runTick (members silent 1 ++ []) ⟨1, 2, 4⟩ waiting = (.ok (), waiting) :=
    runTick_alone rfl rfl (driveOne_of_drive rfl rfl (Cab.drive_of_over rfl)) rfl
  let stop := fun (fleet : Fleet Unit) lapse => unanswered.stop.isMet fleet.scene lapse
  let setup := unanswered.setup silent []
  have ran : setup.runFrom stop 0 0 unanswered.loop unanswered.fleet =
      (.ok ⟨2, 1, 4, .condition⟩, ⟨⟨2, 2, by decide⟩, none⟩, waiting) := by
    calc setup.runFrom stop 0 0 unanswered.loop unanswered.fleet
      _ = setup.runFrom stop 1 0 ⟨⟨2, 1, by decide⟩, none⟩ waiting :=
        runFrom_of_tick rfl rfl rfl first rfl
      _ = setup.runFrom stop 2 1 ⟨⟨2, 2, by decide⟩, none⟩ waiting :=
        runFrom_of_tick rfl rfl rfl second rfl
      _ = _ := runFrom_of_stop rfl rfl
  have ran : runObserved silent [] unanswered = _ := runObserved_of_ok ran
  have built : build brief _ _ = .ok unanswered := build_standing _ (by decide) (by decide)
  have counted := (pace_follows_answers.2 built rfl silent [] nofun 0 _ _ ran).2
  exact ⟨_, _, built, ran, rfl, counted.symm⟩

end LiveFleet.Simulation
