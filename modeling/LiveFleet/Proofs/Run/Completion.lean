/-
This file proves how the first call of a run ends. It stops before the first tick that
starts after the time-out, if it has not stopped before, so the number of its ticks is
bounded; and if it has stopped before, the scenario is done: every order has become a
parcel, every parcel has been delivered once, and the vehicles are back, with nothing
aboard. What could spoil this is the number of orders that are still to be announced.
It is kept beside them, and reaches zero only with the last of them.

Observers may take part. Whatever they do, they do not hold up the end; and if they
only look, the run is the one without them.
-/
import LiveFleet.Proofs.Run.ParcelCourse
import LiveFleet.Proofs.Run.Roster
import LiveFleet.Proofs.Run.Timeline
import LiveFleet.Proofs.Tick.Chronicle

namespace LiveFleet

open Attempt

/-! ### Listeners that only look -/

namespace Listener

variable {Context Refusal : Type}

/-- A listener whose callbacks leave the context as it is. -/
def OnlyLooks (listener : Listener Context Refusal) : Prop :=
  ∀ lapse, Keeps id (listener.before lapse) ∧ Keeps id (listener.after lapse)

/-- Listeners that come last and only look make no difference to the others. -/
theorem notify_of_onlookers {listeners onlookers : List (Listener Context Refusal)}
    (look : ∀ onlooker ∈ onlookers, onlooker.OnlyLooks) {lapse : TimeLapse}
    {context reached : Context}
    (told : notify (listeners ++ onlookers) lapse context = (.ok (), reached)) :
    notify listeners lapse context = (.ok (), reached) := by
  obtain ⟨⟨⟩, between, before, after⟩ := bind_eq_ok_iff.1 told
  rw [List.forM_eq_forM, List.forM_append] at before after
  obtain ⟨⟨⟩, looked, before, lookedBefore⟩ := bind_eq_ok_iff.1 before
  obtain ⟨⟨⟩, ended, after, lookedAfter⟩ := bind_eq_ok_iff.1 after
  obtain rfl : between = looked :=
    view_of_eq lookedBefore (keeps_forM fun onlooker member => (look onlooker member lapse).1)
  obtain rfl : reached = ended :=
    view_of_eq lookedAfter (keeps_forM fun onlooker member => (look onlooker member lapse).2)
  exact bind_eq_ok_iff.2 ⟨(), between, before, after⟩

end Listener

namespace TickLoop

variable {Context Refusal : Type} {setup : Setup Context Refusal}
  {stop : Context → TimeLapse → Bool}

theorem runTick_of_onlookers {listeners onlookers : List (Listener Context Refusal)}
    (look : ∀ onlooker ∈ onlookers, onlooker.OnlyLooks) {lapse : TimeLapse}
    {context reached : Context}
    (ran : runTick (listeners ++ onlookers) lapse context = (.ok (), reached)) :
    runTick listeners lapse context = (.ok (), reached) := by
  obtain ⟨_, told, rfl⟩ := within_eq_ok_iff.1 ran
  exact within_eq_ok_iff.2 ⟨_, Listener.notify_of_onlookers look told, rfl⟩

/-- A call that ends with a summary is the same with other listeners that make the same of every
tick that is run to its end. -/
theorem runFrom_of_agrees {listeners : List (Listener Context Refusal)}
    (agrees : ∀ lapse context reached, runTick setup.listeners lapse context = (.ok (), reached) →
      runTick listeners lapse context = (.ok (), reached))
    {ticks realTimeTicks : Nat} {loop : TickLoop} {context : Context} {summary : RunSummary}
    {final : TickLoop × Context}
    (ended : setup.runFrom stop ticks realTimeTicks loop context = (.ok summary, final)) :
    { setup with listeners }.runFrom stop ticks realTimeTicks loop context =
      (.ok summary, final) := by
  fun_induction setup.runFrom stop ticks realTimeTicks loop context with
  | case1 | case4 | case5 => cases ended
  | case2 ticks realTimeTicks loop context lapse covered stopped =>
    exact (runFrom_of_stop covered stopped).trans ended
  | case3 ticks realTimeTicks loop context lapse covered goes exhausted =>
    rw [Setup.runFrom, covered]
    simp only [goes, exhausted, if_true, Bool.false_eq_true, if_false]
    exact ended
  | case6 ticks realTimeTicks loop context lapse covered goes allowed reached ran clock advanced paced
      inductionHypothesis =>
    exact (runFrom_of_tick covered (eq_false_of_ne_true goes) (eq_false_of_ne_true allowed)
      (agrees _ _ _ ran) advanced).trans (inductionHypothesis ended)

/-! ### A loop that is stopped in time -/

open TickClock

/-- A call that is to stop before tick `last` at the latest, and none of whose ticks fails, ends
there or before, with the stop condition. -/
theorem runFrom_stops {ticks realTimeTicks last : Nat} {loop : TickLoop} {context : Context}
    (unbounded : loop.maxTicks = none) (early : loop.clock.tick ≤ last)
    (bounded : (last + 1) * loop.clock.tickLength < Checked.range)
    (stops : ∀ context, stop context (lapseAt loop.clock.tickLength last) = true)
    (whole : ∀ tick ∈ setup.begun stop ticks loop context,
      (runTick setup.listeners tick.1 tick.2).1 = .ok ()) :
    ∃ count paced reached, loop.clock.tick + count ≤ last ∧
      setup.runFrom stop ticks realTimeTicks loop context =
        (.ok ⟨ticks + count, paced, (loop.clock.tick + count) * loop.clock.tickLength, .condition⟩,
          loop.later count, reached) ∧
      stop reached (lapseAt loop.clock.tickLength (loop.clock.tick + count)) = true ∧
      (setup.begun stop ticks loop context).map Prod.fst =
        (List.range' loop.clock.tick count).map (lapseAt loop.clock.tickLength) := by
  fun_induction setup.runFrom stop ticks realTimeTicks loop context with
  | case1 ticks realTimeTicks loop context crash crashed =>
    have within := Nat.mul_le_mul_right loop.clock.tickLength (Nat.succ_le_succ early)
    exact absurd bounded (Nat.not_lt.2 (Nat.le_trans (beyond_of_crash crashed) within))
  | case2 ticks realTimeTicks loop context lapse covered stopped =>
    obtain rfl := lapse_eq_lapseAt covered
    exact ⟨0, realTimeTicks, context, early, rfl, stopped, by rw [begun_of_stop covered stopped]; rfl⟩
  | case3 ticks realTimeTicks loop context lapse covered goes exhausted =>
    obtain ⟨most, bound, -⟩ := isExhausted_iff.1 exhausted
    rw [unbounded] at bound
    cases bound
  | case4 ticks realTimeTicks loop context lapse covered goes allowed failure reached failed =>
    rw [begun_of_failed covered (eq_false_of_ne_true goes) (eq_false_of_ne_true allowed) failed]
      at whole
    have ran := whole _ List.mem_cons_self
    rw [failed] at ran
    cases ran
  | case5 ticks realTimeTicks loop context lapse covered goes allowed reached ran crash crashed =>
    rw [advance_of_lapse covered] at crashed
    cases crashed
  | case6 ticks realTimeTicks loop context lapse covered goes allowed reached ran clock advanced paced
      inductionHypothesis =>
    have begun : setup.begun stop ticks loop context = _ :=
      begun_of_tick covered (eq_false_of_ne_true goes) (eq_false_of_ne_true allowed) ran advanced
    obtain rfl := lapse_eq_lapseAt covered
    obtain rfl := (advance_eq_ok_iff.1 advanced).1
    have before : loop.clock.tick < last := by
      refine Nat.lt_of_le_of_ne early ?_
      rintro rfl
      exact goes (stops context)
    rw [begun] at whole ⊢
    obtain ⟨count, paced, final, within, ended, stopped, lapses⟩ :=
      inductionHypothesis unbounded before bounded stops
        fun tick member => whole tick (List.mem_cons_of_mem _ member)
    dsimp only at within ended stopped lapses
    rw [Nat.add_assoc, Nat.add_comm 1] at within ended stopped
    refine ⟨count + 1, paced, final, within, ?_, stopped, ?_⟩
    · have moved : (loop.later 1).later count = loop.later (count + 1) := by
        rw [later_later, Nat.add_comm]
      rw [ended, Nat.add_assoc, Nat.add_comm 1 count, ← moved]
      rfl
    · rw [List.map_cons, lapses]
      rfl

end TickLoop

/-! ### Deliveries -/

namespace World

/-- The number of times that the delivery of a parcel has ended. -/
def deliveries (world : World) (parcel : ParcelId) : Nat :=
  world.events.countP fun event => event.kind = .endDelivery && event.parcel = parcel

theorem deliveries_eq (world : World) (parcel : ParcelId) :
    world.deliveries parcel = (world.historyOf parcel).countP fun entry => entry.1 = .endDelivery := by
  rw [historyOf, List.countP_map, List.countP_filter]
  rfl

end World

/-- A parcel in order that has been delivered has been delivered once. -/
theorem Orderly.delivered_once {world : World} {couriers : List Courier}
    (orderly : Orderly world couriers) {parcel : ParcelId} {known : Parcel}
    (found : world.parcel? parcel = some known) (delivered : known.state = .delivered) :
    world.deliveries parcel = 1 := by
  have stage := orderly.staged parcel
  rw [World.stateOf, found, Option.map_some, delivered] at stage
  rw [World.deliveries_eq]
  generalize world.historyOf parcel = history at stage
  cases stage with
  | unclaimed unassigned => cases unassigned
  | delivered unserved => rfl

/-! ### When the scenario is done -/

/-- Every order has become a parcel, every parcel has been delivered once, and every vehicle is empty
at the depot. -/
structure Scenario.IsDone (scenario : Scenario) (world : World) : Prop where
  announced : (world.parcels.map Parcel.order).Perm scenario.orders
  delivered : ∀ parcel ∈ world.parcels, parcel.state = .delivered
  once : ∀ parcel known, world.parcel? parcel = some known → world.deliveries parcel = 1
  vehicles : world.vehicles.length = scenario.vehicles.length
  home : ∀ vehicle ∈ world.vehicles,
    vehicle.contents = [] ∧ vehicle.position.samePlace scenario.depot = true

namespace Scenario.IsDone

variable {scenario : Scenario} {world : World} (done : scenario.IsDone world)

include done

theorem parcels : world.parcels.length = scenario.orders.length := by
  rw [← done.announced.length_eq, List.length_map]

theorem deliveredCount : world.deliveredCount = scenario.orders.length := by
  rw [World.deliveredCount, ← done.parcels, List.countP_eq_length]
  exact fun parcel member => decide_eq_true (done.delivered parcel member)

end Scenario.IsDone

namespace StopRule

theorem isComplete_iff {scene : Scene} :
    isComplete scene = true ↔ scene.pending = 0 ∧
      (∀ parcel ∈ scene.world.parcels, parcel.state = .delivered) ∧
        ∀ vehicle ∈ scene.world.vehicles,
          vehicle.contents = [] ∧ vehicle.position.samePlace scene.world.depot = true := by
  simp [isComplete, World.allDelivered, World.allAtDepot, and_assoc]

/-- A run is over when the tick that is about to run starts after the time-out, or when nothing is
left to do. -/
theorem isMet_stopRule {settings : Settings} {scene : Scene} {lapse : TimeLapse} :
    isMet scene lapse (Simulation.stopRule settings) = true ↔
      settings.timeOut < lapse.start ∨ isComplete scene = true := by
  simp [Simulation.stopRule, isMet, isAnyMet]

/-- When nothing is left to do the scenario is done. -/
theorem isDone_of_isComplete {scenario : Scenario} {scene : Scene} {queue : List TransportOrder}
    {couriers : List Courier} (plays : PlaysOut scenario scene queue)
    (orderly : Orderly scene.world couriers) (complete : isComplete scene = true) :
    scenario.IsDone scene.world := by
  obtain ⟨none, delivered, home⟩ := isComplete_iff.1 complete
  refine ⟨plays.all_announced none, delivered, fun parcel known found => ?_, plays.vehicles, ?_⟩
  · exact orderly.delivered_once found (delivered known (List.mem_of_getElem? found))
  · rw [← plays.depot]
    exact home

end StopRule

/-! ### The first call -/

namespace Simulation

open TickLoop TickClock Fleet

variable {Surroundings : Type} {settings : Settings} {scenario : Scenario}
  {startSolver : UInt64 → Except SolverFailure Surroundings} {simulation : Simulation Surroundings}

/-- The ticks that the next call with observers begins: their lapses, and the fleet at the start of
each. -/
def begunObserved (worker : Worker Surroundings) (observers : List (Member Surroundings))
    (simulation : Simulation Surroundings) : List (TimeLapse × Fleet Surroundings) :=
  (simulation.setup worker observers).begun
    (fun fleet lapse => simulation.stop.isMet fleet.scene lapse) 0 simulation.loop
    (turn worker simulation.fleet).2

/-- With observers that only look, a call that ends with a report is the call without them. -/
theorem run_of_onlookers {worker : Worker Surroundings} {observers : List (Member Surroundings)}
    (look : ∀ observer ∈ observers, observer.OnlyLooks) {report : RunReport}
    {final : Simulation Surroundings}
    (ended : runObserved worker observers simulation = (.ok report, final)) :
    run worker simulation = (.ok report, final) := by
  rcases ran : (simulation.setup worker observers).runFrom
      (fun fleet lapse => simulation.stop.isMet fleet.scene lapse) 0 0 simulation.loop
      (turn worker simulation.fleet).2 with ⟨failure | summary, loop, fleet⟩
  · rw [runObserved_of_failed ran] at ended
    cases ended
  · rw [runObserved_of_ok ran] at ended
    refine (runObserved_of_ok (runFrom_of_agrees (fun lapse before reached ticked => ?_) ran)).trans
      ended
    rw [List.append_nil]
    exact runTick_of_onlookers look ticked

/-- The first call of a run in which no tick fails stops with the stop condition, before the first
tick that starts after the time-out, or earlier with nothing left to do. -/
theorem run_stops (built : build settings scenario startSolver = .ok simulation)
    (worker : Worker Surroundings) (observers : List (Member Surroundings))
    (bounded : (settings.timeOut / settings.tickLength + 2) * settings.tickLength < Checked.range)
    (whole : ∀ tick ∈ simulation.begunObserved worker observers,
      (runTick (simulation.setup worker observers).listeners tick.1 tick.2).1 = .ok ()) :
    ∃ count paced, ∃ final : Simulation Surroundings,
      runObserved worker observers simulation =
        (.ok (final.report ⟨count, paced, count * settings.tickLength, .condition⟩), final) ∧
      count ≤ settings.timeOut / settings.tickLength + 1 ∧
      (settings.timeOut < count * settings.tickLength ∨
        StopRule.isComplete final.fleet.scene = true) ∧
      (simulation.begunObserved worker observers).map Prod.fst =
        (List.range count).map (lapseAt settings.tickLength) := by
  obtain ⟨-, surroundings, positive, -, fresh⟩ := build_eq_ok built
  have length : simulation.loop.clock.tickLength = settings.tickLength := by rw [fresh]
  have first : simulation.loop.clock.tick = 0 := by rw [fresh]
  have rule : simulation.stop = stopRule settings := by rw [fresh]
  have unbounded : simulation.loop.maxTicks = none := by rw [fresh]
  have stops : ∀ fleet : Fleet Surroundings, simulation.stop.isMet fleet.scene
      (lapseAt simulation.loop.clock.tickLength (settings.timeOut / settings.tickLength + 1)) =
        true := by
    intro fleet
    rw [rule, length]
    exact StopRule.isMet_stopRule.2 (.inl (Nat.lt_mul_of_div_lt (Nat.lt_succ_self _) positive))
  obtain ⟨count, paced, reached, within, ran, stopped, lapses⟩ :=
    runFrom_stops unbounded (first ▸ Nat.zero_le _) (length ▸ bounded) stops whole
  rw [first, Nat.zero_add] at within ran stopped
  rw [first, length] at lapses
  rw [length] at ran
  rw [length, rule] at stopped
  refine ⟨count, paced, { simulation with loop := simulation.loop.later count, fleet := reached },
    runObserved_of_ok ran, within, StopRule.isMet_stopRule.1 stopped, ?_⟩
  rw [List.range_eq_range']
  exact lapses

/-- A call that ends with a report leaves the parcels in order, and the scenario where it has got
to. -/
theorem run_leaves (built : build settings scenario startSolver = .ok simulation)
    {worker : Worker Surroundings} {report : RunReport} {final : Simulation Surroundings}
    (ended : run worker simulation = (.ok report, final)) :
    final.fleet.IsOrderly ∧ PlaysOut scenario final.fleet.scene final.fleet.announcer.queue := by
  obtain ⟨surroundings, fresh⟩ := build_fleet built
  have orderly : simulation.fleet.IsOrderly := by
    rw [fresh]
    exact .initial scenario settings.initialPace surroundings
  have plays : PlaysOut scenario simulation.fleet.scene simulation.fleet.announcer.queue := by
    rw [fresh]
    exact .initial scenario settings.initialPace surroundings
  have ends : Fleet.Ends worker [] simulation.fleet (run worker simulation).1
      (run worker simulation).2.fleet := ends_run simulation
  have played := upkeep_run (plays_upkeep worker scenario) plays
  rw [ended] at ends played
  exact ⟨ends.trail_of_ok.orderly orderly, played⟩

/-- If no tick fails, the first call of a run ends with the stop condition, after at most one tick
more than fit into the time-out, whoever observes it. If it ends by the time-out and the observers
only look, the scenario is done; if it ends later, it has run all these ticks, and the last one
contains the time-out. -/
theorem runs_end_in_time (built : build settings scenario startSolver = .ok simulation)
    (worker : Worker Surroundings) (observers : List (Member Surroundings))
    (bounded : (settings.timeOut / settings.tickLength + 2) * settings.tickLength < Checked.range)
    (whole : ∀ tick ∈ simulation.begunObserved worker observers,
      (runTick (simulation.setup worker observers).listeners tick.1 tick.2).1 = .ok ()) :
    ∃ report final, runObserved worker observers simulation = (.ok report, final) ∧
      report.summary.reason = .condition ∧
      report.summary.ticks = (simulation.begunObserved worker observers).length ∧
      report.summary.ticks ≤ settings.timeOut / settings.tickLength + 1 ∧
      ((∀ observer ∈ observers, observer.OnlyLooks) →
        report.summary.endTime ≤ settings.timeOut →
          report.parcels = scenario.orders.length ∧ report.delivered = scenario.orders.length ∧
            scenario.IsDone final.fleet.scene.world) ∧
      (settings.timeOut < report.summary.endTime →
        report.summary.ticks = settings.timeOut / settings.tickLength + 1 ∧
          ∃ lapse fleet, (simulation.begunObserved worker observers).getLast? = some (lapse, fleet) ∧
            lapse.contains settings.timeOut = true) := by
  obtain ⟨-, -, positive, -⟩ := build_eq_ok built
  obtain ⟨count, paced, final, ended, within, elapsed, lapses⟩ :=
    run_stops built worker observers bounded whole
  have counted : count = (simulation.begunObserved worker observers).length := by
    have lengths := congrArg List.length lapses
    rw [List.length_map, List.length_map, List.length_range] at lengths
    exact lengths.symm
  refine ⟨_, final, ended, rfl, counted, within, fun look inTime => ?_, fun late => ?_⟩
  · obtain ⟨orderly, plays⟩ := run_leaves built (run_of_onlookers look ended)
    have done : scenario.IsDone final.fleet.scene.world :=
      StopRule.isDone_of_isComplete plays orderly (elapsed.resolve_left (Nat.not_lt.2 inTime))
    exact ⟨done.parcels, done.deliveredCount, done⟩
  · have all : count = settings.timeOut / settings.tickLength + 1 :=
      Nat.le_antisymm within ((Nat.div_lt_iff_lt_mul positive).2 late)
    have last : ((simulation.begunObserved worker observers).map Prod.fst).getLast? =
        some (lapseAt settings.tickLength (settings.timeOut / settings.tickLength)) := by
      rw [lapses, all, List.range_succ, List.map_append, List.map_singleton,
        List.getLast?_concat]
    rw [List.getLast?_map] at last
    obtain ⟨⟨lapse, fleet⟩, found, rfl⟩ := Option.map_eq_some_iff.1 last
    refine ⟨all, _, fleet, found, (TimeLapse.contains_iff _ _).2 ⟨?_, ?_⟩⟩
    · exact Nat.div_mul_le_self _ _
    · exact Nat.lt_mul_of_div_lt (Nat.lt_succ_self _) positive

/-! ### A run that is done before its time-out -/

/-- Ticks of two milliseconds, three of which may run. -/
def threeTicks : Settings := { oneTick with timeOut := 5 }

/-- A run of a parcel that is loaded and unloaded in the first of three ticks. -/
def prompt : Simulation Unit :=
  standing threeTicks (OrderDraft.between .origin .origin).order (by decide)

/-- That run after its call. -/
def prompted : Simulation Unit := { prompt with loop := afterOneTick, fleet := served.fleet }

theorem run_prompt :
    run eager prompt = (.ok (prompted.report ⟨1, 0, 2, .condition⟩), prompted) :=
  runObserved_of_ok
    ((runFrom_of_tick rfl rfl rfl runTick_errand rfl).trans (runFrom_of_stop rfl rfl))

theorem begun_prompt : prompt.begunObserved eager [] = [(onlyLapse, prompt.fleet)] :=
  (begun_of_tick rfl rfl rfl runTick_errand rfl).trans
    (congrArg ((onlyLapse, prompt.fleet) :: ·) (begun_of_stop rfl rfl))

/-- The run ends after one of three ticks, with everything done. -/
theorem runs_end_in_time_prompt :
    build threeTicks ⟨.origin, [.standard], [(OrderDraft.between .origin .origin).order]⟩
        (fun _ => .ok ()) = .ok prompt ∧
      (5 / 2 + 2) * 2 < Checked.range ∧
      (∀ tick ∈ prompt.begunObserved eager [],
        (runTick (prompt.setup eager []).listeners tick.1 tick.2).1 = .ok ()) ∧
      run eager prompt = (.ok (prompted.report ⟨1, 0, 2, .condition⟩), prompted) ∧
      Scenario.IsDone ⟨.origin, [.standard], [(OrderDraft.between .origin .origin).order]⟩
        prompted.fleet.scene.world := by
  have built : build threeTicks _ _ = .ok prompt := build_standing _ (by decide) (by decide)
  have whole : ∀ tick ∈ prompt.begunObserved eager [],
      (runTick (prompt.setup eager []).listeners tick.1 tick.2).1 = .ok () := by
    intro tick member
    rw [begun_prompt, List.mem_singleton] at member
    rw [member]
    exact congrArg Prod.fst runTick_errand
  obtain ⟨report, final, ended, -, -, -, done, -⟩ :=
    runs_end_in_time built eager [] (by decide) whole
  have ran : runObserved eager [] prompt = _ := run_prompt
  rw [ran] at ended
  cases ended
  exact ⟨built, by decide, whole, run_prompt, (done (List.forall_mem_nil _) (by decide)).2.2⟩

end Simulation

end LiveFleet
