/-
This file proves that every parcel keeps its course through a run, whatever the
solver publishes and however late it does so: it is loaded and unloaded once, by one
vehicle, where it is to be loaded and unloaded. Every step of a run keeps the world
orderly. A round that breaks off with an overflow is the last one of its call, and a
run that is called once more after it may start a service for the second time.
-/
import LiveFleet.Proofs.Run.Replay
import LiveFleet.Proofs.Run.Serving

namespace LiveFleet

/-! ### The announcer -/

namespace Orderly

variable {world : World} {couriers : List Courier}

/-- A parcel that becomes known is at the beginning of its course. -/
theorem announced (orderly : Orderly world couriers) (order : TransportOrder) (time : Nat) :
    Orderly (world.announce order time).2 couriers := by
  refine ⟨orderly.named, ?_, ?_⟩
  · intro parcel
    have stage := orderly.staged parcel
    rw [World.historyOf_append rfl]
    unfold World.stateOf at stage ⊢
    by_cases new : parcel = ⟨world.parcels.length⟩
    · subst new
      rw [world.parcel?_next] at stage
      rw [world.parcel?_announce_next, if_pos rfl]
      refine stage.announced ?_
      dsimp only
      split <;> rfl
    · rw [world.parcel?_announce_other order time new, if_neg (Ne.symm new), List.append_nil]
      exact stage
  · intro parcel vehicle kind serves
    refine (orderly.stands parcel vehicle kind serves).of_same ?_ rfl
    obtain ⟨_, _, found, -⟩ := orderly.stands parcel vehicle kind serves
    have old : parcel ≠ ⟨world.parcels.length⟩ := by
      rintro rfl
      rw [world.parcel?_next] at found
      cases found
    rw [world.parcel?_announce_other order time old]

/-- A parcel whose pickup window opens stays where it is on its course. -/
theorem opened (orderly : Orderly world couriers) (time : Nat) :
    Orderly (world.refresh time).2 couriers := by
  have known : ∀ parcel, (world.refresh time).2.parcel? parcel =
      (world.parcel? parcel).map fun parcel =>
        if World.opensBy time parcel then { parcel with state := .available } else parcel :=
    fun parcel => List.getElem?_map
  refine ⟨orderly.named, ?_, ?_⟩
  · intro parcel
    have stage := orderly.staged parcel
    show Stage _ _ (world.historyOf parcel)
    unfold World.stateOf at stage ⊢
    rw [known]
    cases found : world.parcel? parcel with
    | none =>
      rw [found] at stage
      exact stage
    | some waiting =>
      rw [found, Option.map_some] at stage
      rw [Option.map_some, Option.map_some]
      split
      · rename_i opens
        unfold World.opensBy at opens
        rw [Bool.and_eq_true, decide_eq_true_eq] at opens
        rw [opens.1] at stage
        exact stage.opened
      · exact stage
  · intro parcel vehicle kind serves
    refine (orderly.stands parcel vehicle kind serves).of_same ?_ rfl
    rw [known, Option.map_map]
    congr 1
    funext parcel
    rw [Function.comp_apply]
    split <;> rfl

/-! ### A fresh run -/

theorem initial {Surroundings : Type} (scenario : Scenario) (pace : Pace)
    (surroundings : Surroundings) :
    Orderly (Simulation.initialFleet scenario pace surroundings).scene.world
      (Simulation.initialFleet scenario pace surroundings).couriers := by
  have idle : ∀ parcel vehicle kind,
      ¬ Serves (Simulation.initialFleet scenario pace surroundings).couriers parcel vehicle
        kind := by
    rintro parcel vehicle kind ⟨courier, service, found, serving, -⟩
    rw [Simulation.initialFleet_courier found] at serving
    cases serving
  refine ⟨fun index courier found => by rw [Simulation.initialFleet_courier found]; rfl, ?_,
    fun parcel vehicle kind serves => absurd serves (idle parcel vehicle kind)⟩
  intro parcel
  show Stage _ ((Simulation.initialWorld scenario).stateOf parcel)
    ((Simulation.initialWorld scenario).historyOf parcel)
  rw [Simulation.initialWorld_eq]
  exact .unknown (idle parcel)

/-- A driver that looks at the board keeps the order. -/
theorem adopted {Board : Type} {cab : Cab Board} {index : Nat}
    (orderly : Orderly cab.world couriers) (found : couriers[index]? = some cab.courier)
    (read : ReadBoard Board) :
    cab.world.Notes (Cab.adopt read cab).2.world ∧
      Orderly (Cab.adopt read cab).2.world (couriers.set index (Cab.adopt read cab).2.courier) := by
  obtain ⟨account, rest⟩ := Prod.mk.inj (Cab.adopt_status read cab)
  obtain ⟨vehicle, service⟩ := Prod.mk.inj rest
  exact ⟨.inl (Prod.mk.inj account).1,
    orderly.drove found vehicle service (World.accountBut_of_account account _) fun _ => account⟩

end Orderly

/-! ### Steps and trails -/

namespace Fleet

variable {Surroundings : Type} {worker : Worker Surroundings} {before after : Fleet Surroundings}

/-- The world and the drivers of the fleet are in order. -/
def IsOrderly (fleet : Fleet Surroundings) : Prop := Orderly fleet.scene.world fleet.couriers

theorem round_effect_of_orderly (orderly : before.IsOrderly) {index : Nat} {courier : Courier}
    (found : before.couriers[index]? = some courier) (lapse : TimeLapse) (mayReturn : Bool)
    (time : Nat) :
    (before.cab courier).RoundEffect
      (Cab.round (readBoard worker) lapse mayReturn time (before.cab courier)).1
      (Cab.round (readBoard worker) lapse mayReturn time (before.cab courier)).2 := by
  apply Cab.round_effect
  intro busy
  obtain ⟨service, underWay⟩ := Option.ne_none_iff_exists'.1 busy
  obtain ⟨_, place, -, stands, -⟩ := orderly.stands _ _ _ (orderly.serves found underWay)
  show (before.scene.world.place? courier.vehicle).isSome = true
  rw [stands]
  rfl

/-- Every step of a run without observers keeps the order, and writes at most one event. -/
theorem Stride.orderly (stride : Stride worker [] before after) (orderly : before.IsOrderly) :
    before.scene.world.Notes after.scene.world ∧ after.IsOrderly := by
  cases stride with
  | aside world couriers desk =>
    unfold IsOrderly
    rw [world, couriers]
    exact ⟨.inl rfl, orderly⟩
  | announced _ order =>
    refine ⟨.inr ⟨_, rfl, ?_⟩, orderly.announced order order.announceTime⟩
    intro kind stop
    cases stop
  | opened _ time => exact ⟨.inl rfl, orderly.opened time⟩
  | @adopted _ index courier found =>
    have seen : Orderly (before.cab courier).world before.couriers := orderly
    exact seen.adopted found (readBoard worker)
  | @drove _ index courier found lapse mayReturn time whole =>
    have seen : Orderly (before.cab courier).world before.couriers := orderly
    obtain ⟨notes, kept | ⟨crash, lost, -⟩⟩ :=
      seen.round found (round_effect_of_orderly orderly found lapse mayReturn time)
    · exact ⟨notes, kept⟩
    · exact absurd lost (whole crash)
  | observed member lapse => cases member
  | observedEnd member lapse => cases member

theorem Trail.orderly (trail : Trail worker [] before after) (orderly : before.IsOrderly) :
    after.IsOrderly := by
  induction trail with
  | refl => exact orderly
  | tail _ stride inductionHypothesis => exact (stride.orderly inductionHypothesis).2

/-- A round that breaks off writes at most one event, and its world is still in order. -/
theorem Stumble.orderly (stumble : Stumble worker before after) (orderly : before.IsOrderly) :
    before.scene.world.Notes after.scene.world ∧
      ∃ drivers, Orderly after.scene.world drivers := by
  cases stumble with
  | @drove index courier found lapse mayReturn time crash lost =>
    have seen : Orderly (before.cab courier).world before.couriers := orderly
    obtain ⟨notes, kept | ⟨-, -, drivers, kept⟩⟩ :=
      seen.round found (round_effect_of_orderly orderly found lapse mayReturn time)
    · exact ⟨notes, _, kept⟩
    · exact ⟨notes, drivers, kept⟩

/-- Every operation ends with a world in order, whether or not it breaks off. -/
theorem Ends.orderly {Reason Value : Type} {result : Except (Failure Reason) Value}
    (ends : Ends worker [] before result after) (orderly : before.IsOrderly) :
    ∃ drivers, Orderly after.scene.world drivers := by
  cases ends with
  | whole trail => exact ⟨_, trail.orderly orderly⟩
  | stumbled trail stumble => exact (stumble.orderly (trail.orderly orderly)).2

end Fleet

/-! ### Runs -/

namespace Simulation

open TickLoop Fleet

variable {Surroundings : Type} {settings : Settings} {scenario : Scenario}
  {startSolver : UInt64 → Except SolverFailure Surroundings} {simulation : Simulation Surroundings}

/-- Every call of a run is a sequence of steps from the fresh fleet on, as long as no earlier call
has crashed with an overflow and lost a service. Wherever such a sequence stands, every parcel has
kept its course, and the next step, whether it breaks off or not, writes at most one event, with the
vehicle at the place of the stop, and leaves every parcel on its course. -/
theorem parcels_keep_course (built : build settings scenario startSolver = .ok simulation)
    (worker : Worker Surroundings) (calls : Nat)
    (whole : ∀ earlier < calls,
      (run worker (simulation.after worker [] earlier)).1 = .error (.crashed .addOverflow) →
        ¬ (simulation.after worker [] (earlier + 1)).fleet.HasLostService) :
    Fleet.Ends worker [] simulation.fleet (run worker (simulation.after worker [] calls)).1
        (simulation.after worker [] (calls + 1)).fleet ∧
      (∀ parcel,
        (simulation.after worker [] (calls + 1)).fleet.scene.world.KeepsCourse parcel) ∧
      ∀ before after, Fleet.Trail worker [] simulation.fleet before →
        (Fleet.Stride worker [] before after ∨ Fleet.Stumble worker before after) →
          before.scene.world.Notes after.scene.world ∧
            ∀ parcel, before.scene.world.KeepsCourse parcel ∧
              after.scene.world.KeepsCourse parcel := by
  obtain ⟨surroundings, fresh⟩ := build_fleet built
  have orderly : simulation.fleet.IsOrderly := by
    rw [fresh]
    exact .initial scenario settings.initialPace surroundings
  have ends : Fleet.Ends worker [] simulation.fleet _ _ :=
    .later (after_trail simulation calls whole) (ends_run (simulation.after worker [] calls))
  refine ⟨ends, ?_, ?_⟩
  · intro parcel
    obtain ⟨drivers, kept⟩ := ends.orderly orderly
    exact kept.keepsCourse parcel
  · intro before after trail next
    have kept := trail.orderly orderly
    rcases next with stride | stumble
    · obtain ⟨notes, keptAfter⟩ := stride.orderly kept
      exact ⟨notes, fun parcel => ⟨kept.keepsCourse parcel, keptAfter.keepsCourse parcel⟩⟩
    · obtain ⟨notes, drivers, keptAfter⟩ := stumble.orderly kept
      exact ⟨notes, fun parcel => ⟨kept.keepsCourse parcel, keptAfter.keepsCourse parcel⟩⟩

/-! ### One vehicle, one parcel, one place -/

/-- One tick of two milliseconds. -/
def oneTick : Settings := { tickLength := 2, initialPace := .simulated, seed := 0, timeOut := 1 }

theorem oneTick_positive : 0 < oneTick.tickLength := by decide

/-- The loop after that tick. -/
def afterOneTick : TickLoop := ⟨⟨2, 1, by decide⟩, none⟩

/-- The lapse of that tick. -/
def onlyLapse : TimeLapse := ⟨0, 0, 2⟩

/-- A solver that sends the first vehicle to the first parcel, at once. -/
def eager : Worker Unit where
  turn := fun _ desk => ((), if desk.queue.isEmpty then [] else
    [.take, .keep, .claim, .publish ⟨[[⟨0⟩, ⟨0⟩]]⟩, .signalDone, .finish (.ok ())])

/-- The fleet in the middle of the tick: the parcel is known, and its schedule is published. -/
def informed (simulation : Simulation Unit) : Fleet Unit :=
  (reportNews eager onlyLapse (announcing.before onlyLapse simulation.fleet).2).2

/-- The driver of a fleet after rounds at the given times. -/
def driven (fleet : Fleet Unit) (times : List Nat) : Cab (Desk × Unit) :=
  times.foldl (fun cab time => (Cab.round (readBoard eager) onlyLapse true time cab).2)
    (Cab.adopt (readBoard eager) (fleet.cab (fleet.couriers.getD 0 (.start ⟨0⟩)))).2

/-- A run of a parcel that is loaded and unloaded in no time. -/
def errand : Simulation Unit :=
  standing oneTick (OrderDraft.between .origin .origin).order (by decide)

/-- That run after its call. -/
def served : Simulation Unit :=
  { errand with
    loop := ⟨⟨2, 1, by decide⟩, none⟩
    fleet := putBack 0 (driven (informed errand) [0, 0, 0, 0, 0]) (informed errand) }

theorem runTick_errand :
    runTick (members eager 1 ++ []) onlyLapse errand.fleet = (.ok (), served.fleet) := by
  have rounds : Cab.drive (readBoard eager) onlyLapse true 0 (driven (informed errand) []) =
      (.ok (), driven (informed errand) [0, 0, 0, 0, 0]) :=
    (Cab.drive_of_next rfl).trans ((Cab.drive_of_next rfl).trans ((Cab.drive_of_next rfl).trans
      ((Cab.drive_of_next rfl).trans (Cab.drive_of_over rfl))))
  have drove : driveOne eager 0 onlyLapse (informed errand) = (.ok (), served.fleet) :=
    (driveOne_of_drive rfl rfl rounds).trans rfl
  exact runTick_alone rfl rfl drove rfl

theorem run_errand :
    run eager errand = (.ok (served.report ⟨1, 0, 2, .condition⟩), served) :=
  runObserved_of_ok
    ((runFrom_of_tick rfl rfl rfl runTick_errand rfl).trans (runFrom_of_stop rfl rfl))

/-- The parcel runs through its whole course in the first call, and the second one leaves it
there. -/
theorem parcels_keep_course_errand :
    build oneTick ⟨.origin, [.standard], [(OrderDraft.between .origin .origin).order]⟩
        (fun _ => .ok ()) = .ok errand ∧
      (errand.after eager [] 1).fleet.scene.world.historyOf ⟨0⟩ = course ⟨0⟩ ∧
      (errand.after eager [] 2).fleet.scene.world.KeepsCourse ⟨0⟩ := by
  have built : build oneTick _ _ = .ok errand := build_standing _ (by decide) (by decide)
  have called : errand.after eager [] 1 = (run eager errand).2 := rfl
  refine ⟨built, ?_, (parcels_keep_course built eager 1 fun earlier first crash => ?_).2.1 ⟨0⟩⟩
  · rw [called, run_errand]
    rfl
  · obtain rfl := Nat.lt_one_iff.1 first
    have went : run eager (errand.after eager [] 0) = _ := run_errand
    rw [went] at crash
    cases crash

/-- A run of a parcel whose unloading takes as long as a time can be. -/
def overlong : Simulation Unit :=
  standing oneTick
    { (OrderDraft.between .origin .origin).order with
      pickupDuration := 1
      deliveryDuration := Checked.largest } (by decide)

/-- That run after its first call: the driver has lost the unloading. -/
def broken : Simulation Unit :=
  { overlong with fleet := putBack 0 (driven (informed overlong) [0, 0, 1]) (informed overlong) }

/-- That run after its second call: the driver has begun to unload for the second time. -/
def repeated : Simulation Unit :=
  { broken with
    loop := ⟨⟨2, 1, by decide⟩, none⟩
    fleet := putBack 0 (driven (informed broken) [0, 0]) (informed broken) }

theorem run_overlong : run eager overlong = (.error (.crashed .addOverflow), broken) := by
  have rounds : Cab.drive (readBoard eager) onlyLapse true 0 (driven (informed overlong) []) =
      (.error (.crashed .addOverflow), driven (informed overlong) [0, 0, 1]) :=
    (Cab.drive_of_next rfl).trans ((Cab.drive_of_next rfl).trans (Cab.drive_of_failed rfl))
  have drove : driveOne eager 0 onlyLapse (informed overlong) =
      (.error (.crashed .addOverflow), broken.fleet) :=
    (driveOne_of_drive rfl rfl rounds).trans rfl
  have ticked : runTick (members eager 1 ++ []) onlyLapse overlong.fleet =
      (.error (.crashed .addOverflow), broken.fleet) := runTick_alone_of_failed rfl rfl drove
  have ran : (overlong.setup eager []).runFrom
      (fun fleet lapse => overlong.stop.isMet fleet.scene lapse) 0 0 overlong.loop overlong.fleet =
        (.error (.crashed .addOverflow), overlong.loop, broken.fleet) :=
    runFrom_of_failed rfl rfl rfl ticked
  exact (runObserved_of_failed ran).trans rfl

theorem run_broken :
    run eager broken = (.ok (repeated.report ⟨1, 0, 2, .condition⟩), repeated) := by
  have rounds : Cab.drive (readBoard eager) onlyLapse true 0 (driven (informed broken) []) =
      (.ok (), driven (informed broken) [0, 0]) :=
    (Cab.drive_of_next rfl).trans (Cab.drive_of_over rfl)
  have drove : driveOne eager 0 onlyLapse (informed broken) = (.ok (), repeated.fleet) :=
    (driveOne_of_drive rfl rfl rounds).trans rfl
  have ticked : runTick (members eager 1 ++ []) onlyLapse broken.fleet = (.ok (), repeated.fleet) :=
    runTick_alone rfl rfl drove rfl
  exact runObserved_of_ok ((runFrom_of_tick rfl rfl rfl ticked rfl).trans (runFrom_of_stop rfl rfl))

/-- After a crash that has lost an unloading, the next call starts it once more. -/
theorem parcel_leaves_course_after_crash :
    build oneTick
        ⟨.origin, [.standard], [{ (OrderDraft.between .origin .origin).order with
          pickupDuration := 1
          deliveryDuration := Checked.largest }]⟩ (fun _ => .ok ()) = .ok overlong ∧
      ¬ (overlong.after eager [] 2).fleet.scene.world.KeepsCourse ⟨0⟩ := by
  refine ⟨build_standing _ (by decide) (by decide), ?_⟩
  have called : overlong.after eager [] 2 = (run eager (run eager overlong).2).2 := rfl
  rw [called, run_overlong, run_broken]
  rintro ⟨vehicle, ⟨rest, whole⟩, -⟩
  -- The fifth event is a second start of the delivery, and no end of it.
  have fifth := congrArg (fun history => history[4]?) whole
  cases fifth

end Simulation

end LiveFleet
