/-
This file says how something is shown to hold at every moment of a run: whoever
takes part in a tick keeps it, and it outlasts the passing of a tick. Then every
call of the run keeps it, also a call that fails half-way through a tick, and so
does every tick of the next call. What is kept may depend on the clock. The file
also says who is to blame when a call fails, and what has been done in a tick that
ends well.
-/
import LiveFleet.Proofs.Run.Calls

namespace LiveFleet

open Attempt

/-! ### Lists of members -/

namespace Attempt

variable {State Error Member : Type} {Holds : State → Prop}
  {told : Member → Attempt State Error Unit}

theorem maintains_forM {members : List Member}
    (each : ∀ member ∈ members, Maintains Holds (told member)) :
    Maintains Holds (members.forM told) := by
  induction members with
  | nil => exact maintains_pure _
  | cons member rest inductionHypothesis =>
    refine maintains_bind (each member List.mem_cons_self) fun _ => inductionHypothesis ?_
    exact fun other inRest => each other (List.mem_cons_of_mem _ inRest)

theorem keeps_forM {View : Type} {view : State → View} {members : List Member}
    (each : ∀ member ∈ members, Keeps view (told member)) : Keeps view (members.forM told) := by
  intro state
  have same : Maintains (fun reached => view reached = view state) (members.forM told) :=
    maintains_forM fun member isMember reached same => (each member isMember reached).trans same
  exact same state rfl

/-- When a list of members fails, one of them has failed, and what all of them keep held until
then. -/
theorem forM_failed {members : List Member} {state reached : State} {error : Error}
    (each : ∀ member ∈ members, Maintains Holds (told member)) (holds : Holds state)
    (failed : members.forM told state = (.error error, reached)) :
    ∃ member ∈ members, ∃ before, Holds before ∧ told member before = (.error error, reached) := by
  induction members generalizing state with
  | nil => cases failed
  | cons member rest inductionHypothesis =>
    rcases bind_eq_error_iff.1 failed with failed | ⟨_, middle, answered, failed⟩
    · exact ⟨member, List.mem_cons_self, state, holds, failed⟩
    · have keeps := each member List.mem_cons_self state holds
      rw [answered] at keeps
      obtain ⟨other, inRest, blamed⟩ := inductionHypothesis
        (fun other inRest => each other (List.mem_cons_of_mem _ inRest)) keeps failed
      exact ⟨other, List.mem_cons_of_mem _ inRest, blamed⟩

end Attempt

/-! ### The tick loop -/

namespace TickLoop

variable {Context Refusal : Type} {setup : Setup Context Refusal}
  {Holds : TickClock → Context → Prop} {stop : Context → TimeLapse → Bool}

/-- A tick keeps what holds, and so does its passing. -/
structure Setup.Upholds (setup : Setup Context Refusal) (Holds : TickClock → Context → Prop) :
    Prop where
  tick : ∀ clock lapse, clock.lapse = .ok lapse →
    Maintains (Holds clock) (runTick setup.listeners lapse)
  onward : ∀ clock next context, clock.advance = .ok next → Holds clock context →
    Holds next context

theorem maintains_runTick {Known : Context → Prop} {listeners : List (Listener Context Refusal)}
    {lapse : TimeLapse}
    (before : ∀ listener ∈ listeners, Maintains Known (listener.before lapse))
    (after : ∀ listener ∈ listeners, Maintains Known (listener.after lapse)) :
    Maintains Known (runTick listeners lapse) := by
  intro context holds
  have kept : Known (Listener.notify listeners lapse context).2 :=
    maintains_bind (maintains_forM before) (fun _ => maintains_forM after) context holds
  dsimp only [runTick, within, id]
  generalize Listener.notify listeners lapse context = outcome at kept
  rcases outcome with ⟨_ | _, reached⟩ <;> exact kept

/-- When a tick fails, one of its listeners has failed. -/
theorem runTick_failed {Known : Context → Prop} {listeners : List (Listener Context Refusal)}
    {lapse : TimeLapse} {context reached : Context} {failure : Failure (TickError Refusal)}
    (before : ∀ listener ∈ listeners, Maintains Known (listener.before lapse))
    (after : ∀ listener ∈ listeners, Maintains Known (listener.after lapse))
    (holds : Known context) (failed : runTick listeners lapse context = (.error failure, reached)) :
    ∃ listener ∈ listeners, ∃ reason last, failure = reason.map (.listener lapse.tick) ∧
      Known last ∧ (listener.before lapse last = (.error reason, reached) ∨
        listener.after lapse last = (.error reason, reached)) := by
  have beforeAll := maintains_forM before context holds
  dsimp only [runTick, within, id, Listener.notify] at failed
  split at failed
  · cases failed
  · rename_i reason final notified
    cases failed
    rcases bind_eq_error_iff.1 notified with failed | ⟨_, middle, begun, failed⟩
    · obtain ⟨listener, member, last, lastHolds, blamed⟩ := forM_failed before holds failed
      exact ⟨listener, member, reason, last, rfl, lastHolds, .inl blamed⟩
    · rw [begun] at beforeAll
      obtain ⟨listener, member, last, lastHolds, blamed⟩ := forM_failed after beforeAll failed
      exact ⟨listener, member, reason, last, rfl, lastHolds, .inr blamed⟩

namespace Setup.Upholds

variable (upholds : setup.Upholds Holds)

include upholds

theorem runFrom (ticks realTimeTicks : Nat) (loop : TickLoop) (context : Context)
    (holds : Holds loop.clock context) :
    Holds (setup.runFrom stop ticks realTimeTicks loop context).2.1.clock
      (setup.runFrom stop ticks realTimeTicks loop context).2.2 := by
  fun_induction setup.runFrom stop ticks realTimeTicks loop context with
  | case1 | case2 | case3 => exact holds
  | case4 ticks realTimeTicks loop context lapse covered _ _ failure reached ran
  | case5 ticks realTimeTicks loop context lapse covered _ _ reached ran =>
    have kept := upholds.tick _ _ covered context holds
    rw [ran] at kept
    exact kept
  | case6 ticks realTimeTicks loop context lapse covered _ _ reached ran clock advanced paced
      inductionHypothesis =>
    have kept := upholds.tick _ _ covered context holds
    rw [ran] at kept
    exact inductionHypothesis (upholds.onward _ _ _ advanced kept)

theorem runTicks (count : Nat) (loop : TickLoop) (context : Context)
    (holds : Holds loop.clock context) :
    Holds (setup.runTicks count loop context).2.1.clock
      (setup.runTicks count loop context).2.2 := by
  fun_induction setup.runTicks count loop context with
  | case1 | case2 => exact holds
  | case3 count loop context lapse covered failure reached ran
  | case4 count loop context lapse covered reached ran =>
    have kept := upholds.tick _ _ covered context holds
    rw [ran] at kept
    exact kept
  | case5 count loop context lapse covered reached ran clock advanced inductionHypothesis =>
    have kept := upholds.tick _ _ covered context holds
    rw [ran] at kept
    exact inductionHypothesis (upholds.onward _ _ _ advanced kept)

/-- When the ticks of a call fail with a reason, it is the reason of a listener in a tick that began
with what is kept. -/
theorem runFrom_failed {ticks realTimeTicks : Nat} {loop final : TickLoop}
    {context reached : Context} {error : TickError Refusal} (holds : Holds loop.clock context)
    (failed : setup.runFrom stop ticks realTimeTicks loop context =
      (.error (.refused error), final, reached)) :
    ∃ lapse before, final.clock.lapse = .ok lapse ∧ Holds final.clock before ∧
      runTick setup.listeners lapse before = (.error (.refused error), reached) := by
  fun_induction setup.runFrom stop ticks realTimeTicks loop context with
  | case1 | case2 | case3 | case5 => cases failed
  | case4 ticks realTimeTicks loop context lapse covered _ _ failure middle ran =>
    cases failed
    exact ⟨lapse, context, covered, holds, ran⟩
  | case6 ticks realTimeTicks loop context lapse covered _ _ middle ran clock advanced paced
      inductionHypothesis =>
    have kept := upholds.tick _ _ covered context holds
    rw [ran] at kept
    exact inductionHypothesis (upholds.onward _ _ _ advanced kept) failed

end Setup.Upholds

/-- A call whose ticks up to one end well, and fail with that one, fails so, or has stopped
before. -/
theorem Setup.runFrom_of_fails {count ticks realTimeTicks : Nat} {loop failing : TickLoop}
    {context before reached : Context} {lapse : TimeLapse} {failure : Failure (TickError Refusal)}
    (begun : setup.runTicks count loop context = (.ok (), failing, before))
    (covered : failing.clock.lapse = .ok lapse)
    (fails : runTick setup.listeners lapse before = (.error failure, reached)) :
    (∃ summary final, setup.runFrom stop ticks realTimeTicks loop context = (.ok summary, final) ∧
        summary.ticks ≤ ticks + count) ∨
      setup.runFrom stop ticks realTimeTicks loop context = (.error failure, failing, reached) := by
  induction count generalizing ticks realTimeTicks loop context with
  | zero =>
    cases begun
    rw [Setup.runFrom, covered]
    dsimp only
    split
    · exact .inl ⟨_, _, rfl, Nat.le_refl _⟩
    · split
      · exact .inl ⟨_, _, rfl, Nat.le_refl _⟩
      · rw [fails]
        exact .inr rfl
  | succ count inductionHypothesis =>
    rw [Setup.runTicks] at begun
    split at begun
    · cases begun
    · rename_i first coveredFirst
      split at begun
      · cases begun
      · rename_i middle ran
        split at begun
        · cases begun
        · rename_i clock advanced
          rw [Setup.runFrom, coveredFirst]
          dsimp only
          split
          · exact .inl ⟨_, _, rfl, Nat.le_add_right _ _⟩
          · split
            · exact .inl ⟨_, _, rfl, Nat.le_add_right _ _⟩
            · rw [ran]
              dsimp only
              split
              · rename_i crash crashed
                rw [advanced] at crashed
                cases crashed
              · rename_i next advancedSame
                rw [advanced] at advancedSame
                cases advancedSame
                rw [← Nat.succ_add_eq_add_succ ticks count]
                exact inductionHypothesis begun

end TickLoop

/-! ### The time within a tick -/

namespace Cab

variable {Board : Type} {cab final : Cab Board} {time next : Nat}

/-- Driving takes no negative time. -/
theorem travel_onward {target : Point} {finish : Nat} {arrived : Bool}
    (travelled : travel target time finish cab = (.ok (arrived, next), final)) : time ≤ next := by
  rw [travel, get_bind_apply] at travelled
  obtain ⟨vehicle, _, -, travelled⟩ := bind_eq_ok_iff.1 travelled
  split at travelled
  · cases travelled
    exact Nat.le_refl _
  · split at travelled
    · cases travelled
      exact Nat.le_refl _
    · rename_i moving
      rw [Bool.or_eq_true, not_or, decide_eq_true_eq, Nat.not_le] at moving
      obtain ⟨_, _, -, travelled⟩ := bind_eq_ok_iff.1 travelled
      obtain ⟨arrival, _, timed, travelled⟩ := bind_eq_ok_iff.1 travelled
      obtain ⟨added, rfl⟩ := ofExcept_eq_ok_iff.1 timed
      cases travelled
      exact Nat.le_min.2 ⟨(Checked.add_eq_ok_iff.1 added).1 ▸ Nat.le_add_right _ _,
        Nat.le_of_lt moving.1⟩

/-- A round that is followed by another one ends no earlier than it began. -/
theorem round_onward {read : ReadBoard Board} {lapse : TimeLapse} {mayReturn : Bool}
    (gone : round read lapse mayReturn time cab = (.ok (some next), final)) : time ≤ next := by
  rw [round, get_bind_apply] at gone
  cases underWay : cab.courier.service with
  | some service =>
    simp only [underWay] at gone
    split at gone
    · cases gone
    · obtain ⟨_, _, -, gone⟩ := bind_eq_ok_iff.1 gone
      cases gone
      exact Nat.le_max_left _ _
  | none =>
    simp only [underWay] at gone
    split at gone
    · cases gone
    · obtain ⟨vehicle, _, -, gone⟩ := bind_eq_ok_iff.1 gone
      cases route : vehicle.route with
      | nil =>
        simp only [route] at gone
        obtain ⟨_, _, -, gone⟩ := bind_eq_ok_iff.1 gone
        cases gone
      | cons stop rest =>
        simp only [route] at gone
        obtain ⟨parcel, _, -, gone⟩ := bind_eq_ok_iff.1 gone
        cases kind : stopKind? vehicle parcel stop with
        | none =>
          simp only [kind] at gone
          obtain ⟨_, _, -, gone⟩ := bind_eq_ok_iff.1 gone
          cases gone
          exact Nat.le_refl _
        | some kind =>
          simp only [kind, approach, get_bind_apply] at gone
          obtain ⟨_, _, -, gone⟩ := bind_eq_ok_iff.1 gone
          obtain ⟨⟨arrived, there⟩, _, travelled, gone⟩ := bind_eq_ok_iff.1 gone
          dsimp only at gone
          split at gone
          · cases gone
          · split at gone
            · cases gone
            · obtain ⟨_, _, -, gone⟩ := bind_eq_ok_iff.1 gone
              cases gone
              exact travel_onward travelled

end Cab

/-! ### The liaison -/

namespace Fleet

variable {Surroundings : Type} {worker : Worker Surroundings}

section Liaison

variable {fleet : Fleet Surroundings} {lapse : TimeLapse} {error : SolverError}

/-- The fleet after a snapshot of its world was offered to the solver. A request for one is settled
by it. -/
def handedOver (fleet : Fleet Surroundings) (time : Nat) : Fleet Surroundings :=
  { fleet with
    reported := fleet.scene.world.parcels.length
    repairs := fleet.repairs.takeRequest.2
    desk := (Desk.dispatch (Snapshot.capture fleet.scene.world time) fleet.desk).2 }

/-- A report is refused by the solver, or is followed by a turn of the worker. -/
theorem report_cases (worker : Worker Surroundings) (fleet : Fleet Surroundings) (time : Nat) :
    (∃ error,
      (Desk.dispatch (Snapshot.capture fleet.scene.world time) fleet.desk).1 = .error error ∧
        report worker time { fleet with repairs := fleet.repairs.takeRequest.2 } =
          (.error (.refused (.solver error)), fleet.handedOver time)) ∨
      report worker time { fleet with repairs := fleet.repairs.takeRequest.2 } =
        turn worker (fleet.handedOver time) := by
  rw [report, bind_of_ok (modify_apply _ _), get_bind_apply, bind_apply]
  unfold within handedOver
  dsimp only
  generalize Desk.dispatch (Snapshot.capture fleet.scene.world time) fleet.desk = outcome
  rcases outcome with ⟨error | generation, desk⟩
  · exact .inl ⟨error, rfl, rfl⟩
  · exact .inr rfl

/-- The liaison stops the run at a fault. -/
theorem reportNews_of_fault (faulty : (turn worker fleet).2.desk.fault = some error) :
    reportNews worker lapse fleet =
      (.error (.refused (.solver error)), (turn worker fleet).2) := by
  have turned : turn worker fleet = (.ok (), (turn worker fleet).2) := rfl
  refine (bind_of_ok turned).trans (bind_of_failed (Prod.ext ?_ rfl))
  dsimp only [inspect]
  rw [Desk.checkHealth, faulty]
  rfl

/-- Without a fault the liaison hands over a snapshot if there is news. -/
theorem reportNews_of_healthy (healthy : (turn worker fleet).2.desk.fault = none) :
    reportNews worker lapse fleet =
      (if fleet.reported < fleet.scene.world.parcels.length || fleet.repairs.requested then
          report worker lapse.start
        else pure ())
        { (turn worker fleet).2 with repairs := fleet.repairs.takeRequest.2 } := by
  have turned : turn worker fleet = (.ok (), (turn worker fleet).2) := rfl
  have looked : inspect (fun fleet : Fleet Surroundings =>
      fleet.desk.checkHealth.mapError fun error => Failure.refused (Refusal.solver error))
        (turn worker fleet).2 = (.ok (), (turn worker fleet).2) := by
    refine Prod.ext ?_ rfl
    dsimp only [inspect]
    rw [Desk.checkHealth, healthy]
    rfl
  exact (bind_of_ok turned).trans (bind_of_ok looked)

theorem reportRepairs_apply (worker : Worker Surroundings) (lapse : TimeLapse)
    (fleet : Fleet Surroundings) :
    reportRepairs worker lapse fleet =
      (if fleet.repairs.requested then report worker lapse.finish >>= fun _ => turn worker
        else turn worker)
        { (turn worker fleet).2 with repairs := fleet.repairs.takeRequest.2 } := rfl

/-- Without a request there is nothing to settle. -/
theorem takeRequest_of_none (none : ¬ fleet.repairs.requested = true) :
    fleet.repairs.takeRequest.2 = fleet.repairs := by
  obtain ⟨scene, announcer, reported, couriers, ⟨requested, lastFlagged, repairs⟩, desk, _⟩ := fleet
  cases requested with
  | true => exact absurd rfl none
  | false => rfl

end Liaison

/-! ### The members of a run -/

section Members

variable {Holds : Fleet Surroundings → Prop}

theorem maintains_reportNews (turning : Maintains Holds (turn worker))
    (handing : ∀ fleet time, Holds fleet → Holds (fleet.handedOver time)) (lapse : TimeLapse) :
    Maintains Holds (reportNews worker lapse) := by
  intro fleet holds
  have turned := turning fleet holds
  cases faulty : (turn worker fleet).2.desk.fault with
  | some error =>
    rw [reportNews_of_fault faulty]
    exact turned
  | none =>
    rw [reportNews_of_healthy faulty]
    split
    · have handed := handing _ lapse.start turned
      rcases report_cases worker (turn worker fleet).2 lapse.start with ⟨_, -, refused⟩ | taken
      · exact (congrArg (fun outcome => Holds outcome.2) refused).mpr handed
      · exact (congrArg (fun outcome => Holds outcome.2) taken).mpr (turning _ handed)
    · rename_i nothing
      rw [Bool.or_eq_true, not_or] at nothing
      rw [takeRequest_of_none nothing.2]
      exact turned

theorem maintains_reportRepairs (turning : Maintains Holds (turn worker))
    (handing : ∀ fleet time, Holds fleet → Holds (fleet.handedOver time)) (lapse : TimeLapse) :
    Maintains Holds (reportRepairs worker lapse) := by
  intro fleet holds
  have turned := turning fleet holds
  rw [reportRepairs_apply]
  split
  · have handed := handing _ lapse.finish turned
    rw [bind_apply]
    rcases report_cases worker (turn worker fleet).2 lapse.finish with ⟨_, -, refused⟩ | taken
    · have refused : report worker lapse.finish { (turn worker fleet).2 with
          repairs := fleet.repairs.takeRequest.2 } = _ := refused
      rw [refused]
      exact handed
    · have taken : report worker lapse.finish { (turn worker fleet).2 with
          repairs := fleet.repairs.takeRequest.2 } = _ := taken
      rw [taken]
      exact turning _ (turning _ handed)
  · rename_i nothing
    rw [takeRequest_of_none nothing]
    exact turning _ turned

/-- The announcer keeps what every new parcel and the opening of windows keep. -/
theorem maintains_announcing {lapse : TimeLapse}
    (aside : ∀ (fleet : Fleet Surroundings) announcer pending, Holds fleet →
      Holds { fleet with announcer, scene := { fleet.scene with pending } })
    (announces : ∀ (fleet : Fleet Surroundings) order, order.announceTime < lapse.finish →
      Holds fleet → Holds { fleet with
        scene := { fleet.scene with
          world := (fleet.scene.world.announce order order.announceTime).2 } })
    (opens : ∀ fleet : Fleet Surroundings, Holds fleet → Holds { fleet with
      scene := { fleet.scene with world := (fleet.scene.world.refresh lapse.start).2 } }) :
    Maintains Holds (announcing.before lapse) := by
  have announced : ∀ (orders : List TransportOrder) (fleet : Fleet Surroundings),
      (∀ order ∈ orders, order.announceTime < lapse.finish) → Holds fleet →
        Holds { fleet with
          scene := { fleet.scene with
            world := Announcer.announceAll fleet.scene.world orders } } := by
    intro orders
    induction orders with
    | nil => exact fun _ _ holds => holds
    | cons order rest inductionHypothesis =>
      intro fleet due holds
      exact inductionHypothesis _ (fun other later => due other (List.mem_cons_of_mem _ later))
        (announces fleet order (due order List.mem_cons_self) holds)
  intro fleet holds
  have due : ∀ order ∈ fleet.announcer.due lapse.finish, order.announceTime < lapse.finish := by
    intro order member
    exact of_decide_eq_true (List.mem_filter.1 member).2
  exact aside _ _ _ (opens _ (announced _ fleet due holds))

section Driver

variable {index : Nat} {lapse : TimeLapse}
  (drives : ∀ (fleet : Fleet Surroundings) courier mayReturn time,
    fleet.couriers[index]? = some courier → lapse.start ≤ time → Holds fleet →
      Holds (fleet.round worker index courier lapse mayReturn time).2)

include drives

/-- What the rounds of a driver keep holds after all of them. -/
theorem holds_drive (mayReturn : Bool) (time : Nat) (cab : Cab (Desk × Surroundings))
    (later : lapse.start ≤ time) (fleet : Fleet Surroundings)
    (found : fleet.couriers[index]? = some cab.courier) (seen : fleet.cab cab.courier = cab)
    (holds : Holds fleet) :
    Holds (putBack index (Cab.drive (readBoard worker) lapse mayReturn time cab).2 fleet) := by
  induction time, cab using Cab.drive.induct (readBoard worker) lapse mayReturn
    generalizing fleet with
  | case1 time cab failure reached gone =>
    have first := drives fleet cab.courier mayReturn time found later holds
    rw [Fleet.round, seen, gone] at first
    rw [Cab.drive_of_failed gone]
    exact first
  | case2 time cab reached gone =>
    have first := drives fleet cab.courier mayReturn time found later holds
    rw [Fleet.round, seen, gone] at first
    rw [Cab.drive_of_over gone]
    exact first
  | case3 time cab next reached gone inductionHypothesis =>
    have first := drives fleet cab.courier mayReturn time found later holds
    rw [Fleet.round, seen, gone] at first
    have rest := inductionHypothesis (Nat.le_trans later (Cab.round_onward gone))
      (putBack index reached fleet) (couriers_putBack found reached) rfl first
    rw [putBack_putBack] at rest
    rw [Cab.drive_of_next gone]
    exact rest

/-- A driver keeps what its looks at the board and its rounds keep. -/
theorem maintains_driveOne
    (adopts : ∀ (fleet : Fleet Surroundings) courier, fleet.couriers[index]? = some courier →
      Holds fleet →
        Holds (putBack index (Cab.adopt (readBoard worker) (fleet.cab courier)).2 fleet)) :
    Maintains Holds (driveOne worker index lapse) := by
  intro fleet holds
  unfold driveOne
  rw [get_bind_apply]
  cases found : fleet.couriers[index]? with
  | none => exact holds
  | some courier =>
    have ticked : Holds (putBack index
        (Cab.tick (readBoard worker) lapse (fleet.scene.pending = 0) (fleet.cab courier)).2
          fleet) := by
      have adopted := adopts fleet courier found holds
      rw [Cab.tick_apply]
      generalize Cab.adopt (readBoard worker) (fleet.cab courier) = outcome at adopted
      rcases outcome with ⟨_ | _, cab⟩
      · exact adopted
      · have rest := holds_drive drives (fleet.scene.pending = 0) lapse.start cab (Nat.le_refl _)
          (putBack index cab fleet) (couriers_putBack found cab) rfl adopted
        rw [putBack_putBack] at rest
        exact rest
    dsimp only [within]
    generalize Cab.tick (readBoard worker) lapse (fleet.scene.pending = 0) (fleet.cab courier) =
      outcome at ticked
    rcases outcome with ⟨_ | _, cab⟩ <;> exact ticked

end Driver

end Members

/-- In a tick that ends well, one member after the other has done its part. -/
theorem members_of_ok {vehicles : Nat} {lapse : TimeLapse} {fleet reached : Fleet Surroundings}
    (ran : TickLoop.runTick (members worker vehicles ++ []) lapse fleet = (.ok (), reached)) :
    ∃ announced informed driven, announcing.before lapse fleet = (.ok (), announced) ∧
      reportNews worker lapse announced = (.ok (), informed) ∧
      ((List.range vehicles).map (driving worker)).forM (fun member => member.before lapse) informed =
        (.ok (), driven) ∧
      reportRepairs worker lapse driven = (.ok (), reached) := by
  obtain ⟨_, notified, rfl⟩ := within_eq_ok_iff.1 ran
  rw [List.append_nil] at notified
  obtain ⟨_, driven, begun, ended⟩ := bind_eq_ok_iff.1 notified
  obtain ⟨_, announced, announces, begun⟩ := bind_eq_ok_iff.1 begun
  obtain ⟨_, informed, informs, begun⟩ := bind_eq_ok_iff.1 begun
  obtain ⟨_, _, passed, ended⟩ := bind_eq_ok_iff.1 ended
  cases passed
  obtain ⟨_, closed, closes, ended⟩ := bind_eq_ok_iff.1 ended
  -- Only the liaison does something at the end of a tick.
  have rested : ∀ member ∈ (List.range vehicles).map (driving worker),
      Maintains (· = closed) (member.after lapse) := by
    intro member isMember
    obtain ⟨index, -, rfl⟩ := List.mem_map.1 isMember
    exact maintains_pure _
  have same := maintains_forM rested closed rfl
  rw [ended] at same
  cases same
  exact ⟨announced, informed, driven, announces, informs, begun, closes⟩

/-- Whoever takes part in a tick keeps what holds, and so does the passing of a tick. -/
structure Upkeep (worker : Worker Surroundings) (Holds : TickClock → Fleet Surroundings → Prop) :
    Prop where
  turn : ∀ clock, Maintains (Holds clock) (turn worker)
  announcing : ∀ clock lapse, clock.lapse = .ok lapse →
    Maintains (Holds clock) (announcing.before lapse)
  handing : ∀ clock fleet time, Holds clock fleet → Holds clock (fleet.handedOver time)
  driving : ∀ clock lapse index, clock.lapse = .ok lapse →
    Maintains (Holds clock) (driveOne worker index lapse)
  onward : ∀ clock next fleet, clock.advance = .ok next → Holds clock fleet → Holds next fleet

namespace Upkeep

variable {Holds : TickClock → Fleet Surroundings → Prop} (upkeep : Upkeep worker Holds)

include upkeep

theorem before {clock : TickClock} {lapse : TimeLapse} (covered : clock.lapse = .ok lapse)
    {vehicles : Nat} :
    ∀ member ∈ members worker vehicles ++ [], Maintains (Holds clock) (member.before lapse) := by
  intro member isMember
  simp only [members, List.append_nil, List.mem_cons, List.mem_map] at isMember
  rcases isMember with rfl | rfl | ⟨index, -, rfl⟩
  · exact upkeep.announcing clock lapse covered
  · exact maintains_reportNews (upkeep.turn clock) (upkeep.handing clock) lapse
  · exact upkeep.driving clock lapse index covered

theorem after (clock : TickClock) {lapse : TimeLapse} {vehicles : Nat} :
    ∀ member ∈ members worker vehicles ++ [], Maintains (Holds clock) (member.after lapse) := by
  intro member isMember
  simp only [members, List.append_nil, List.mem_cons, List.mem_map] at isMember
  rcases isMember with rfl | rfl | ⟨index, -, rfl⟩
  · exact maintains_pure _
  · exact maintains_reportRepairs (upkeep.turn clock) (upkeep.handing clock) lapse
  · exact maintains_pure _

theorem upholds (simulation : Simulation Surroundings) :
    (simulation.setup worker []).Upholds Holds where
  tick := fun _ _ covered =>
    TickLoop.maintains_runTick (upkeep.before covered) (upkeep.after _)
  onward := upkeep.onward

end Upkeep

/-- A run has the same number of drivers at every moment. -/
theorem counted_upkeep (worker : Worker Surroundings) (vehicles : Nat) :
    Upkeep worker fun _ fleet => fleet.couriers.length = vehicles where
  turn := fun _ _ counted => counted
  announcing := fun _ _ _ => maintains_announcing (fun _ _ _ counted => counted)
    (fun _ _ _ counted => counted) fun _ counted => counted
  handing := fun _ _ _ counted => counted
  driving := fun _ _ _ _ => maintains_driveOne
    (fun _ _ _ _ _ _ counted => (List.length_set ..).trans counted)
    fun _ _ _ counted => (List.length_set ..).trans counted
  onward := fun _ _ _ _ counted => counted

end Fleet

/-! ### Calls -/

namespace Simulation

variable {Surroundings : Type} {worker : Worker Surroundings}
  {Holds : TickClock → Fleet Surroundings → Prop} {simulation : Simulation Surroundings}

theorem upkeep_run (upkeep : Fleet.Upkeep worker Holds)
    (holds : Holds simulation.loop.clock simulation.fleet) :
    Holds (run worker simulation).2.loop.clock (run worker simulation).2.fleet := by
  let stop := fun (fleet : Fleet Surroundings) lapse => simulation.stop.isMet fleet.scene lapse
  have kept : Holds ((simulation.setup worker []).run stop simulation.loop _).2.1.clock _ :=
    (upkeep.upholds simulation).runFrom 0 0 simulation.loop (Fleet.turn worker simulation.fleet).2
      (upkeep.turn _ simulation.fleet holds)
  unfold run runObserved TickLoop.Setup.run at *
  dsimp only at kept ⊢
  generalize (simulation.setup worker []).runFrom _ 0 0 simulation.loop
    (Fleet.turn worker simulation.fleet).2 = outcome at kept
  rcases outcome with ⟨_ | _, _, _⟩ <;> exact kept

/-- What is kept holds after any number of calls, however they have ended. -/
theorem upkeep_after (upkeep : Fleet.Upkeep worker Holds)
    (first : Holds simulation.loop.clock simulation.fleet) (calls : Nat) :
    Holds (simulation.after worker [] calls).loop.clock
      (simulation.after worker [] calls).fleet := by
  induction calls with
  | zero => exact first
  | succ calls inductionHypothesis => exact upkeep_run upkeep inductionHypothesis

theorem upkeep_atTick (upkeep : Fleet.Upkeep worker Holds)
    (holds : Holds simulation.loop.clock simulation.fleet) (tick : Nat) :
    Holds (simulation.atTick worker [] tick).2.1.clock (simulation.atTick worker [] tick).2.2 :=
  (upkeep.upholds simulation).runTicks tick simulation.loop _
    (upkeep.turn _ simulation.fleet holds)

end Simulation

end LiveFleet
