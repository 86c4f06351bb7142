/-
This file proves when a pickup may start. A parcel is announced at its own time,
which may lie inside the tick that announces it, and whether its pickup window has
opened is judged by that time; a vehicle of the same tick acts from the start of the
tick on. So a pickup starts once the parcel has been announced and its window has
opened, or else earlier in the very tick in which the parcel is announced with its
window open. Nothing else is possible, whatever the solver does.
-/
import LiveFleet.Proofs.Run.Deeds
import LiveFleet.Proofs.Run.ParcelCourse

namespace LiveFleet

open Attempt

/-- When a parcel may start to be loaded, given the length of a tick: after its announcement and
with its window open, or before its announcement in the same tick. -/
def TransportOrder.MayLoad (order : TransportOrder) (tickLength time : Nat) : Prop :=
  (order.announceTime ≤ time ∧ order.pickupWindow.opens ≤ time) ∨
    (time < order.announceTime ∧ order.announceTime / tickLength = time / tickLength ∧
      order.pickupWindow.opens ≤ order.announceTime)

/-! ### The invariant -/

/-- No parcel is announced after the current tick, none is available before its window has opened at
its announcement or at the start of a tick, and every pickup has started when it might. -/
structure Punctual (clock : TickClock) (ledger : Ledger) : Prop where
  known : ∀ parcel known, ledger.parcel? parcel = some known →
    known.order.announceTime < (clock.tick + 1) * clock.tickLength ∧
      (known.state ≠ .announced →
        known.order.pickupWindow.opens ≤ known.order.announceTime ∨
          known.order.pickupWindow.opens ≤ clock.tick * clock.tickLength)
  loaded : ∀ event ∈ ledger.events, event.kind = .startPickup →
    ∃ known, ledger.parcel? event.parcel = some known ∧
      known.order.MayLoad clock.tickLength event.time

namespace Punctual

variable {clock next : TickClock} {ledger after : Ledger} {lapse : TimeLapse}

theorem onward (punctual : Punctual clock ledger) (advanced : clock.advance = .ok next) :
    Punctual next ledger := by
  obtain ⟨rfl, -⟩ := TickClock.advance_eq_ok_iff.1 advanced
  have longer : clock.tick * clock.tickLength ≤ (clock.tick + 1) * clock.tickLength :=
    Nat.mul_le_mul_right _ (Nat.le_succ _)
  refine ⟨fun parcel known found => ?_, punctual.loaded⟩
  obtain ⟨early, opens⟩ := punctual.known parcel known found
  refine ⟨Nat.lt_of_lt_of_le early (Nat.mul_le_mul_right _ (Nat.le_succ _)), fun claimed => ?_⟩
  exact (opens claimed).imp_right fun open_ => Nat.le_trans open_ longer

/-- An available parcel may be loaded at any time from the start of the tick on. -/
theorem mayLoad (punctual : Punctual clock ledger) {parcel : ParcelId} {known : Parcel}
    (found : ledger.parcel? parcel = some known) (available : known.state = .available)
    {time : Nat} (later : clock.tick * clock.tickLength ≤ time) :
    known.order.MayLoad clock.tickLength time := by
  obtain ⟨early, opens⟩ := punctual.known parcel known found
  have opens := opens (by rw [available]; nofun)
  by_cases announced : known.order.announceTime ≤ time
  · exact .inl ⟨announced, by omega⟩
  · have before : time < known.order.announceTime := Nat.lt_of_not_le announced
    refine .inr ⟨before, ?_, by omega⟩
    -- Both times lie in the current tick.
    rw [Nat.div_eq_of_lt_le (Nat.le_trans later (Nat.le_of_lt before)) early,
      Nat.div_eq_of_lt_le later (Nat.lt_trans before early)]

/-- Parcels that move on keep the promise, and so does an event that is not too early. -/
theorem of_advances (punctual : Punctual clock ledger) (advances : ledger.Advances after)
    (loaded : ∀ event ∈ after.events, event.kind = .startPickup → event ∈ ledger.events ∨
      ∃ known, ledger.parcel? event.parcel = some known ∧
        known.order.MayLoad clock.tickLength event.time) : Punctual clock after := by
  refine ⟨fun parcel later found => ?_, fun event written isLoading => ?_⟩
  · obtain ⟨known, foundBefore, -, order, state⟩ := advances.backward found
    obtain ⟨early, opens⟩ := punctual.known parcel known foundBefore
    rw [order]
    refine ⟨early, fun claimed => opens ?_⟩
    rcases state with same | ⟨available, -⟩
    · rwa [← same]
    · exact available
  · have before : ∃ known, ledger.parcel? event.parcel = some known ∧
        known.order.MayLoad clock.tickLength event.time := by
      rcases loaded event written isLoading with old | new
      · exact punctual.loaded event old isLoading
      · exact new
    obtain ⟨known, found, may⟩ := before
    obtain ⟨later, foundLater, -, order, -⟩ := advances.forward found
    exact ⟨later, foundLater, by rw [order]; exact may⟩

/-- Every start of a pickup is an older event than one of another kind. -/
theorem event_of_record {event new : Event} (written : event ∈ (ledger.record new).events)
    (isLoading : event.kind = .startPickup) (other : new.kind ≠ .startPickup) :
    event ∈ ledger.events := by
  refine (List.mem_append.1 written).resolve_right fun isNew => other ?_
  rw [← List.mem_singleton.1 isNew]
  exact isLoading

theorem announced (punctual : Punctual clock ledger) {parcel : Parcel}
    (new : ledger.parcel? parcel.id = none)
    (early : parcel.order.announceTime < (clock.tick + 1) * clock.tickLength)
    (opens : parcel.state ≠ .announced →
      parcel.order.pickupWindow.opens ≤ parcel.order.announceTime) (time : Nat) :
    Punctual clock ((ledger.enter parcel).record ⟨.newParcel, time, parcel.id, none⟩) := by
  refine ⟨fun other known found => ?_, fun event written isLoading => ?_⟩
  · by_cases own : other = parcel.id
    · have same : some parcel = some known := (if_pos own).symm.trans found
      cases same
      exact ⟨early, fun claimed => .inl (opens claimed)⟩
    · have same : ledger.parcel? other = some known := (if_neg own).symm.trans found
      exact punctual.known other known same
  · rcases List.mem_append.1 written with old | isNew
    · obtain ⟨known, found, may⟩ := punctual.loaded event old isLoading
      refine ⟨known, (if_neg ?_).trans found, may⟩
      intro same
      rw [same, new] at found
      cases found
    · rw [List.mem_singleton.1 isNew] at isLoading
      cases isLoading

theorem opened (punctual : Punctual clock ledger) :
    Punctual clock (ledger.opened (clock.tick * clock.tickLength)) := by
  refine ⟨fun parcel known found => ?_, fun event written isLoading => ?_⟩
  · obtain ⟨before, foundBefore, rfl⟩ := Option.map_eq_some_iff.1 found
    obtain ⟨early, opens⟩ := punctual.known parcel before foundBefore
    split
    · rename_i reached
      rw [World.opensBy, Bool.and_eq_true, TimeWindow.hasBegun_iff] at reached
      exact ⟨early, fun _ => .inr reached.2⟩
    · exact ⟨early, opens⟩
  · obtain ⟨known, found, may⟩ := punctual.loaded event written isLoading
    refine ⟨_, congrArg (Option.map _) found, ?_⟩
    dsimp only
    split <;> exact may

/-- A driver that acts within the tick keeps the promise. -/
theorem deed {Board : Type} {cab reached : Cab Board} (punctual : Punctual clock cab.world.ledger)
    {time : Nat} (later : clock.tick * clock.tickLength ≤ time) (deed : Cab.Deed time cab reached) :
    Punctual clock reached.world.ledger := by
  refine punctual.of_advances deed.advances fun event written isLoading => ?_
  cases deed with
  | drove ledger | skipped _ _ _ _ _ ledger =>
    rw [ledger] at written
    exact .inl written
  | @began _ stop kind moment _ _ _ ready after ledger =>
    rw [ledger] at written
    cases kind with
    | delivery => exact .inl (event_of_record written isLoading nofun)
    | pickup =>
      refine (List.mem_append.1 written).imp_right fun isNew => ?_
      obtain ⟨known, found, available⟩ := ready
      rw [List.mem_singleton.1 isNew]
      exact ⟨known, found, punctual.mayLoad found available (Nat.le_trans later after)⟩
  | @ended service moment _ _ _ ledger =>
    rw [ledger] at written
    generalize service.kind = kind at written
    cases kind with
    | pickup => exact .inl (event_of_record written isLoading nofun)
    | delivery => exact .inl (event_of_record written isLoading nofun)

end Punctual

/-! ### Runs -/

namespace Fleet

variable {Surroundings : Type}

/-- The drivers have their vehicles, and no pickup has started too early for ticks of the given
length. -/
def IsPunctual (tickLength : Nat) (clock : TickClock) (fleet : Fleet Surroundings) : Prop :=
  clock.tickLength = tickLength ∧ fleet.IsCrewed ∧ Punctual clock fleet.scene.world.ledger

/-- Whoever takes part in a run keeps pickups from starting too early. -/
theorem punctual_upkeep (worker : Worker Surroundings) (tickLength : Nat) :
    Upkeep worker (IsPunctual tickLength) where
  turn := fun _ _ holds => holds
  announcing := by
    intro clock lapse covered
    obtain ⟨rfl, -⟩ := TickClock.lapse_eq_ok_iff.1 covered
    refine maintains_announcing (fun _ _ _ holds => holds)
      (fun fleet order early ⟨length, crewed, punctual⟩ => ?_)
      fun fleet ⟨length, crewed, punctual⟩ => ?_
    · refine ⟨length, crewed.of_world rfl, ?_⟩
      show Punctual clock (fleet.scene.world.announce order order.announceTime).2.ledger
      have new := fleet.scene.world.nextParcel_unknown order order.announceTime
      rw [World.ledger_announce]
      refine punctual.announced new early (fun claimed => ?_) _
      by_cases opens : order.pickupWindow.hasBegun order.announceTime = true
      · exact (order.pickupWindow.hasBegun_iff _).1 opens
      · exact absurd (if_neg opens) claimed
    · refine ⟨length, crewed.of_world rfl, ?_⟩
      show Punctual clock (fleet.scene.world.refresh _).2.ledger
      rw [World.ledger_refresh]
      exact punctual.opened
  handing := fun _ _ _ holds => holds
  driving := by
    intro clock lapse index covered
    obtain ⟨rfl, -⟩ := TickClock.lapse_eq_ok_iff.1 covered
    refine maintains_driving (fun _ holds => holds.2.1) (fun _ holds => holds)
      (fun fleet courier cab found adoption ⟨length, crewed, punctual⟩ => ?_)
      fun fleet courier time cab found later deed ⟨length, crewed, punctual⟩ => ?_
    · obtain ⟨events, parcels⟩ := adoption.parcels
      have same : cab.world.ledger.events = fleet.scene.world.ledger.events := events
      refine ⟨length, adoption.crewed crewed found,
        punctual.of_advances (.of_same parcels) fun event written _ => .inl ?_⟩
      rw [← same]
      exact written
    · exact ⟨length, deed.crewed crewed found, Punctual.deed punctual later deed⟩
  onward := by
    intro clock next fleet advanced ⟨length, crewed, punctual⟩
    have sameLength : next.tickLength = clock.tickLength := by
      rw [(TickClock.advance_eq_ok_iff.1 advanced).1]
    exact ⟨sameLength.trans length, crewed, punctual.onward advanced⟩

end Fleet

/-! ### The law -/

namespace Simulation

open TickLoop Fleet

variable {Surroundings : Type} {settings : Settings} {scenario : Scenario}
  {startSolver : UInt64 → Except SolverFailure Surroundings} {simulation : Simulation Surroundings}

/-- Whatever the solver does, a parcel has started to be loaded after its announcement and with its
window open, or before its announcement in the same tick. -/
theorem pickups_start_when_they_may (built : build settings scenario startSolver = .ok simulation)
    (worker : Worker Surroundings) (calls : Nat) :
    ∀ event ∈ (simulation.after worker [] calls).fleet.scene.world.events,
      event.kind = .startPickup →
        ∃ parcel,
          (simulation.after worker [] calls).fleet.scene.world.parcel? event.parcel = some parcel ∧
            parcel.order.MayLoad settings.tickLength event.time := by
  obtain ⟨-, surroundings, positive, -, fresh⟩ := build_eq_ok built
  have first : IsPunctual settings.tickLength simulation.loop.clock simulation.fleet := by
    rw [fresh]
    refine ⟨rfl, isCrewed_initial _ _ _, ?_⟩
    rw [initial_ledger]
    exact ⟨nofun, nofun⟩
  obtain ⟨length, -, punctual⟩ := upkeep_after (punctual_upkeep worker _) first calls
  rw [← length]
  exact punctual.loaded

/-! ### A vehicle that is too early -/

/-- A parcel that is announced, and whose pickup window opens, in the middle of the first tick. -/
def midTick : TransportOrder :=
  { (OrderDraft.between .origin .origin).order with
    announceTime := 1
    pickupWindow := ⟨1, 2⟩ }

/-- The run of that parcel. -/
def hasty : Simulation Unit := standing oneTick midTick oneTick_positive

/-- That run after its call. -/
def hurried : Simulation Unit :=
  { hasty with
    loop := afterOneTick
    fleet := putBack 0 (driven (informed hasty) [0, 0, 0, 0, 0]) (informed hasty) }

theorem run_hasty : run eager hasty = (.ok (hurried.report ⟨1, 0, 2, .condition⟩), hurried) := by
  have rounds : Cab.drive (readBoard eager) onlyLapse true 0 (driven (informed hasty) []) =
      (.ok (), driven (informed hasty) [0, 0, 0, 0, 0]) :=
    (Cab.drive_of_next rfl).trans ((Cab.drive_of_next rfl).trans ((Cab.drive_of_next rfl).trans
      ((Cab.drive_of_next rfl).trans (Cab.drive_of_over rfl))))
  have drove : driveOne eager 0 onlyLapse (informed hasty) = (.ok (), hurried.fleet) :=
    (driveOne_of_drive rfl rfl rounds).trans rfl
  have ticked : runTick (members eager 1 ++ []) onlyLapse hasty.fleet = (.ok (), hurried.fleet) :=
    runTick_alone rfl rfl drove rfl
  exact runObserved_of_ok ((runFrom_of_tick rfl rfl rfl ticked rfl).trans (runFrom_of_stop rfl rfl))

/-- The order is accepted, and in the run of it the parcel has started to be loaded when it might. -/
theorem pickups_start_when_they_may_hasty :
    build oneTick ⟨.origin, [.standard], [midTick]⟩ (fun _ => .ok ()) = .ok hasty ∧
      ⟨.startPickup, 0, ⟨0⟩, some ⟨0⟩⟩ ∈ (hasty.after eager [] 1).fleet.scene.world.events ∧
      ∃ parcel, (hasty.after eager [] 1).fleet.scene.world.parcel? ⟨0⟩ = some parcel ∧
        parcel.order.MayLoad 2 0 := by
  have built : build oneTick _ _ = .ok hasty := build_standing midTick oneTick_positive (by decide)
  have called : hasty.after eager [] 1 = hurried := congrArg Prod.snd run_hasty
  have written : ⟨.startPickup, 0, ⟨0⟩, some ⟨0⟩⟩ ∈
      (hasty.after eager [] 1).fleet.scene.world.events := by
    rw [called]
    exact .tail _ (.head _)
  exact ⟨built, written, pickups_start_when_they_may built eager 1 _ written rfl⟩

/-- An order that is accepted, and whose parcel has started to be loaded before its announcement and
before its pickup window has opened. -/
theorem pickup_starts_before_its_window :
    ((OrderDraft.between .origin .origin).applyAll
        [.announceTime 1, .pickupWindow ⟨1, 2⟩]).accept = .ok midTick ∧
      build oneTick ⟨.origin, [.standard], [midTick]⟩ (fun _ => .ok ()) = .ok hasty ∧
      ∃ event ∈ (hasty.after eager [] 1).fleet.scene.world.events,
        event = ⟨.startPickup, 0, ⟨0⟩, some ⟨0⟩⟩ ∧ event.time < midTick.announceTime ∧
          event.time < midTick.pickupWindow.opens := by
  refine ⟨rfl, build_standing midTick oneTick_positive (by decide), _, ?_, rfl, by decide, by decide⟩
  have called : hasty.after eager [] 1 = hurried := congrArg Prod.snd run_hasty
  rw [called]
  exact .tail _ (.head _)

end Simulation

end LiveFleet
