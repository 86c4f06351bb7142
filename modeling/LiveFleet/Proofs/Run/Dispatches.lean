/-
This file proves when snapshots are handed over. At the start of a tick the liaison
hands over a snapshot if parcels have become known, and at its end if a check has
failed on a version that is newer than all versions that had failed before. So there
are at most as many snapshots as ticks with announcements and versions that did not
fit. What does not follow is that the liaison is silent at the start of a tick without
announcements: a request that a crash has left behind is settled there, in the first
tick after it.
-/
import LiveFleet.Proofs.Run.Handover
import LiveFleet.Proofs.Run.ParcelCourse

namespace LiveFleet

open Attempt

namespace Fleet

variable {Surroundings : Type} {worker : Worker Surroundings} {first : Surroundings}
  {vehicles : Nat} {lapse : TimeLapse} {past : List (TimeLapse × Fleet Surroundings)}
  {fleet reached : Fleet Surroundings}

/-! ### What is said of several ticks -/

/-- The number of ticks in which parcels become known. -/
def announcements (ticks : List (TimeLapse × Fleet Surroundings)) : Nat :=
  ticks.countP fun tick => !(tick.2.newParcels tick.1).isEmpty

/-- The versions whose checks fail in the ticks, in order. -/
def misfitsIn (worker : Worker Surroundings) (vehicles : Nat)
    (ticks : List (TimeLapse × Fleet Surroundings)) : List Nat :=
  ticks.flatMap fun tick => tick.2.misfits worker vehicles tick.1

/-- The last one of the ticks has crashed. -/
def EndsInCrash (worker : Worker Surroundings) (vehicles : Nat)
    (ticks : List (TimeLapse × Fleet Surroundings)) : Prop :=
  ∃ lapse fleet crash, ticks.getLast? = some (lapse, fleet) ∧
    (tick worker vehicles lapse fleet).1 = .error (.crashed crash)

/-- In a tick some check fails on a version that is newer than all versions that failed in earlier
ticks. -/
def FindsMisfit (worker : Worker Surroundings) (vehicles : Nat)
    (past : List (TimeLapse × Fleet Surroundings)) (lapse : TimeLapse)
    (fleet : Fleet Surroundings) : Prop :=
  ∃ version ∈ fleet.misfits worker vehicles lapse,
    ∀ older ∈ misfitsIn worker vehicles past, older < version

theorem announcements_concat (past : List (TimeLapse × Fleet Surroundings)) (lapse : TimeLapse)
    (fleet : Fleet Surroundings) :
    announcements (past ++ [(lapse, fleet)]) =
      announcements past + (!(fleet.newParcels lapse).isEmpty).toNat := by
  rw [announcements, List.countP_append, List.countP_singleton]
  cases (fleet.newParcels lapse).isEmpty <;> rfl

theorem misfitsIn_concat (past : List (TimeLapse × Fleet Surroundings)) (lapse : TimeLapse)
    (fleet : Fleet Surroundings) :
    misfitsIn worker vehicles (past ++ [(lapse, fleet)]) =
      misfitsIn worker vehicles past ++ fleet.misfits worker vehicles lapse := by
  rw [misfitsIn, List.flatMap_append, List.flatMap_singleton]
  rfl

/-! ### The tally -/

/-- What the fleet remembers of the ticks so far. The snapshots are counted together with the one
that is asked for. -/
structure Tally (worker : Worker Surroundings) (first : Surroundings) (vehicles : Nat)
    (past : List (TimeLapse × Fleet Surroundings)) (fleet : Fleet Surroundings) : Prop where
  counted : fleet.couriers.length = vehicles
  manned : fleet.IsManned
  covered : ∃ session, fleet.Attended worker first session ∧ fleet.Covers session
  flagged : fleet.repairs.takeRequest.2 =
    (RepairLog.clear.flagAll (misfitsIn worker vehicles past)).takeRequest.2
  reported : fleet.desk.fault = none → fleet.reported = fleet.scene.world.parcels.length
  dispatched : fleet.ordered ≤ announcements past + fleet.repairs.repairs
  settled : ¬ EndsInCrash worker vehicles past → fleet.desk.fault = none →
    fleet.repairs.requested = false

theorem Tally.retains (tally : fleet.Tally worker first vehicles past) :
    fleet.desk.Retains none := by
  obtain ⟨session, attended, -⟩ := tally.covered
  rw [← attended.desk]
  exact attended.sitting.retains

/-- The log counts the versions that failed, and knows the newest of them. -/
theorem Tally.log (tally : fleet.Tally worker first vehicles past) :
    fleet.repairs.repairs = (RepairLog.clear.flagAll (misfitsIn worker vehicles past)).repairs ∧
      fleet.repairs.lastFlagged =
        (RepairLog.clear.flagAll (misfitsIn worker vehicles past)).lastFlagged := by
  have counted := congrArg RepairLog.repairs tally.flagged
  have newest := congrArg RepairLog.lastFlagged tally.flagged
  exact ⟨counted, newest⟩

/-- There is news at the start of a tick if parcels become known, or if a request was left
behind. -/
theorem Tally.hasNews_iff (tally : fleet.Tally worker first vehicles past)
    (healthy : fleet.desk.fault = none) (lapse : TimeLapse) :
    (fleet.announced lapse).HasNews ↔
      fleet.newParcels lapse ≠ [] ∨ fleet.repairs.requested = true := by
  show fleet.reported < (fleet.announced lapse).scene.world.parcels.length ∨ _ ↔ _
  rw [length_announced, tally.reported healthy, Nat.lt_add_right_iff_pos, List.length_pos_iff]
  rfl

section Informed

variable (tally : fleet.Tally worker first vehicles past)
  (told : (reportNews worker lapse (fleet.announced lapse)).1 = .ok ())

include tally told

/-- Once the liaison has done its part at the start of a tick, all parcels have been reported. -/
theorem Tally.reported_informed :
    (fleet.informed worker lapse).reported =
      (fleet.informed worker lapse).scene.world.parcels.length := by
  obtain ⟨healthy, hands⟩ := hands_informed tally.retains told
  rw [hands.reported, hands.scene]
  by_cases news : (fleet.announced lapse).HasNews
  · rw [if_pos news, if_neg (List.cons_ne_nil _ _)]
  · rw [if_neg news, if_pos rfl, length_announced]
    rw [tally.hasNews_iff healthy, not_or, Decidable.not_not] at news
    rw [news.1]
    exact tally.reported healthy

/-- With the snapshot at the start of a tick there are not too many. -/
theorem Tally.dispatched_informed :
    (fleet.informed worker lapse).ordered ≤
      announcements (past ++ [(lapse, fleet)]) + (fleet.informed worker lapse).repairs.repairs := by
  obtain ⟨healthy, hands⟩ := hands_informed tally.retains told
  have same : (fleet.informed worker lapse).repairs.repairs = fleet.repairs.repairs := hands.repairs
  have dispatched : fleet.desk.newest + fleet.repairs.requested.toNat ≤ _ := tally.dispatched
  rw [hands.ordered tally.retains, same, announcements_concat]
  show fleet.desk.newest + _ ≤ _
  by_cases news : (fleet.announced lapse).HasNews
  · rw [if_pos news, List.length_singleton]
    rcases (tally.hasNews_iff healthy lapse).1 news with new | asked
    · rw [List.isEmpty_eq_false_iff.2 new, Bool.not_false, Bool.toNat_true]
      omega
    · rw [asked, Bool.toNat_true] at dispatched
      omega
  · rw [if_neg news, List.length_nil]
    omega

/-- A check that fails asks for a snapshot only if it counts. -/
theorem Tally.dispatched_driven :
    (fleet.driven worker vehicles lapse).ordered ≤
      announcements (past ++ [(lapse, fleet)]) +
        (fleet.driven worker vehicles lapse).repairs.repairs := by
  have informed := tally.dispatched_informed told
  have hands := (hands_informed tally.retains told).2
  have drives := drives_driven tally.manned.crewed worker vehicles lapse
  have newest := drives.takes.newest (hands.takes.retains tally.retains)
  have asked := RepairLog.asked_flagAll_le (fleet.informed worker lapse).repairs
    ((fleet.informed worker lapse).misfitsOfAll worker lapse (List.range vehicles))
  rw [← driveAll_repairs] at asked
  have asked : (fleet.informed worker lapse).repairs.repairs +
      (fleet.driven worker vehicles lapse).repairs.requested.toNat ≤
        (fleet.driven worker vehicles lapse).repairs.repairs +
          (fleet.informed worker lapse).repairs.requested.toNat := asked
  unfold ordered at informed ⊢
  rw [newest, List.length_nil]
  omega

end Informed

/-! ### One more tick -/

section Step

variable (tally : fleet.Tally worker first vehicles past)

include tally

theorem Tally.reported_tick
    (healthy : (tick worker vehicles lapse fleet).2.desk.fault = none) :
    (tick worker vehicles lapse fleet).2.reported =
      (tick worker vehicles lapse fleet).2.scene.world.parcels.length := by
  rcases tick_cases worker vehicles lapse fleet with ⟨refused, -, ends⟩ | ⟨told, rest⟩
  · rw [ends] at healthy
    exact absurd healthy (fails_informed tally.retains refused).faulty
  · have drives := drives_driven tally.manned.crewed worker vehicles lapse
    have driven : (fleet.driven worker vehicles lapse).reported =
        (fleet.driven worker vehicles lapse).scene.world.parcels.length := by
      rw [drives.reported, drives.parcels]
      exact tally.reported_informed told
    rcases rest with ⟨-, ends⟩ | ⟨-, ends⟩
    · rw [ends]
      exact driven
    · rw [ends] at healthy ⊢
      rcases reportRepairs_hands (retains_driven tally.manned.crewed tally.retains told vehicles)
        lapse with ⟨-, hands⟩ | ⟨-, fails⟩
      · exact hands.all_reported driven
      · exact absurd healthy fails.faulty

theorem Tally.dispatched_tick :
    (tick worker vehicles lapse fleet).2.ordered ≤
      announcements (past ++ [(lapse, fleet)]) +
        (tick worker vehicles lapse fleet).2.repairs.repairs := by
  rcases tick_cases worker vehicles lapse fleet with ⟨refused, -, ends⟩ | ⟨told, rest⟩
  · have fails := fails_informed tally.retains refused
    have same : (fleet.informed worker lapse).repairs.repairs = fleet.repairs.repairs :=
      fails.repairs_eq
    have dispatched := tally.dispatched
    have fewer : (fleet.informed worker lapse).ordered ≤ fleet.ordered :=
      fails.ordered_le tally.retains
    rw [ends, same, announcements_concat]
    omega
  · have driven := tally.dispatched_driven told
    rcases rest with ⟨-, ends⟩ | ⟨-, ends⟩
    · rw [ends]
      exact driven
    · obtain ⟨fewer, same⟩ := ordered_reportRepairs_le
        (retains_driven tally.manned.crewed tally.retains told vehicles) lapse
      rw [ends, same]
      exact Nat.le_trans fewer driven

/-- A tick that does not crash leaves a request behind only if it has found a fault. -/
theorem Tally.settled_tick (clock : TickClock) (covered : clock.lapse = .ok lapse)
    (whole : ¬ EndsInCrash worker vehicles (past ++ [(lapse, fleet)]))
    (healthy : (tick worker vehicles lapse fleet).2.desk.fault = none) :
    (tick worker vehicles lapse fleet).2.repairs.requested = false := by
  cases ran : (tick worker vehicles lapse fleet).1 with
  | ok => exact requested_reportRepairs (parts_of_ok (Prod.ext ran rfl)).2
  | error failure =>
    rcases runTick_fails tally.manned tally.retains covered (Prod.ext ran rfl) with
      rfl | ⟨error, -, stored⟩
    · exact absurd ⟨lapse, fleet, _, List.getLast?_concat, ran⟩ whole
    · cases healthy.symm.trans stored

end Step

/-! ### Runs -/

/-- What is known of the drivers and of the desk at every moment of a run. -/
theorem known_upkeep (worker : Worker Surroundings) (first : Surroundings) (vehicles : Nat) :
    Upkeep worker fun _ fleet => (fleet.couriers.length = vehicles ∧ fleet.IsManned) ∧
      ∃ session, fleet.Attended worker first session ∧ fleet.Covers session := by
  have outlasts : Outlasts worker first Covers := outlasts_covers
  exact ((counted_upkeep worker vehicles).and (manned_upkeep worker)).and outlasts.upkeep

/-- A tick adds to the tally, whatever becomes of it. -/
theorem recounts_tally (worker : Worker Surroundings) (first : Surroundings) (vehicles : Nat) :
    Recounts worker vehicles fun past fleet => fleet.Tally worker first vehicles past where
  counted := fun _ _ tally => tally.counted
  turn := by
    intro past fleet tally
    have known := known_upkeep worker first vehicles
    obtain ⟨⟨counted, manned⟩, covered⟩ := known.turn ⟨1, 0, Nat.zero_lt_one⟩ fleet
      ⟨⟨tally.counted, tally.manned⟩, tally.covered⟩
    have newest := (takes_turn worker fleet).newest tally.retains
    refine ⟨counted, manned, covered, tally.flagged, fun healthy => ?_, ?_, fun whole healthy => ?_⟩
    · exact tally.reported (healthy_of_turn tally.retains healthy)
    · rw [ordered, newest]
      exact tally.dispatched
    · exact tally.settled whole (healthy_of_turn tally.retains healthy)
  tick := by
    intro clock lapse past fleet covered tally
    have known := known_upkeep worker first vehicles
    obtain ⟨⟨counted, manned⟩, attended⟩ := TickLoop.maintains_runTick (known.before covered)
      (known.after clock) fleet ⟨⟨tally.counted, tally.manned⟩, tally.covered⟩
    refine ⟨counted, manned, attended, ?_, tally.reported_tick, tally.dispatched_tick,
      tally.settled_tick clock covered⟩
    rw [repairs_tick tally.manned.crewed tally.retains vehicles, misfitsIn_concat,
      RepairLog.flagAll_append]
    exact RepairLog.takeRequest_flagAll _ tally.flagged

/-- No more versions have failed than were published, and there are no more snapshots than ticks
with announcements and versions that failed. -/
structure IsThrifty (past : List (TimeLapse × Fleet Surroundings)) (fleet : Fleet Surroundings) :
    Prop where
  repairs : fleet.repairs.repairs ≤ fleet.desk.version
  dispatches : fleet.desk.newest ≤ announcements past + fleet.repairs.repairs

theorem Tally.isThrifty (tally : fleet.Tally worker first vehicles past) :
    fleet.IsThrifty past := by
  refine ⟨?_, Nat.le_trans (Nat.le_add_right _ _) tally.dispatched⟩
  obtain ⟨session, attended, covers⟩ := tally.covered
  obtain ⟨counted, newest⟩ := tally.log
  have few := RepairLog.repairs_flagAll_le (misfitsIn worker vehicles past)
    (Nat.le_refl RepairLog.clear.repairs)
  have published := covers.heeded.flagged
  rw [attended.desk, newest] at published
  rw [counted]
  exact Nat.le_trans few published

/-! ### The law -/

/-- The snapshots that are handed over in a tick that comes after others: one at its start if
parcels have become known, which lists them, and one at its end if it finds a misfit. Without new
parcels there is none at its start, unless the tick right before it has crashed. -/
structure HandsOver (worker : Worker Surroundings) (vehicles : Nat)
    (past : List (TimeLapse × Fleet Surroundings)) (lapse : TimeLapse)
    (fleet reached : Fleet Surroundings) : Prop where
  news : fleet.newParcels lapse ≠ [] → (fleet.announced lapse).desk.Takes
    [.capture (fleet.announced lapse).scene.world lapse.start] (fleet.informed worker lapse).desk
  listed : ∀ parcel ∈ fleet.newParcels lapse, parcel.view ∈
    (Snapshot.capture (fleet.announced lapse).scene.world lapse.start).available
  noNews : fleet.newParcels lapse = [] → ¬ EndsInCrash worker vehicles past →
    (fleet.announced lapse).desk.Takes [] (fleet.informed worker lapse).desk
  drivers : (fleet.informed worker lapse).desk.Takes [] (fleet.driven worker vehicles lapse).desk
  misfit : FindsMisfit worker vehicles past lapse fleet →
    (fleet.driven worker vehicles lapse).desk.Takes
      [.capture (fleet.driven worker vehicles lapse).scene.world lapse.finish] reached.desk
  noMisfit : ¬ FindsMisfit worker vehicles past lapse fleet →
    (fleet.driven worker vehicles lapse).desk.Takes [] reached.desk

/-- The drivers ask for a snapshot if the tick finds a misfit. -/
theorem Tally.requested_driven (tally : fleet.Tally worker first vehicles past)
    (told : (reportNews worker lapse (fleet.announced lapse)).1 = .ok ()) :
    (fleet.driven worker vehicles lapse).repairs.requested = true ↔
      FindsMisfit worker vehicles past lapse fleet := by
  have all : fleet.misfits worker vehicles lapse =
      (fleet.informed worker lapse).misfitsOfAll worker lapse (List.range vehicles) := by
    rw [misfits, told]
  have settled : (fleet.informed worker lapse).repairs = fleet.repairs.takeRequest.2 :=
    (hands_informed tally.retains told).2.settled
  have unasked : fleet.repairs.takeRequest.2.requested = false := rfl
  have newest : fleet.repairs.takeRequest.2.lastFlagged = _ := tally.log.2
  have start : RepairLog.clear.lastFlagged = 0 := rfl
  rw [driven, driveAll_repairs, RepairLog.requested_flagAll, settled, unasked, newest, FindsMisfit,
    all]
  simp only [RepairLog.lastFlagged_flagAll_lt, start, Bool.false_eq_true, false_or]
  refine exists_congr fun version => and_congr_right fun failed => ?_
  exact and_iff_right (pos_of_mem_misfitsOfAll failed)

theorem Tally.handsOver (tally : fleet.Tally worker first vehicles past)
    (ran : tick worker vehicles lapse fleet = (.ok (), reached)) :
    HandsOver worker vehicles past lapse fleet reached := by
  obtain ⟨told, closes⟩ := parts_of_ok ran
  obtain ⟨healthy, hands⟩ := hands_informed tally.retains told
  have takes := hands.takes
  have hasNews := tally.hasNews_iff healthy lapse
  have closing := hands_of_closed
    (retains_driven tally.manned.crewed tally.retains told vehicles) closes
  have takesThen := closing.takes
  have asks := tally.requested_driven told
  constructor
  · intro new
    rwa [if_pos (hasNews.2 (.inl new))] at takes
  · exact fun parcel new => listed_of_mem_newParcels new lapse.start
  · intro none whole
    have silent : ¬ (fleet.announced lapse).HasNews := by
      rw [hasNews, tally.settled whole healthy]
      rintro (new | asked)
      · exact new none
      · cases asked
    rwa [if_neg silent] at takes
  · exact (drives_driven tally.manned.crewed worker vehicles lapse).takes
  · intro found
    rwa [if_pos (asks.2 found)] at takesThen
  · intro notFound
    rwa [if_neg (fun asked => notFound (asks.1 asked))] at takesThen

end Fleet

namespace Simulation

open TickLoop Fleet

variable {Surroundings : Type} {settings : Settings} {scenario : Scenario}
  {startSolver : UInt64 → Except SolverFailure Surroundings} {simulation : Simulation Surroundings}

theorem tally_initial (built : build settings scenario startSolver = .ok simulation)
    (worker : Worker Surroundings) :
    simulation.fleet.Tally worker simulation.fleet.surroundings scenario.vehicles.length [] := by
  have attended := Outlasts.attended_initial worker built
  have covers := covers_initial built
  obtain ⟨surroundings, fresh⟩ := build_fleet built
  have known : simulation.fleet.scene.world.parcels = [] := by
    rw [fresh]
    show (initialWorld scenario).parcels = []
    rw [initialWorld_eq]
    rfl
  refine ⟨?_, ?_, ⟨_, attended, covers⟩, ?_, fun _ => ?_, ?_, fun _ _ => ?_⟩
  · rw [fresh]
    simp [initialFleet]
  · rw [fresh]
    exact isManned_initial _ _ _
  · rw [fresh]
    rfl
  · rw [known, fresh]
    rfl
  · rw [fresh]
    exact Nat.le_refl 0
  · rw [fresh]
    rfl

/-- In every tick of every call that ends well, snapshots are handed over as they are called for,
and no request is left behind. Over any number of calls, whatever has become of them, no more
versions have failed than were published, and there are no more snapshots than ticks with
announcements and versions that failed. -/
theorem snapshots_are_called_for (built : build settings scenario startSolver = .ok simulation)
    (worker : Worker Surroundings) (calls : Nat) :
    (∀ earlier lapse fleet later reached,
      (simulation.after worker [] calls).begun worker = earlier ++ (lapse, fleet) :: later →
        tick worker scenario.vehicles.length lapse fleet = (.ok (), reached) →
          HandsOver worker scenario.vehicles.length
              (simulation.history worker calls ++ earlier) lapse fleet reached ∧
            reached.repairs.requested = false ∧
            reached.IsThrifty (simulation.history worker calls ++ earlier ++ [(lapse, fleet)])) ∧
      (simulation.after worker [] calls).fleet.IsThrifty (simulation.history worker calls) := by
  have recounts :=
    recounts_tally worker simulation.fleet.surroundings scenario.vehicles.length
  have first := tally_initial built worker
  refine ⟨fun earlier lapse fleet later reached begun ran => ?_,
    (recounts_after recounts first calls).isThrifty⟩
  obtain ⟨tally, clock, covered⟩ := recounts_begun recounts first calls begun
  have ended := recounts.tick clock lapse _ fleet covered tally
  rw [ran] at ended
  exact ⟨tally.handsOver ran, requested_reportRepairs (parts_of_ok ran).2, ended.isThrifty⟩

/-- In its only tick the parcel of the errand becomes known, and the snapshot of the start lists
it. -/
theorem snapshots_are_called_for_errand :
    build oneTick ⟨.origin, [.standard], [(OrderDraft.between .origin .origin).order]⟩
        (fun _ => .ok ()) = .ok errand ∧
      errand.begun eager = [(onlyLapse, errand.fleet)] ∧
      (errand.fleet.announced onlyLapse).desk.Takes
        [.capture (errand.fleet.announced onlyLapse).scene.world 0]
        (errand.fleet.informed eager onlyLapse).desk := by
  have built : build oneTick _ _ = .ok errand := build_standing _ (by decide) (by decide)
  have begun : (errand.after eager [] 0).begun eager = [] ++ (onlyLapse, errand.fleet) :: [] :=
    (begun_of_tick rfl rfl rfl runTick_errand rfl).trans
      (congrArg (List.cons _) (begun_of_stop rfl rfl))
  have handed := (snapshots_are_called_for built eager 0).1 [] _ _ [] _ begun runTick_errand
  exact ⟨built, begun, handed.1.news (List.cons_ne_nil _ _)⟩

/-! ### A request that a crash has left behind -/

/-- A solver that gives the first parcel to the second vehicle, and to the first one a parcel that
does not exist. -/
def halfRight : Worker Unit where
  turn := fun _ desk => ((), if desk.queue.isEmpty then [] else
    [.take, .keep, .claim, .publish ⟨[[⟨7⟩], [⟨0⟩, ⟨0⟩]]⟩, .signalDone, .finish (.ok ())])

/-- A run of two vehicles with a parcel whose unloading takes as long as a time can be. -/
def convoy : Simulation Unit :=
  crewed oneTick [.standard, .standard]
    { (OrderDraft.between .origin .origin).order with
      pickupDuration := 1
      deliveryDuration := Checked.largest } oneTick_positive ()

/-- The driver at a position of the list after rounds at the given times. -/
def driverAfter (fleet : Fleet Unit) (index : Nat) (times : List Nat) : Cab (Desk × Unit) :=
  times.foldl (fun cab time => (Cab.round (readBoard halfRight) onlyLapse true time cab).2)
    (Cab.adopt (readBoard halfRight)
      (fleet.cab (fleet.couriers.getD index (.start ⟨index⟩)))).2

theorem driverAfter_concat (fleet : Fleet Unit) (index : Nat) (times : List Nat) (time : Nat) :
    driverAfter fleet index (times ++ [time]) =
      (Cab.round (readBoard halfRight) onlyLapse true time (driverAfter fleet index times)).2 := by
  rw [driverAfter, List.foldl_append]
  rfl

section Rounds

variable (fleet : Fleet Unit) (index : Nat) (times : List Nat) (time : Nat)

theorem drive_next {next : Nat}
    (gone : (Cab.round (readBoard halfRight) onlyLapse true time
      (driverAfter fleet index times)).1 = .ok (some next)) :
    Cab.drive (readBoard halfRight) onlyLapse true time (driverAfter fleet index times) =
      Cab.drive (readBoard halfRight) onlyLapse true next
        (driverAfter fleet index (times ++ [time])) := by
  rw [driverAfter_concat]
  exact Cab.drive_of_next (Prod.ext gone rfl)

theorem drive_over
    (gone : (Cab.round (readBoard halfRight) onlyLapse true time
      (driverAfter fleet index times)).1 = .ok none) :
    Cab.drive (readBoard halfRight) onlyLapse true time (driverAfter fleet index times) =
      (.ok (), driverAfter fleet index (times ++ [time])) := by
  rw [driverAfter_concat]
  exact Cab.drive_of_over (Prod.ext gone rfl)

theorem drive_failed {failure : Failure WorldError}
    (gone : (Cab.round (readBoard halfRight) onlyLapse true time
      (driverAfter fleet index times)).1 = .error failure) :
    Cab.drive (readBoard halfRight) onlyLapse true time (driverAfter fleet index times) =
      (.error failure, driverAfter fleet index (times ++ [time])) := by
  rw [driverAfter_concat]
  exact Cab.drive_of_failed (Prod.ext gone rfl)

variable {fleet index times}

/-- A driver of a fleet that nothing more is announced to. -/
theorem driveOne_driverAfter {courier : Courier} {result : Except (Failure WorldError) Unit}
    (found : fleet.couriers[index]? = some courier) (announced : fleet.scene.pending = 0)
    (adopted : (Cab.adopt (readBoard halfRight) (fleet.cab courier)).1 = .ok ())
    (driven : Cab.drive (readBoard halfRight) onlyLapse true 0 (driverAfter fleet index []) =
      (result, driverAfter fleet index times)) :
    driveOne halfRight index onlyLapse fleet =
      (result.mapError (Failure.map .world),
        putBack index (driverAfter fleet index times) fleet) := by
  have same : driverAfter fleet index [] =
      (Cab.adopt (readBoard halfRight) (fleet.cab courier)).2 := by
    rw [driverAfter, List.getD_eq_getElem?_getD, found]
    rfl
  refine driveOne_of_drive found (Prod.ext adopted same.symm) ?_
  rw [announced]
  exact driven

end Rounds

/-- The fleet of the convoy, informed in its first call, after the first driver. -/
def convoyLed : Fleet Unit :=
  putBack 0 (driverAfter (convoy.fleet.informed halfRight onlyLapse) 0 [0])
    (convoy.fleet.informed halfRight onlyLapse)

/-- The convoy after its first call: the first driver has asked for a snapshot, and the second one
has lost the unloading. -/
def halted : Simulation Unit :=
  { convoy with fleet := putBack 1 (driverAfter convoyLed 1 [0, 0, 1]) convoyLed }

/-- The fleet of the convoy, informed in its second call, after the first driver. -/
def haltedLed : Fleet Unit :=
  putBack 0 (driverAfter (halted.fleet.informed halfRight onlyLapse) 0 [0])
    (halted.fleet.informed halfRight onlyLapse)

/-- The fleet of the convoy after its second call. -/
def resumed : Fleet Unit :=
  (reportRepairs halfRight onlyLapse (putBack 1 (driverAfter haltedLed 1 [0, 0]) haltedLed)).2

theorem tick_convoy :
    tick halfRight 2 onlyLapse convoy.fleet = (.error (.crashed .addOverflow), halted.fleet) := by
  have told : reportNews halfRight onlyLapse (convoy.fleet.announced onlyLapse) =
      (.ok (), convoy.fleet.informed halfRight onlyLapse) := Prod.ext rfl rfl
  have first : driveOne halfRight 0 onlyLapse (convoy.fleet.informed halfRight onlyLapse) =
      (.ok (), convoyLed) :=
    driveOne_driverAfter rfl rfl rfl
      (drive_over (convoy.fleet.informed halfRight onlyLapse) 0 [] 0 rfl)
  have second : driveOne halfRight 1 onlyLapse convoyLed =
      (.error (.crashed .addOverflow), halted.fleet) := by
    have rounds := (drive_next convoyLed 1 [] 0 rfl).trans
      ((drive_next convoyLed 1 [0] 0 rfl).trans (drive_failed convoyLed 1 [0, 0] 1 rfl))
    exact driveOne_driverAfter rfl rfl rfl rounds
  have drove : driveAll halfRight onlyLapse (List.range 2)
      (convoy.fleet.informed halfRight onlyLapse) =
      (.error (.crashed .addOverflow), halted.fleet) :=
    (bind_of_ok first).trans (bind_of_failed second)
  exact tick_of_drivers_failed told drove

theorem tick_halted : tick halfRight 2 onlyLapse halted.fleet = (.ok (), resumed) := by
  have told : reportNews halfRight onlyLapse (halted.fleet.announced onlyLapse) =
      (.ok (), halted.fleet.informed halfRight onlyLapse) := Prod.ext rfl rfl
  have first : driveOne halfRight 0 onlyLapse (halted.fleet.informed halfRight onlyLapse) =
      (.ok (), haltedLed) :=
    driveOne_driverAfter rfl rfl rfl
      (drive_over (halted.fleet.informed halfRight onlyLapse) 0 [] 0 rfl)
  have second : driveOne halfRight 1 onlyLapse haltedLed =
      (.ok (), putBack 1 (driverAfter haltedLed 1 [0, 0]) haltedLed) :=
    driveOne_driverAfter rfl rfl rfl
      ((drive_next haltedLed 1 [] 0 rfl).trans (drive_over haltedLed 1 [0] 0 rfl))
  have drove : driveAll halfRight onlyLapse (List.range 2)
      (halted.fleet.informed halfRight onlyLapse) =
      (.ok (), putBack 1 (driverAfter haltedLed 1 [0, 0]) haltedLed) :=
    (bind_of_ok first).trans (bind_of_ok second)
  exact tick_of_parts told drove (Prod.ext rfl rfl)

theorem run_convoy : run halfRight convoy = (.error (.crashed .addOverflow), halted) := by
  have ticked : runTick (members halfRight 2 ++ []) onlyLapse convoy.fleet =
      (.error (.crashed .addOverflow), halted.fleet) := tick_convoy
  have ran : (convoy.setup halfRight []).runFrom
      (fun fleet lapse => convoy.stop.isMet fleet.scene lapse) 0 0 convoy.loop convoy.fleet =
        (.error (.crashed .addOverflow), convoy.loop, halted.fleet) :=
    runFrom_of_failed rfl rfl rfl ticked
  exact (runObserved_of_failed ran).trans rfl

/-- The call after the crash begins with a tick in which no parcel becomes known, and which ends
well; at its start a snapshot is handed over. -/
theorem snapshot_without_announcement :
    build oneTick
        ⟨.origin, [.standard, .standard], [{ (OrderDraft.between .origin .origin).order with
          pickupDuration := 1
          deliveryDuration := Checked.largest }]⟩ (fun _ => .ok ()) = .ok convoy ∧
      (convoy.after halfRight [] 1).begun halfRight = [(onlyLapse, halted.fleet)] ∧
      tick halfRight 2 onlyLapse halted.fleet = (.ok (), resumed) ∧
      halted.fleet.newParcels onlyLapse = [] ∧
      (halted.fleet.informed halfRight onlyLapse).desk.newest =
        (halted.fleet.announced onlyLapse).desk.newest + 1 := by
  have called : convoy.after halfRight [] 1 = (run halfRight convoy).2 := rfl
  refine ⟨build_crewed rfl _ oneTick_positive (by decide) rfl, ?_, tick_halted, rfl, rfl⟩
  have ticked : runTick (members halfRight 2 ++ []) onlyLapse halted.fleet = (.ok (), resumed) :=
    tick_halted
  have begun : (halted.setup halfRight []).begun
      (fun fleet lapse => halted.stop.isMet fleet.scene lapse) 0 halted.loop halted.fleet =
        [(onlyLapse, halted.fleet)] :=
    (begun_of_tick rfl rfl rfl ticked rfl).trans (congrArg (List.cons _) (begun_of_stop rfl rfl))
  rw [called, run_convoy]
  exact begun

end Simulation

end LiveFleet
