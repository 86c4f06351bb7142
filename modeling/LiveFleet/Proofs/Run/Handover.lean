/-
This file takes one tick apart, for whatever becomes of it: the announcer makes new
parcels known, the liaison hands over a snapshot if there is news, the drivers flag
the versions that do not fit, and the liaison hands over one more snapshot if they
have asked for it. Each part is described by the parcels that have been reported, by
the request for a snapshot, and by the snapshots that the desk takes.
-/
import LiveFleet.Proofs.Desk.Intake
import LiveFleet.Proofs.Run.Coverage
import LiveFleet.Proofs.Run.Misfits
import LiveFleet.Proofs.Run.Refusals
import LiveFleet.Proofs.Run.Roster
import LiveFleet.Proofs.Run.Timeline

namespace LiveFleet

open Attempt

/-! ### New parcels -/

namespace Fleet

variable {Surroundings : Type} {worker : Worker Surroundings} {lapse : TimeLapse}
  {fleet : Fleet Surroundings}

/-- The fleet after the announcer has done its part. -/
def announced (lapse : TimeLapse) (fleet : Fleet Surroundings) : Fleet Surroundings :=
  (announcing.before lapse fleet).2

/-- The parcels that become known in a tick. -/
def newParcels (lapse : TimeLapse) (fleet : Fleet Surroundings) : List Parcel :=
  (fleet.announced lapse).scene.world.parcels.drop fleet.scene.world.parcels.length

/-- The new parcels are those of the orders that are due, and nobody has claimed them. -/
theorem newParcels_spec (lapse : TimeLapse) (fleet : Fleet Surroundings) :
    (fleet.newParcels lapse).map Parcel.order = fleet.announcer.due lapse.finish ∧
      ∀ parcel ∈ fleet.newParcels lapse, parcel.state.isUnassigned = true := by
  obtain ⟨new, parcels, orders, unassigned⟩ :=
    Announcer.announceAll_parcels (fleet.announcer.due lapse.finish) fleet.scene.world
  let opened := fun parcel : Parcel =>
    if World.opensBy lapse.start parcel then { parcel with state := .available } else parcel
  have same : fleet.newParcels lapse = new.map opened := by
    show ((Announcer.announceAll fleet.scene.world _).parcels.map opened).drop _ = _
    rw [parcels, List.map_append, List.drop_left' (List.length_map _)]
  rw [same, List.map_map]
  constructor
  · rw [← orders]
    refine List.map_congr_left fun parcel _ => ?_
    show (opened parcel).order = _
    dsimp only [opened]
    split <;> rfl
  · intro parcel member
    obtain ⟨before, inNew, rfl⟩ := List.mem_map.1 member
    dsimp only [opened]
    split
    · rfl
    · exact unassigned before inNew

theorem length_announced (lapse : TimeLapse) (fleet : Fleet Surroundings) :
    (fleet.announced lapse).scene.world.parcels.length =
      fleet.scene.world.parcels.length + (fleet.newParcels lapse).length := by
  have grown : fleet.scene.world.parcels.length ≤
      (fleet.announced lapse).scene.world.parcels.length := by
    obtain ⟨new, parcels, -⟩ :=
      Announcer.announceAll_parcels (fleet.announcer.due lapse.finish) fleet.scene.world
    show _ ≤ ((Announcer.announceAll fleet.scene.world _).parcels.map _).length
    rw [List.length_map, parcels, List.length_append]
    exact Nat.le_add_right _ _
  rw [newParcels, List.length_drop]
  omega

/-- A snapshot of the fleet after the announcements lists every new parcel. -/
theorem listed_of_mem_newParcels {parcel : Parcel} (new : parcel ∈ fleet.newParcels lapse)
    (time : Nat) :
    parcel.view ∈ (Snapshot.capture (fleet.announced lapse).scene.world time).available :=
  List.mem_map_of_mem (List.mem_filter.2
    ⟨List.mem_of_mem_drop new, (newParcels_spec lapse fleet).2 parcel new⟩)

/-! ### The liaison -/

/-- There is news for the solver: parcels that have not been reported, or a request. -/
def HasNews (fleet : Fleet Surroundings) : Prop :=
  fleet.reported < fleet.scene.world.parcels.length ∨ fleet.repairs.requested = true

instance : Decidable fleet.HasNews := inferInstanceAs (Decidable (_ ∨ _))

/-- What the liaison does when all goes well: the desk takes these snapshots, and a request is
settled. -/
structure Hands (fleet : Fleet Surroundings) (snapshots : List Snapshot)
    (reached : Fleet Surroundings) : Prop where
  takes : fleet.desk.Takes snapshots reached.desk
  settled : reached.repairs = fleet.repairs.takeRequest.2
  scene : reached.scene = fleet.scene
  reported : reached.reported =
    if snapshots = [] then fleet.reported else fleet.scene.world.parcels.length

/-- What the liaison does when the solver has failed: the desk takes nothing. -/
structure Fails (fleet reached : Fleet Surroundings) : Prop where
  takes : fleet.desk.Takes [] reached.desk
  faulty : reached.desk.fault ≠ none
  repairs : reached.repairs.takeRequest.2 = fleet.repairs.takeRequest.2
  asks : reached.repairs.requested.toNat ≤ fleet.repairs.requested.toNat

/-- The number of snapshots that have been handed over, with the one that is asked for. -/
def ordered (fleet : Fleet Surroundings) : Nat :=
  fleet.desk.newest + fleet.repairs.requested.toNat

section

variable {snapshots : List Snapshot} {reached : Fleet Surroundings}

theorem Hands.ordered (hands : fleet.Hands snapshots reached) (retains : fleet.desk.Retains none) :
    reached.ordered = fleet.desk.newest + snapshots.length := by
  rw [Fleet.ordered, hands.takes.newest retains, hands.settled]
  rfl

theorem Hands.repairs (hands : fleet.Hands snapshots reached) :
    reached.repairs.repairs = fleet.repairs.repairs := by
  rw [hands.settled]
  rfl

/-- If all parcels have been reported, they still are. -/
theorem Hands.all_reported (hands : fleet.Hands snapshots reached)
    (all : fleet.reported = fleet.scene.world.parcels.length) :
    reached.reported = reached.scene.world.parcels.length := by
  rw [hands.reported, hands.scene]
  split
  · exact all
  · rfl

theorem Fails.ordered_le (fails : fleet.Fails reached) (retains : fleet.desk.Retains none) :
    reached.ordered ≤ fleet.ordered := by
  rw [Fleet.ordered, fails.takes.newest retains]
  exact Nat.add_le_add_left fails.asks _

theorem Fails.repairs_eq (fails : fleet.Fails reached) :
    reached.repairs.repairs = fleet.repairs.repairs := by
  have same := congrArg RepairLog.repairs fails.repairs
  exact same

end

theorem takes_turn (worker : Worker Surroundings) (fleet : Fleet Surroundings) :
    fleet.desk.Takes [] (turn worker fleet).2.desk := .moves _ _

theorem Hands.turned {snapshots : List Snapshot} {reached : Fleet Surroundings}
    (hands : (turn worker fleet).2.Hands snapshots reached) : fleet.Hands snapshots reached :=
  ⟨(takes_turn worker fleet).trans hands.takes, hands.settled, hands.scene, hands.reported⟩

theorem Fails.turned {reached : Fleet Surroundings}
    (fails : (turn worker fleet).2.Fails reached) : fleet.Fails reached :=
  ⟨(takes_turn worker fleet).trans fails.takes, fails.faulty, fails.repairs, fails.asks⟩

theorem Hands.thenTurned {snapshots : List Snapshot} {reached : Fleet Surroundings}
    (hands : fleet.Hands snapshots reached) :
    fleet.Hands snapshots (turn worker reached).2 := by
  have takes := hands.takes.trans (takes_turn worker reached)
  rw [List.append_nil] at takes
  exact ⟨takes, hands.settled, hands.scene, hands.reported⟩

/-- A report goes well if the solver has not failed. -/
theorem report_hands (worker : Worker Surroundings) (retains : fleet.desk.Retains none)
    (time : Nat) :
    ((report worker time { fleet with repairs := fleet.repairs.takeRequest.2 }).1 = .ok () ∧
        fleet.Hands [.capture fleet.scene.world time]
          (report worker time { fleet with repairs := fleet.repairs.takeRequest.2 }).2) ∨
      ((report worker time { fleet with repairs := fleet.repairs.takeRequest.2 }).1 ≠ .ok () ∧
        fleet.desk.fault ≠ none ∧
        fleet.Fails
          (report worker time { fleet with repairs := fleet.repairs.takeRequest.2 }).2) := by
  cases healthy : fleet.desk.fault with
  | none =>
    have handed : fleet.Hands [.capture fleet.scene.world time] (fleet.handedOver time) :=
      ⟨.dispatch retains healthy _, rfl, rfl, rfl⟩
    rcases report_cases worker fleet time with ⟨error, refused, -⟩ | taken
    · have stored := (retains.fault_of_dispatch (Prod.ext refused rfl)).1
      rw [healthy] at stored
      cases stored
    · rw [taken]
      exact .inl ⟨rfl, handed.thenTurned⟩
  | some error =>
    have same : Desk.dispatch (.capture fleet.scene.world time) fleet.desk =
        (.error error, fleet.desk) := by
      unfold Desk.dispatch
      rw [retains.isOpen, healthy]
      rfl
    have reported : report worker time { fleet with repairs := fleet.repairs.takeRequest.2 } =
        (.error (.refused (.solver error)), fleet.handedOver time) := by
      rw [report, bind_of_ok (modify_apply _ _), get_bind_apply, bind_apply]
      unfold within handedOver
      dsimp only
      rw [same]
    rw [reported]
    refine .inr ⟨by simp, Option.some_ne_none error, ?_, ?_, rfl, Nat.zero_le _⟩
    · show fleet.desk.Takes [] (Desk.dispatch _ fleet.desk).2
      rw [same]
      exact .refl _
    · show (Desk.dispatch _ fleet.desk).2.fault ≠ none
      rw [same, healthy]
      exact Option.some_ne_none error

/-- A turn of the worker mends no fault. -/
theorem healthy_of_turn (retains : fleet.desk.Retains none)
    (healthy : (turn worker fleet).2.desk.fault = none) : fleet.desk.fault = none := by
  by_cases faulty : fleet.desk.fault = none
  · exact faulty
  · have turned : (turn worker fleet).2.desk.Retains fleet.desk.fault :=
      retains_turn fleet retains.now
    exact (turned.kept faulty).symm.trans healthy

/-- The liaison at the start of a tick hands over a snapshot if there is news, unless the solver has
failed. -/
theorem reportNews_hands (retains : fleet.desk.Retains none) (lapse : TimeLapse) :
    ((reportNews worker lapse fleet).1 = .ok () ∧ fleet.desk.fault = none ∧
        fleet.Hands (if fleet.HasNews then [.capture fleet.scene.world lapse.start] else [])
          (reportNews worker lapse fleet).2) ∨
      ((reportNews worker lapse fleet).1 ≠ .ok () ∧
        fleet.Fails (reportNews worker lapse fleet).2) := by
  have turned : (turn worker fleet).2.desk.Retains none := retains_turn fleet retains
  cases faulty : (turn worker fleet).2.desk.fault with
  | some error =>
    rw [reportNews_of_fault faulty]
    refine .inr ⟨by simp, takes_turn worker fleet, ?_, rfl, Nat.le_refl _⟩
    rw [faulty]
    exact Option.some_ne_none error
  | none =>
    have healthy := healthy_of_turn retains faulty
    rw [reportNews_of_healthy faulty]
    by_cases news : fleet.HasNews
    · have wanted : (fleet.reported < fleet.scene.world.parcels.length ||
          fleet.repairs.requested) = true := by
        rw [Bool.or_eq_true, decide_eq_true_eq]
        exact news
      rw [if_pos wanted, if_pos news]
      rcases report_hands worker turned lapse.start with ⟨went, hands⟩ | ⟨-, stored, -⟩
      · exact .inl ⟨went, healthy, hands.turned⟩
      · exact absurd faulty stored
    · have unwanted : ¬ (fleet.reported < fleet.scene.world.parcels.length ||
          fleet.repairs.requested) = true := by
        rw [Bool.or_eq_true, decide_eq_true_eq]
        exact news
      rw [if_neg unwanted, if_neg news]
      exact .inl ⟨rfl, healthy, takes_turn worker fleet, rfl, rfl, rfl⟩

/-- The liaison at the end of a tick hands over a snapshot if one is asked for, unless the solver
has failed. -/
theorem reportRepairs_hands (retains : fleet.desk.Retains none) (lapse : TimeLapse) :
    ((reportRepairs worker lapse fleet).1 = .ok () ∧
        fleet.Hands
          (if fleet.repairs.requested then [.capture fleet.scene.world lapse.finish] else [])
          (reportRepairs worker lapse fleet).2) ∨
      ((reportRepairs worker lapse fleet).1 ≠ .ok () ∧
        fleet.Fails (reportRepairs worker lapse fleet).2) := by
  have turned : (turn worker fleet).2.desk.Retains none := retains_turn fleet retains
  rw [reportRepairs_apply]
  split
  · have reported := report_hands worker turned lapse.finish
    rw [bind_apply]
    generalize same : report worker lapse.finish _ = outcome at reported
    have same : report worker lapse.finish { (turn worker fleet).2 with
      repairs := fleet.repairs.takeRequest.2 } = _ := same
    rw [same]
    rcases outcome with ⟨failure | _, middle⟩
    · rcases reported with ⟨went, -⟩ | ⟨-, -, fails⟩
      · cases went
      · exact .inr ⟨by simp, fails.turned⟩
    · rcases reported with ⟨-, hands⟩ | ⟨refused, -, -⟩
      · exact .inl ⟨rfl, hands.turned.thenTurned⟩
      · exact absurd rfl refused
  · have hands : fleet.Hands []
        { (turn worker fleet).2 with repairs := fleet.repairs.takeRequest.2 } :=
      ⟨takes_turn worker fleet, rfl, rfl, rfl⟩
    exact .inl ⟨rfl, hands.thenTurned⟩

theorem hands_of_closed {reached : Fleet Surroundings} (retains : fleet.desk.Retains none)
    (closed : reportRepairs worker lapse fleet = (.ok (), reached)) :
    fleet.Hands (if fleet.repairs.requested then [.capture fleet.scene.world lapse.finish] else [])
      reached := by
  have ended : (reportRepairs worker lapse fleet).1 = .ok () ∧ _ ∨ _ :=
    reportRepairs_hands retains lapse
  rw [closed] at ended
  rcases ended with ⟨-, hands⟩ | ⟨refused, -⟩
  · exact hands
  · exact absurd rfl refused

/-- At the end of a tick no more is handed over than was asked for. -/
theorem ordered_reportRepairs_le (retains : fleet.desk.Retains none) (lapse : TimeLapse) :
    (reportRepairs worker lapse fleet).2.ordered ≤ fleet.ordered ∧
      (reportRepairs worker lapse fleet).2.repairs.repairs = fleet.repairs.repairs := by
  rcases reportRepairs_hands retains lapse with ⟨-, hands⟩ | ⟨-, fails⟩
  · refine ⟨?_, hands.repairs⟩
    rw [hands.ordered retains, ordered]
    cases fleet.repairs.requested with
    | true => exact Nat.le_refl _
    | false => exact Nat.le_refl _
  · exact ⟨fails.ordered_le retains, fails.repairs_eq⟩

/-! ### The drivers -/

/-- What the drivers leave alone: they make no parcel known, report none, and hand nothing over. -/
structure Drives (fleet reached : Fleet Surroundings) : Prop where
  crewed : reached.IsCrewed
  takes : fleet.desk.Takes [] reached.desk
  reported : reached.reported = fleet.reported
  parcels : reached.scene.world.parcels.length = fleet.scene.world.parcels.length

/-- Parcels that move on are as many as before. -/
theorem length_of_advances {world after : World} (advances : world.ledger.Advances after.ledger) :
    after.parcels.length = world.parcels.length := by
  have present : ∀ index, index < after.parcels.length ↔ index < world.parcels.length := by
    intro index
    have known : (world.ledger.parcel? ⟨index⟩).isSome = true ↔ index < world.parcels.length := by
      show (world.parcels[index]?).isSome = true ↔ _
      simp
    have knownThen : (after.ledger.parcel? ⟨index⟩).isSome = true ↔
        index < after.parcels.length := by
      show (after.parcels[index]?).isSome = true ↔ _
      simp
    rw [← known, ← knownThen]
    refine ⟨fun later => ?_, advances.isSome_parcel?⟩
    obtain ⟨parcel, there⟩ := Option.isSome_iff_exists.1 later
    obtain ⟨before, found, -⟩ := advances.backward there
    exact Option.isSome_of_eq_some found
  have more := present world.parcels.length
  have fewer := present after.parcels.length
  omega

theorem drives_driveAll (crewed : fleet.IsCrewed) (worker : Worker Surroundings)
    (lapse : TimeLapse) (indices : List Nat) :
    fleet.Drives (driveAll worker lapse indices fleet).2 := by
  have each : ∀ index, Maintains fleet.Drives (driveOne worker index lapse) := by
    intro index
    refine maintains_driving (fun _ drives => drives.crewed) ?_ ?_ ?_
    · exact fun middle drives => ⟨drives.crewed,
        drives.takes.trans (takes_turn worker middle), drives.reported, drives.parcels⟩
    · rintro middle courier cab found adoption drives
      refine ⟨adoption.crewed drives.crewed found, ?_, drives.reported, ?_⟩
      · show fleet.desk.Takes [] cab.board.1
        rw [glance_board adoption]
        exact drives.takes
      · exact (length_of_advances (.of_same adoption.parcels.2)).trans drives.parcels
    · rintro middle courier time cab found - deed drives
      refine ⟨deed.crewed drives.crewed found, ?_, drives.reported, ?_⟩
      · show fleet.desk.Takes [] cab.board.1
        rw [deed.board]
        exact drives.takes
      · exact (length_of_advances deed.advances).trans drives.parcels
  refine maintains_forM (fun member isMember => ?_) fleet
    ⟨crewed, .refl _, rfl, rfl⟩
  obtain ⟨index, -, rfl⟩ := List.mem_map.1 isMember
  exact each index

/-! ### A whole tick -/

/-- The fleet after the liaison has done its part at the start of a tick. -/
def informed (worker : Worker Surroundings) (lapse : TimeLapse) (fleet : Fleet Surroundings) :
    Fleet Surroundings := (reportNews worker lapse (fleet.announced lapse)).2

/-- The fleet after the drivers have done their part in a tick. -/
def driven (worker : Worker Surroundings) (vehicles : Nat) (lapse : TimeLapse)
    (fleet : Fleet Surroundings) : Fleet Surroundings :=
  (driveAll worker lapse (List.range vehicles) (fleet.informed worker lapse)).2

/-- The versions whose checks fail in a tick, in order. -/
def misfits (worker : Worker Surroundings) (vehicles : Nat) (lapse : TimeLapse)
    (fleet : Fleet Surroundings) : List Nat :=
  match (reportNews worker lapse (fleet.announced lapse)).1 with
  | .error _ => []
  | .ok () => (fleet.informed worker lapse).misfitsOfAll worker lapse (List.range vehicles)

/-- The drivers have nothing to do at the end of a tick. -/
theorem forM_after_driving (lapse : TimeLapse) (indices : List Nat) (fleet : Fleet Surroundings) :
    (indices.map (driving worker)).forM (fun member => member.after lapse) fleet =
      (.ok (), fleet) := by
  induction indices with
  | nil => rfl
  | cons index rest inductionHypothesis => exact inductionHypothesis

/-- After the announcements a tick goes from the liaison to the drivers, and back to the liaison. -/
theorem notify_members (worker : Worker Surroundings) (vehicles : Nat) (lapse : TimeLapse)
    (fleet : Fleet Surroundings) :
    Listener.notify (members worker vehicles ++ []) lapse fleet =
      (reportNews worker lapse >>= fun _ => driveAll worker lapse (List.range vehicles) >>= fun _ =>
        reportRepairs worker lapse) (fleet.announced lapse) := by
  have begins : (members worker vehicles).forM (fun member => member.before lapse) fleet =
      (reportNews worker lapse >>= fun _ => driveAll worker lapse (List.range vehicles))
        (fleet.announced lapse) := rfl
  have ends : ∀ reached : Fleet Surroundings,
      (members worker vehicles).forM (fun member => member.after lapse) reached =
        reportRepairs worker lapse reached := by
    intro reached
    show (reportRepairs worker lapse >>= fun _ => List.forM _ _) reached = _
    rw [bind_apply]
    rcases reportRepairs worker lapse reached with ⟨_ | _, closed⟩
    · rfl
    · exact forM_after_driving lapse (List.range vehicles) closed
  rw [List.append_nil, Listener.notify, bind_bind_apply, bind_apply, bind_apply, begins]
  generalize (reportNews worker lapse >>= fun _ => driveAll worker lapse (List.range vehicles))
    (fleet.announced lapse) = outcome
  rcases outcome with ⟨_ | _, reached⟩
  · rfl
  · exact ends reached

/-- A tick in which the drivers fail. -/
theorem tick_of_drivers_failed {vehicles : Nat} {informed reached : Fleet Surroundings}
    {failure : Failure Refusal}
    (told : reportNews worker lapse (fleet.announced lapse) = (.ok (), informed))
    (drove : driveAll worker lapse (List.range vehicles) informed = (.error failure, reached)) :
    tick worker vehicles lapse fleet = (.error (failure.map (.listener lapse.tick)), reached) := by
  unfold tick TickLoop.runTick within
  dsimp only [id]
  rw [notify_members, bind_of_ok told, bind_of_failed drove]

/-- A tick in which every part ends well. -/
theorem tick_of_parts {vehicles : Nat} {informed driven reached : Fleet Surroundings}
    (told : reportNews worker lapse (fleet.announced lapse) = (.ok (), informed))
    (drove : driveAll worker lapse (List.range vehicles) informed = (.ok (), driven))
    (closed : reportRepairs worker lapse driven = (.ok (), reached)) :
    tick worker vehicles lapse fleet = (.ok (), reached) := by
  unfold tick TickLoop.runTick within
  dsimp only [id]
  rw [notify_members, bind_of_ok told, bind_of_ok drove, closed]

/-- A tick ends with the liaison, with the drivers, or with the liaison at its end. -/
theorem tick_cases (worker : Worker Surroundings) (vehicles : Nat) (lapse : TimeLapse)
    (fleet : Fleet Surroundings) :
    ((reportNews worker lapse (fleet.announced lapse)).1 ≠ .ok () ∧
        (tick worker vehicles lapse fleet).1 ≠ .ok () ∧
        (tick worker vehicles lapse fleet).2 = fleet.informed worker lapse) ∨
      (reportNews worker lapse (fleet.announced lapse)).1 = .ok () ∧
        ((tick worker vehicles lapse fleet).1 ≠ .ok () ∧
            (tick worker vehicles lapse fleet).2 = fleet.driven worker vehicles lapse ∨
          ((tick worker vehicles lapse fleet).1 = .ok () ↔
              (reportRepairs worker lapse (fleet.driven worker vehicles lapse)).1 = .ok ()) ∧
            (tick worker vehicles lapse fleet).2 =
              (reportRepairs worker lapse (fleet.driven worker vehicles lapse)).2) := by
  unfold tick TickLoop.runTick within driven informed
  dsimp only [id]
  rw [notify_members, bind_apply]
  rcases reportNews worker lapse (fleet.announced lapse) with ⟨_ | _, informed⟩
  · exact .inl ⟨by simp, by simp, rfl⟩
  · refine .inr ⟨rfl, ?_⟩
    dsimp only
    rw [bind_apply]
    rcases driveAll worker lapse (List.range vehicles) informed with ⟨_ | _, driven⟩
    · exact .inl ⟨by simp, rfl⟩
    · refine .inr ?_
      dsimp only
      rcases reportRepairs worker lapse driven with ⟨_ | _, closed⟩
      · exact ⟨by simp, rfl⟩
      · exact ⟨⟨fun _ => rfl, fun _ => rfl⟩, rfl⟩

/-- In a tick that ends well the liaison has done its part twice. -/
theorem parts_of_ok {vehicles : Nat} {reached : Fleet Surroundings}
    (ran : tick worker vehicles lapse fleet = (.ok (), reached)) :
    (reportNews worker lapse (fleet.announced lapse)).1 = .ok () ∧
      reportRepairs worker lapse (fleet.driven worker vehicles lapse) = (.ok (), reached) := by
  have went : (tick worker vehicles lapse fleet).1 = .ok () := congrArg Prod.fst ran
  rcases tick_cases worker vehicles lapse fleet with
    ⟨-, failed, -⟩ | ⟨told, ⟨failed, -⟩ | ⟨closes, ends⟩⟩
  · exact absurd went failed
  · exact absurd went failed
  · refine ⟨told, Prod.ext (closes.1 went) ?_⟩
    rw [← ends, ran]

section Parts

variable (crewed : fleet.IsCrewed) (retains : fleet.desk.Retains none)

include crewed in
theorem isCrewed_informed (worker : Worker Surroundings) (lapse : TimeLapse) :
    (fleet.informed worker lapse).IsCrewed := by
  have announced : (fleet.announced lapse).IsCrewed :=
    maintains_announcing (fun _ _ _ crewed => crewed) (fun _ _ _ crewed => crewed.of_world rfl)
      (fun _ crewed => crewed.of_world rfl) fleet crewed
  exact maintains_reportNews (fun _ crewed => crewed) (fun _ _ crewed => crewed) lapse _ announced

include crewed in
theorem drives_driven (worker : Worker Surroundings) (vehicles : Nat) (lapse : TimeLapse) :
    (fleet.informed worker lapse).Drives (fleet.driven worker vehicles lapse) :=
  drives_driveAll (isCrewed_informed crewed worker lapse) worker lapse _

include retains in
theorem hands_informed (told : (reportNews worker lapse (fleet.announced lapse)).1 = .ok ()) :
    fleet.desk.fault = none ∧ (fleet.announced lapse).Hands
      (if (fleet.announced lapse).HasNews then
        [.capture (fleet.announced lapse).scene.world lapse.start] else [])
      (fleet.informed worker lapse) := by
  have announced : (fleet.announced lapse).desk.Retains none := retains
  rcases reportNews_hands announced lapse with ⟨-, healthy, hands⟩ | ⟨refused, -⟩
  · exact ⟨healthy, hands⟩
  · exact absurd told refused

include retains in
theorem fails_informed (refused : (reportNews worker lapse (fleet.announced lapse)).1 ≠ .ok ()) :
    (fleet.announced lapse).Fails (fleet.informed worker lapse) := by
  have announced : (fleet.announced lapse).desk.Retains none := retains
  rcases reportNews_hands announced lapse with ⟨told, -⟩ | ⟨-, fails⟩
  · exact absurd told refused
  · exact fails

include crewed retains

theorem retains_driven (told : (reportNews worker lapse (fleet.announced lapse)).1 = .ok ())
    (vehicles : Nat) : (fleet.driven worker vehicles lapse).desk.Retains none := by
  have announced : (fleet.announced lapse).desk.Retains none := retains
  have hands := (hands_informed retains told).2
  exact (drives_driven crewed worker vehicles lapse).takes.retains (hands.takes.retains announced)

/-- A tick flags the versions whose checks fail in it, whatever becomes of it. -/
theorem repairs_tick (vehicles : Nat) :
    (tick worker vehicles lapse fleet).2.repairs.takeRequest.2 =
      (fleet.repairs.flagAll (fleet.misfits worker vehicles lapse)).takeRequest.2 := by
  rcases tick_cases worker vehicles lapse fleet with ⟨refused, -, reached⟩ | ⟨told, rest⟩
  · have none : fleet.misfits worker vehicles lapse = [] := by
      unfold misfits
      split
      · rfl
      · rename_i told
        exact absurd told refused
    rw [reached, none]
    exact (fails_informed retains refused).repairs
  · have all : fleet.misfits worker vehicles lapse =
        (fleet.informed worker lapse).misfitsOfAll worker lapse (List.range vehicles) := by
      rw [misfits, told]
    have flagged : (fleet.driven worker vehicles lapse).repairs =
        (fleet.informed worker lapse).repairs.flagAll (fleet.misfits worker vehicles lapse) := by
      rw [all]
      exact driveAll_repairs (List.range vehicles)
    have settled : (fleet.informed worker lapse).repairs = fleet.repairs.takeRequest.2 :=
      (hands_informed retains told).2.settled
    have driven : (fleet.driven worker vehicles lapse).repairs.takeRequest.2 =
        (fleet.repairs.flagAll (fleet.misfits worker vehicles lapse)).takeRequest.2 := by
      rw [flagged, settled]
      exact RepairLog.takeRequest_flagAll _ rfl
    rcases rest with ⟨-, reached⟩ | ⟨-, reached⟩
    · rw [reached, driven]
    · rw [reached, ← driven]
      rcases reportRepairs_hands (retains_driven crewed retains told vehicles) lapse with
        ⟨-, hands⟩ | ⟨-, fails⟩
      · rw [hands.settled]
        rfl
      · exact fails.repairs

end Parts

end Fleet

end LiveFleet
