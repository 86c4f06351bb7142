/-
This file says what becomes of a schedule that is published. A vehicle that adopts
its entry honours it: it gives up no stop for a parcel that nobody has claimed. A
vehicle that rejects its entry flags the version, and asks for a new snapshot unless
another one has done so for the same version. The request is settled only by handing
over a snapshot, so a version that was flagged is about to be replaced.
-/
import LiveFleet.Proofs.Desk.Sitting
import LiveFleet.Proofs.Run.Deeds

namespace LiveFleet

open Attempt

/-! ### Entries that are honoured -/

/-- The vehicle honours an entry: the stops of the entry are known, and those for unclaimed parcels
are still to be made. -/
structure Load.Honours (ledger : Ledger) (stops : List ParcelId) (load : Load) : Prop where
  known : ∀ stop ∈ stops, (ledger.parcel? stop).isSome = true
  kept : ∀ stop ∈ stops, ledger.Unclaimed stop → stop ∈ load.stops

namespace Load.Honours

variable {ledger after : Ledger} {stops : List ParcelId} {load later : Load}

theorem advances (honours : load.Honours ledger stops) (advances : ledger.Advances after)
    (kept : ∀ stop, ledger.Unclaimed stop → stop ∈ load.stops → stop ∈ later.stops) :
    later.Honours after stops where
  known := fun stop listed => advances.isSome_parcel? (honours.known stop listed)
  kept := fun stop listed unclaimed =>
    have before := advances.unclaimed unclaimed
    kept stop before (honours.kept stop listed before)

theorem enter (honours : load.Honours ledger stops) {new : Parcel}
    (unknown : ledger.parcel? new.id = none) : load.Honours (ledger.enter new) stops where
  known := fun stop listed => Ledger.isSome_parcel?_enter unknown (honours.known stop listed)
  kept := by
    intro stop listed unclaimed
    have differs := Ledger.ne_of_known unknown (honours.known stop listed)
    exact honours.kept stop listed ((Ledger.unclaimed_enter_other differs).1 unclaimed)

theorem opened (honours : load.Honours ledger stops) (time : Nat) :
    load.Honours (ledger.opened time) stops where
  known := fun stop listed => by
    rw [Ledger.isSome_parcel?_opened]
    exact honours.known stop listed
  kept := fun stop listed unclaimed =>
    honours.kept stop listed (Ledger.unclaimed_opened.1 unclaimed)

end Load.Honours

/-- Passing a stop for a claimed parcel gives up none for an unclaimed one. -/
theorem Load.mem_pass {ledger : Ledger} {load : Load} {passed stop : ParcelId}
    (claimed : ledger.Claimed passed) (unclaimed : ledger.Unclaimed stop)
    (listed : stop ∈ load.stops) : stop ∈ (load.pass passed).stops := by
  have differs : stop ≠ passed := fun same => claimed.not_unclaimed (same ▸ unclaimed)
  exact (List.mem_erase_of_ne differs).2 listed

namespace Cab.Deed

variable {Board : Type} {cab reached : Cab Board} {time : Nat}

/-- A driver gives up no stop for an unclaimed parcel. -/
theorem keepsStops (deed : Deed time cab reached) {vehicle : VehicleId} {later : Load}
    (found : reached.world.ledger.load? vehicle = some later) :
    ∃ load, cab.world.ledger.load? vehicle = some load ∧
      ∀ stop, cab.world.ledger.Unclaimed stop → stop ∈ load.stops → stop ∈ later.stops := by
  cases deed with
  | drove ledger =>
    rw [ledger] at found
    exact ⟨later, found, fun _ _ listed => listed⟩
  | skipped _ _ _ listed claimed ledger =>
    rw [ledger] at found
    rcases Ledger.load?_reload_cases found with ⟨rfl, load, before, rfl⟩ | ⟨-, before⟩
    · exact ⟨load, before, fun stop => Load.mem_pass ⟨_, listed, claimed⟩⟩
    · exact ⟨later, before, fun _ _ listed => listed⟩
  | @began _ _ kind _ _ _ _ _ _ ledger =>
    rw [ledger] at found
    cases kind with
    | delivery => exact ⟨later, found, fun _ _ listed => listed⟩
    | pickup =>
      rcases Ledger.load?_reload_cases found with ⟨rfl, load, before, rfl⟩ | ⟨-, before⟩
      · exact ⟨load, before, fun _ _ listed => listed⟩
      · exact ⟨later, before, fun _ _ listed => listed⟩
  | @ended service _ _ aboard _ ledger =>
    have claimed := aboard.claimed rfl
    rw [ledger] at found
    rcases Ledger.load?_reload_cases found with ⟨rfl, middle, ended, rfl⟩ | ⟨differs, ended⟩
    · cases kind : service.kind with
      | pickup =>
        rw [kind] at ended
        exact ⟨middle, ended, fun stop => Load.mem_pass claimed⟩
      | delivery =>
        rw [kind] at ended
        obtain ⟨load, before, rfl⟩ := Ledger.load?_reload_own ended
        exact ⟨load, before, fun stop => Load.mem_pass claimed⟩
    · rw [Ledger.load?_ended_other differs] at ended
      exact ⟨later, ended, fun _ _ listed => listed⟩

/-- A driver that does not look at the board learns of no version, and flags none. -/
theorem versions (deed : Deed time cab reached) :
    reached.courier.vehicle = cab.courier.vehicle ∧
      reached.courier.adopted = cab.courier.adopted ∧ reached.repairs = cab.repairs := by
  cases deed with
  | drove _ courier repairs | skipped _ _ _ _ _ _ courier repairs
  | ended _ _ _ _ courier repairs =>
    rw [courier]
    exact ⟨rfl, rfl, repairs⟩
  | began _ _ _ _ _ _ courier repairs =>
    rcases courier with ⟨_, begun⟩ | same
    · rw [begun]
      exact ⟨rfl, rfl, repairs⟩
    · rw [same]
      exact ⟨rfl, rfl, repairs⟩

end Cab.Deed

/-! ### Entries that are rejected -/

namespace RepairLog

variable {log : RepairLog} {version : Nat}

/-- The newest version is the one flagged last, once it has been flagged. -/
theorem lastFlagged_flag (notNewer : log.lastFlagged ≤ version) :
    (log.flag version).lastFlagged = version := by
  unfold flag
  split
  · omega
  · rfl

/-- Whoever flags a version first asks for a snapshot. -/
theorem requested_flag (first : log.lastFlagged < version) :
    (log.flag version).requested = true := by
  unfold flag
  rw [if_neg (by omega)]

theorem flag_of_flagged (again : version ≤ log.lastFlagged) : log.flag version = log := if_pos again

end RepairLog

/-- Unless its version has been flagged, whoever has adopted what is on the board honours it. -/
def UpToDate (ledger : Ledger) (couriers : List Courier) (flagged : Nat)
    (board : Option Publication) : Prop :=
  ∀ (index : Nat) courier publication stops load, couriers[index]? = some courier →
    board = some publication → courier.adopted = publication.version →
      flagged ≠ publication.version → publication.schedule.entry? courier.vehicle = some stops →
        ledger.load? courier.vehicle = some load → load.Honours ledger stops

namespace UpToDate

variable {ledger after : Ledger} {couriers : List Courier} {flagged : Nat}
  {board : Option Publication}

/-- New parcels and open windows load nothing. -/
theorem of_loads (upToDate : UpToDate ledger couriers flagged board)
    (loads : after.load? = ledger.load?)
    (honours : ∀ stops (load : Load), load.Honours ledger stops → load.Honours after stops) :
    UpToDate after couriers flagged board := by
  intro index courier publication stops load found shown adopted fits listed loaded
  rw [loads] at loaded
  exact honours stops load
    (upToDate index courier publication stops load found shown adopted fits listed loaded)

variable {Board : Type} {cab reached : Cab Board} {index : Nat}

theorem deed (upToDate : UpToDate cab.world.ledger couriers cab.repairs.lastFlagged board)
    (found : couriers[index]? = some cab.courier) {time : Nat} (deed : Cab.Deed time cab reached) :
    UpToDate reached.world.ledger (couriers.set index reached.courier)
      reached.repairs.lastFlagged board := by
  obtain ⟨vehicle, same, repairs⟩ := deed.versions
  intro other driver publication stops later there shown adopted fits listed loaded
  rw [repairs] at fits
  obtain ⟨load, before, kept⟩ := deed.keepsStops loaded
  refine Load.Honours.advances ?_ deed.advances kept
  rcases Courier.set_cases there with ⟨rfl, rfl⟩ | ⟨-, there⟩
  · rw [vehicle] at listed before
    rw [same] at adopted
    exact upToDate index _ publication stops load found shown adopted fits listed before
  · exact upToDate other driver publication stops load there shown adopted fits listed before

/-- A driver that adopts its entry honours it, and one that rejects it flags the version. -/
theorem adoption {read : ReadBoard Board}
    (upToDate : UpToDate cab.world.ledger couriers cab.repairs.lastFlagged (read cab.board).1)
    (crewed : Crewed cab.world.ledger couriers) (found : couriers[index]? = some cab.courier)
    (notNewer : ∀ publication, (read cab.board).1 = some publication →
      cab.repairs.lastFlagged ≤ publication.version)
    (adoption : Cab.Adoption read cab reached) :
    UpToDate reached.world.ledger (couriers.set index reached.courier)
      reached.repairs.lastFlagged (read cab.board).1 := by
  have unchanged : couriers.set index cab.courier = couriers := by
    obtain ⟨inside, same⟩ := List.getElem?_eq_some_iff.1 found
    rw [← same]
    exact List.set_getElem_self inside
  cases adoption with
  | busy | current =>
    rw [unchanged]
    exact upToDate
  | @accepted _ publication stops idle shown _ listed allowed _ ledger courier repairs =>
    rw [ledger, courier, repairs]
    intro other driver latest entry load there shownThen adopted fits listedThen loaded
    have sameParcels : cab.world.ledger.Advances
        (cab.world.ledger.reload cab.courier.vehicle (·.follow stops)) := .of_same rfl
    rcases Courier.set_cases there with ⟨rfl, rfl⟩ | ⟨differs, there⟩
    · cases shown.symm.trans shownThen
      cases listed.symm.trans listedThen
      obtain ⟨before, -, rfl⟩ := Ledger.load?_reload_own loaded
      refine ⟨fun stop member => ?_, fun stop member _ => member⟩
      obtain ⟨known, foundStop, -⟩ := Ledger.allows_iff.1 (allowed stop member)
      exact Option.isSome_of_eq_some foundStop
    · rw [Ledger.load?_reload_other (crewed.apart found there differs)] at loaded
      exact (upToDate other driver latest entry load there shownThen adopted fits listedThen
        loaded).advances sameParcels fun _ _ stop => stop
  | rejected idle shown _ _ _ repairs =>
    intro other driver latest entry load there shownThen adopted fits
    cases shown.symm.trans shownThen
    rw [repairs, RepairLog.lastFlagged_flag (notNewer _ shown)] at fits
    exact absurd rfl fits

end UpToDate

/-! ### Versions that are flagged -/

/-- Nobody is ahead of the board, and a version that was flagged is about to be replaced: a snapshot
is asked for, or a newer one was handed over, or the solver has failed. -/
structure Heeded (couriers : List Courier) (repairs : RepairLog) (session : Session) : Prop where
  noted : ∀ courier ∈ couriers, courier.adopted ≤ session.desk.version
  flagged : repairs.lastFlagged ≤ session.desk.version
  replaced : repairs.lastFlagged = session.desk.version → session.desk.version ≠ 0 →
    repairs.requested = true ∨ session.lastAccepted < session.desk.newest ∨
      session.desk.fault ≠ none

namespace Heeded

open Desk

variable {couriers : List Courier} {repairs : RepairLog} {session : Session}

theorem move (heeded : Heeded couriers repairs session) (step : Move) :
    Heeded couriers repairs (session.step (.move step)) := by
  obtain ⟨newest, healthy, same | ⟨schedule, shown⟩⟩ := move_cases session.desk step
  · have version : (session.desk.move step).version = session.desk.version := by
      rw [Desk.version, same]
      rfl
    have accepted : (session.step (.move step)).lastAccepted = session.lastAccepted :=
      Session.lastAccepted_step_of_same same
    refine ⟨fun courier member => ?_, ?_, fun isFlagged isShown => ?_⟩
    · exact Nat.le_trans (heeded.noted courier member) (Nat.le_of_eq version.symm)
    · exact Nat.le_trans heeded.flagged (Nat.le_of_eq version.symm)
    · have reason := heeded.replaced (isFlagged.trans version) fun none =>
        isShown (version.trans none)
      rw [accepted]
      refine reason.imp_right (Or.imp (fun behind => ?_) fun faulty repaired => ?_)
      · exact Nat.lt_of_lt_of_le behind (Nat.le_of_eq newest.symm)
      · exact faulty (healthy repaired)
  · -- The next version is newer than all that was adopted or flagged.
    have version : (session.desk.move step).version = session.desk.version + 1 := by
      rw [Desk.version_of_published shown]
    have onward : session.desk.version < (session.desk.move step).version := by omega
    refine ⟨fun courier member => ?_, ?_, fun isFlagged _ => ?_⟩
    · exact Nat.le_trans (heeded.noted courier member) (Nat.le_of_lt onward)
    · exact Nat.le_trans heeded.flagged (Nat.le_of_lt onward)
    · have late : session.desk.version < repairs.lastFlagged := isFlagged.symm ▸ onward
      exact absurd heeded.flagged (Nat.not_le_of_lt late)

/-- A snapshot that is handed over settles the request for one. -/
theorem handed (heeded : Heeded couriers repairs session) (retains : session.desk.Retains none)
    (published : session.Published) (snapshot : Snapshot) :
    Heeded couriers repairs.takeRequest.2 (session.step (.dispatch snapshot)) := by
  rcases retains.handed_cases snapshot with ⟨faulty, same, -⟩ | ⟨newest, board, -⟩
  · have desk : (session.step (.dispatch snapshot)).desk = session.desk := same
    refine ⟨?_, ?_, fun _ _ => .inr (.inr ?_)⟩ <;> rw [desk]
    · exact heeded.noted
    · exact heeded.flagged
    · exact faulty
  · have version : (session.step (.dispatch snapshot)).desk.version = session.desk.version :=
      congrArg (fun board => (board.map Publication.version).getD 0) board
    refine ⟨?_, ?_, fun _ _ => .inr (.inl ?_)⟩
    · rw [version]
      exact heeded.noted
    · rw [version]
      exact heeded.flagged
    · have begun := Nat.le_trans published.lastAccepted_le retains.inLine.running_le_newest
      rw [Session.lastAccepted_step_of_same board]
      exact Nat.lt_of_le_of_lt begun (Nat.lt_of_lt_of_le (Nat.lt_succ_self _)
        (Nat.le_of_eq newest.symm))

/-- A driver has looked at the version on the board. -/
theorem set (heeded : Heeded couriers repairs session) {index : Nat} {courier : Courier}
    (noted : courier.adopted ≤ session.desk.version) :
    Heeded (couriers.set index courier) repairs session where
  noted := by
    intro other member
    rcases List.mem_or_eq_of_mem_set member with before | rfl
    · exact heeded.noted other before
    · exact noted
  flagged := heeded.flagged
  replaced := heeded.replaced

/-- The next version is newer than all that was adopted. -/
theorem upToDate_move (heeded : Heeded couriers repairs session) {ledger : Ledger} {flagged : Nat}
    (upToDate : UpToDate ledger couriers flagged session.desk.published) (step : Move) :
    UpToDate ledger couriers flagged (session.desk.move step).published := by
  rcases (move_cases session.desk step).2.2 with same | ⟨schedule, shown⟩
  · rw [same]
    exact upToDate
  · rw [shown]
    intro index courier publication stops load found shownThen adopted
    cases shownThen
    have noted := heeded.noted courier (List.mem_of_getElem? found)
    rw [adopted] at noted
    exact absurd noted (Nat.not_succ_le_self _)

/-- The version on the board may be flagged, also more than once. -/
theorem flag (heeded : Heeded couriers repairs session) :
    Heeded couriers (repairs.flag session.desk.version) session where
  noted := heeded.noted
  flagged := Nat.le_of_eq (RepairLog.lastFlagged_flag heeded.flagged)
  replaced := by
    intro _ isShown
    rcases Nat.lt_or_ge repairs.lastFlagged session.desk.version with first | again
    · exact .inl (RepairLog.requested_flag first)
    · rw [RepairLog.flag_of_flagged again]
      exact heeded.replaced (Nat.le_antisymm heeded.flagged again) isShown

theorem adoption {Board : Type} {cab reached : Cab Board} {read : ReadBoard Board} {index : Nat}
    (heeded : Heeded couriers cab.repairs session) (found : couriers[index]? = some cab.courier)
    (board : (read cab.board).1 = session.desk.published)
    (adoption : Cab.Adoption read cab reached) :
    Heeded (couriers.set index reached.courier) reached.repairs session := by
  cases adoption with
  | busy | current => exact heeded.set (heeded.noted _ (List.mem_of_getElem? found))
  | accepted _ shown _ _ _ _ _ courier repairs =>
    have version := version_of_published (board.symm.trans shown)
    rw [courier, repairs]
    exact heeded.set (Nat.le_of_eq version.symm)
  | rejected _ shown _ _ courier repairs =>
    have version := version_of_published (board.symm.trans shown)
    rw [courier, repairs, ← version]
    exact heeded.flag.set (Nat.le_refl _)

end Heeded

end LiveFleet
