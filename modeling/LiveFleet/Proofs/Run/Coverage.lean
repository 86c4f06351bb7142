/-
This file proves that no parcel is forgotten. The newest snapshot shows every parcel
that nobody has claimed, and its answer gives each of them to a vehicle. If there is
no answer yet, the snapshot is outstanding. If there is one, the vehicle has yet to
look at it, or it honours its entry, or it has rejected its entry. Then the version
is flagged, and a newer snapshot has been handed over by the end of the tick: by then
nobody asks for one any more.
-/
import LiveFleet.Proofs.Run.Adoption
import LiveFleet.Proofs.Run.Stowing

namespace LiveFleet

open Attempt

/-! ### What the solver has been told -/

/-- The parcels that were reported are known, and those of them that are unclaimed are in the newest
snapshot. -/
structure Informed (ledger : Ledger) (reported : Nat) (session : Session) : Prop where
  known : ∀ parcel : ParcelId, parcel.index < reported → (ledger.parcel? parcel).isSome = true
  shown : session.desk.fault = none → ∀ parcel : ParcelId, parcel.index < reported →
    ledger.Unclaimed parcel →
      ∃ snapshot, session.snapshots.getLast? = some snapshot ∧ parcel ∈ snapshot.unclaimed

namespace Informed

open Desk

variable {ledger after : Ledger} {reported : Nat} {session : Session}

theorem advances (informed : Informed ledger reported session) (advances : ledger.Advances after) :
    Informed after reported session where
  known := fun parcel inside => advances.isSome_parcel? (informed.known parcel inside)
  shown := fun healthy parcel inside unclaimed =>
    informed.shown healthy parcel inside (advances.unclaimed unclaimed)

theorem enter (informed : Informed ledger reported session) {new : Parcel}
    (unknown : ledger.parcel? new.id = none) : Informed (ledger.enter new) reported session where
  known := fun parcel inside => Ledger.isSome_parcel?_enter unknown (informed.known parcel inside)
  shown := by
    intro healthy parcel inside unclaimed
    have differs := Ledger.ne_of_known unknown (informed.known parcel inside)
    exact informed.shown healthy parcel inside ((Ledger.unclaimed_enter_other differs).1 unclaimed)

theorem opened (informed : Informed ledger reported session) (time : Nat) :
    Informed (ledger.opened time) reported session where
  known := fun parcel inside => by
    rw [Ledger.isSome_parcel?_opened]
    exact informed.known parcel inside
  shown := fun healthy parcel inside unclaimed =>
    informed.shown healthy parcel inside (Ledger.unclaimed_opened.1 unclaimed)

theorem move (informed : Informed ledger reported session) (step : Move) :
    Informed ledger reported (session.step (.move step)) where
  known := informed.known
  shown := by
    rw [Session.step_move_snapshots]
    exact fun healthy => informed.shown ((move_cases session.desk step).2.1 healthy)

/-- A snapshot that is handed over shows whatever is unclaimed. -/
theorem handed {world : World} (laden : Laden world.ledger) (retains : session.desk.Retains none)
    (time : Nat) :
    Informed world.ledger world.parcels.length
      (session.step (.dispatch (.capture world time))) where
  known := by
    intro parcel inside
    show (world.parcels[parcel.index]?).isSome = true
    rw [List.getElem?_eq_getElem inside]
    rfl
  shown := by
    intro healthy parcel _ unclaimed
    rcases retains.handed_cases (.capture world time) with ⟨faulty, same, -⟩ | ⟨-, -, handed⟩
    · have desk : (session.step (.dispatch (.capture world time))).desk = session.desk := same
      rw [desk] at healthy
      exact absurd healthy faulty
    · refine ⟨.capture world time, ?_, laden.mem_unclaimed_capture.2 unclaimed⟩
      show (session.snapshots ++ session.desk.handed _).getLast? = _
      rw [handed, List.getLast?_concat]

end Informed

/-! ### Runs -/

namespace Fleet

variable {Surroundings : Type} {worker : Worker Surroundings} {first : Surroundings}

/-- Everything that keeps a parcel from being forgotten. -/
structure Covers (fleet : Fleet Surroundings) (session : Session) : Prop where
  sized : ∀ snapshot ∈ session.snapshots, snapshot.vehicles.length = fleet.couriers.length
  informed : Informed fleet.scene.world.ledger fleet.reported session
  heeded : Heeded fleet.couriers fleet.repairs session
  upToDate : UpToDate fleet.scene.world.ledger fleet.couriers fleet.repairs.lastFlagged
    session.desk.published

theorem Covers.moves {fleet : Fleet Surroundings} {session : Session}
    (covers : fleet.Covers session) (steps : List Desk.Move) :
    fleet.Covers (session.moves steps) := by
  refine Session.moves_induction (fun session step covers => ?_) covers steps
  refine ⟨?_, covers.informed.move step, covers.heeded.move step,
    covers.heeded.upToDate_move covers.upToDate step⟩
  rw [Session.step_move_snapshots]
  exact covers.sized

/-- There are as many vehicles as drivers. -/
theorem IsCrewed.length {fleet : Fleet Surroundings} (crewed : fleet.IsCrewed) :
    fleet.scene.world.vehicles.length = fleet.couriers.length := by
  have present : ∀ index, index < fleet.scene.world.vehicles.length ↔
      index < fleet.couriers.length := by
    intro index
    rw [← crewed.paired index]
    show _ ↔ ((fleet.scene.world.vehicles[index]?).map Vehicle.load).isSome = true
    rw [Option.isSome_map]
    simp
  have fromDrivers := present fleet.couriers.length
  have fromVehicles := present fleet.scene.world.vehicles.length
  omega

section Outlasting

variable {fleet : Fleet Surroundings} {session : Session} (covers : fleet.Covers session)
  (attended : fleet.Attended worker first session) {index : Nat} {courier : Courier}
  {cab : Cab (Desk × Surroundings)}

include covers attended

theorem Covers.handed (time : Nat) :
    (fleet.handedOver time).Covers
      (session.step (.dispatch (.capture fleet.scene.world time))) := by
  have retains := attended.sitting.retains
  refine ⟨fun snapshot member => ?_, .handed attended.laden retains time,
    covers.heeded.handed retains attended.sitting.told.2 _, ?_⟩
  · rcases List.mem_append.1 member with before | now
    · exact covers.sized snapshot before
    · rw [Session.eq_of_handed now]
      exact (List.length_map _).trans attended.crewed.length
  · rcases retains.handed_cases (.capture fleet.scene.world time) with
      ⟨-, same, -⟩ | ⟨-, board, -⟩
    · exact (congrArg Desk.published same) ▸ covers.upToDate
    · exact board ▸ covers.upToDate

theorem Covers.adopted (found : fleet.couriers[index]? = some courier)
    (adoption : Cab.Adoption glance (fleet.cab courier) cab) :
    (putBack index cab fleet).Covers session := by
  have crewed : Crewed (fleet.cab courier).world.ledger fleet.couriers := attended.crewed
  have informed : Informed (fleet.cab courier).world.ledger fleet.reported session :=
    covers.informed
  have heeded : Heeded fleet.couriers (fleet.cab courier).repairs session := covers.heeded
  have board : (glance (fleet.cab courier).board).1 = session.desk.published := by
    rw [attended.desk]
    rfl
  have upToDate : UpToDate (fleet.cab courier).world.ledger fleet.couriers
      (fleet.cab courier).repairs.lastFlagged (glance (fleet.cab courier).board).1 :=
    board ▸ covers.upToDate
  refine ⟨fun snapshot member => ?_, informed.advances (.of_same adoption.parcels.2),
    heeded.adoption found board adoption, ?_⟩
  · exact (covers.sized snapshot member).trans (List.length_set ..).symm
  · rw [← board]
    refine upToDate.adoption crewed found (fun publication shown => ?_) adoption
    rw [← Desk.version_of_published (board.symm.trans shown)]
    exact covers.heeded.flagged

omit attended in
theorem Covers.drove (found : fleet.couriers[index]? = some courier) {time : Nat}
    (deed : Cab.Deed time (fleet.cab courier) cab) : (putBack index cab fleet).Covers session := by
  obtain ⟨-, adopted, repairs⟩ := deed.versions
  have informed : Informed (fleet.cab courier).world.ledger fleet.reported session :=
    covers.informed
  have upToDate : UpToDate (fleet.cab courier).world.ledger fleet.couriers
      (fleet.cab courier).repairs.lastFlagged session.desk.published := covers.upToDate
  refine ⟨fun snapshot member => ?_, informed.advances deed.advances, ?_,
    upToDate.deed found deed⟩
  · exact (covers.sized snapshot member).trans (List.length_set ..).symm
  · show Heeded (fleet.couriers.set index cab.courier) cab.repairs session
    rw [repairs]
    refine covers.heeded.set (Nat.le_trans (Nat.le_of_eq adopted) ?_)
    exact covers.heeded.noted courier (List.mem_of_getElem? found)

end Outlasting

theorem outlasts_covers : Outlasts worker first Covers where
  turned := by
    intro fleet session _ covers
    have moved := covers.moves (worker.turn fleet.surroundings fleet.desk).2
    exact ⟨moved.sized, moved.informed, moved.heeded, moved.upToDate⟩
  handed := fun _ _ time attended covers => covers.handed attended time
  aside := fun _ _ _ _ covers => ⟨covers.sized, covers.informed, covers.heeded, covers.upToDate⟩
  announced := by
    intro fleet session order covers
    have new := fleet.scene.world.nextParcel_unknown order order.announceTime
    refine ⟨covers.sized, ?_, covers.heeded, ?_⟩
    all_goals
      dsimp only
      rw [World.ledger_announce]
    · exact (covers.informed.enter new).advances (.of_same rfl)
    · exact covers.upToDate.of_loads rfl fun stops load honours =>
        (honours.enter new).advances (.of_same rfl) fun _ _ listed => listed
  opened := by
    intro fleet session time covers
    refine ⟨covers.sized, ?_, covers.heeded, ?_⟩
    all_goals
      dsimp only
      rw [World.ledger_refresh]
    · exact covers.informed.opened time
    · exact covers.upToDate.of_loads rfl fun stops load honours => honours.opened time
  adopted := fun _ _ _ _ _ found adoption attended covers => covers.adopted attended found adoption
  drove := fun _ _ _ _ _ _ found deed _ covers => covers.drove found deed

/-! ### The end of a tick -/

/-- Every parcel that is known has been reported. -/
def HasReported (fleet : Fleet Surroundings) : Prop :=
  ∀ parcel : ParcelId, (fleet.scene.world.ledger.parcel? parcel).isSome = true →
    parcel.index < fleet.reported

variable {fleet reached : Fleet Surroundings} {lapse : TimeLapse}

theorem hasReported_of_le (all : fleet.scene.world.parcels.length ≤ fleet.reported) :
    fleet.HasReported := by
  intro parcel known
  obtain ⟨found, there⟩ := Option.isSome_iff_exists.1 known
  obtain ⟨inside, -⟩ := List.getElem?_eq_some_iff.1 there
  exact Nat.lt_of_lt_of_le inside all

theorem hasReported_reportNews (told : reportNews worker lapse fleet = (.ok (), reached)) :
    reached.HasReported := by
  cases faulty : (turn worker fleet).2.desk.fault with
  | some error =>
    rw [reportNews_of_fault faulty] at told
    cases told
  | none =>
    rw [reportNews_of_healthy faulty] at told
    split at told
    · rcases report_cases worker (turn worker fleet).2 lapse.start with ⟨_, -, refused⟩ | taken
      · cases refused.symm.trans told
      · cases taken.symm.trans told
        exact hasReported_of_le (Nat.le_refl _)
    · rename_i nothing
      rw [Bool.or_eq_true, not_or, decide_eq_true_eq, Nat.not_lt] at nothing
      cases told
      exact hasReported_of_le nothing.1

/-- No parcel becomes known while the vehicles drive. -/
theorem maintains_hasReported (index : Nat) (lapse : TimeLapse) :
    Maintains (fun fleet => fleet.IsCrewed ∧ fleet.HasReported) (driveOne worker index lapse) := by
  refine maintains_driving (fun _ holds => holds.1) (fun _ holds => holds) ?_ ?_
  · rintro fleet courier cab found adoption ⟨crewed, reported⟩
    refine ⟨adoption.crewed crewed found, fun parcel known => reported parcel ?_⟩
    exact (congrArg (fun parcel? => (parcel? parcel).isSome) adoption.parcels.2) ▸ known
  · rintro fleet courier time cab found - deed ⟨crewed, reported⟩
    refine ⟨deed.crewed crewed found, fun parcel known => reported parcel ?_⟩
    obtain ⟨later, there⟩ := Option.isSome_iff_exists.1 known
    obtain ⟨before, thereBefore, -⟩ := deed.advances.backward there
    exact Option.isSome_of_eq_some thereBefore

/-- At the end of a tick nobody asks for a snapshot any more. -/
theorem requested_reportRepairs (closed : reportRepairs worker lapse fleet = (.ok (), reached)) :
    reached.repairs.requested = false := by
  rw [reportRepairs_apply] at closed
  split at closed
  · obtain ⟨_, middle, reports, turned⟩ := bind_eq_ok_iff.1 closed
    cases turned
    rcases report_cases worker (turn worker fleet).2 lapse.finish with ⟨_, -, refused⟩ | taken
    · cases refused.symm.trans reports
    · cases taken.symm.trans reports
      rfl
  · cases closed
    rfl

/-- A parcel is remembered: it is on a route, or the published schedule lists it for a vehicle that
has yet to look at that schedule, or a snapshot is outstanding. -/
def Remembers (fleet : Fleet Surroundings) (parcel : ParcelId) : Prop :=
  (∃ vehicle ∈ fleet.scene.world.vehicles, parcel ∈ vehicle.route) ∨
    (∃ publication, fleet.desk.published = some publication ∧
      ∃ courier ∈ fleet.couriers, courier.adopted < publication.version ∧
        ∃ stops, publication.schedule.entry? courier.vehicle = some stops ∧ parcel ∈ stops) ∨
    fleet.desk.isOutstanding = true

section Settled

variable {session : Session} {stage : BlockingSolver.Stage} {parcel : ParcelId}

/-- The answer to the newest snapshot gives the parcel to a vehicle, which has a driver. -/
theorem Covers.given (covers : fleet.Covers session) (attended : fleet.Attended worker first session)
    (answering : BlockingSolver.Answering stage session)
    (answered : session.desk.isOutstanding = false) (reported : fleet.HasReported)
    (unclaimed : fleet.scene.world.ledger.Unclaimed parcel) :
    ∃ (publication : Publication) (index : Nat) (courier : Courier) (stops : List ParcelId),
      session.desk.published = some publication ∧ publication.version ≠ 0 ∧
        fleet.couriers[index]? = some courier ∧
          publication.schedule.entry? courier.vehicle = some stops ∧ parcel ∈ stops := by
  obtain ⟨known, found, unassigned⟩ := unclaimed
  obtain ⟨snapshot, newest, waits⟩ := covers.informed.shown (answering.settled answered).1 parcel
    (reported parcel (Option.isSome_of_eq_some found)) ⟨known, found, unassigned⟩
  obtain ⟨publication, shown, counted, size, served⟩ := answering.newest_served answered newest
  obtain ⟨index, stops, entry, twice, -⟩ := served.given parcel waits
  have inside : index < fleet.couriers.length := by
    rw [← covers.sized snapshot (List.mem_of_getLast? newest), ← size]
    exact (List.getElem?_eq_some_iff.1 entry).1
  have driver := List.getElem?_eq_getElem inside
  refine ⟨publication, index, _, stops, shown, counted, driver, ?_, List.count_pos_iff.1 (by omega)⟩
  rw [attended.crewed.named index _ driver]
  exact entry

/-- With the newest snapshot answered and no request for another one, nothing on the board has been
flagged. -/
theorem Covers.unflagged (covers : fleet.Covers session)
    (answering : BlockingSolver.Answering stage session)
    (answered : session.desk.isOutstanding = false) (settled : fleet.repairs.requested = false)
    (counted : session.desk.version ≠ 0) : fleet.repairs.lastFlagged ≠ session.desk.version := by
  intro isFlagged
  obtain ⟨healthy, latest⟩ := answering.settled answered
  rcases covers.heeded.replaced isFlagged counted with asks | behind | faulty
  · rw [settled] at asks
    cases asks
  · exact Nat.ne_of_lt behind latest
  · exact faulty healthy

/-- Whatever was reported is remembered while nobody asks for a snapshot. -/
theorem Covers.remembers (covers : fleet.Covers session)
    (attended : fleet.Attended worker first session)
    (answering : BlockingSolver.Answering stage session) (reported : fleet.HasReported)
    (settled : fleet.repairs.requested = false)
    (unclaimed : fleet.scene.world.ledger.Unclaimed parcel) : fleet.Remembers parcel := by
  cases outstanding : fleet.desk.isOutstanding with
  | true => exact .inr (.inr outstanding)
  | false =>
    rw [← attended.desk] at outstanding
    obtain ⟨publication, index, courier, stops, shown, counted, driver, entry, listed⟩ :=
      covers.given attended answering outstanding reported unclaimed
    have member := List.mem_of_getElem? driver
    have version := Desk.version_of_published shown
    have unflagged := covers.unflagged answering outstanding settled
    rw [version] at unflagged
    have noted := covers.heeded.noted courier member
    rw [version] at noted
    rcases Nat.lt_or_eq_of_le noted with older | current
    · rw [attended.desk] at shown
      exact .inr (.inl ⟨publication, shown, courier, member, older, stops, entry, listed⟩)
    · obtain ⟨load, loaded⟩ := attended.crewed.load driver
      have honours := covers.upToDate index courier publication stops load driver shown current
        (unflagged counted) entry loaded
      obtain ⟨carrier, present, rfl⟩ := Option.map_eq_some_iff.1 loaded
      exact .inl ⟨carrier, List.mem_of_getElem? present, honours.kept parcel listed unclaimed⟩

end Settled

/-- At the end of a tick that ends well, everything has been reported and nobody asks for a
snapshot. -/
theorem settled_of_ok {Holds : TickClock → Fleet Surroundings → Prop} (upkeep : Upkeep worker Holds)
    (crewed : ∀ clock fleet, Holds clock fleet → fleet.IsCrewed) {clock : TickClock}
    (covered : clock.lapse = .ok lapse) {vehicles : Nat} (holds : Holds clock fleet)
    (ran : TickLoop.runTick (members worker vehicles ++ []) lapse fleet = (.ok (), reached)) :
    reached.HasReported ∧ reached.repairs.requested = false := by
  obtain ⟨announced, informed, driven, announces, informs, drives, closes⟩ := members_of_ok ran
  have holdsAnnounced := upkeep.announcing clock lapse covered fleet holds
  rw [announces] at holdsAnnounced
  have holdsInformed :=
    maintains_reportNews (upkeep.turn clock) (upkeep.handing clock) lapse announced holdsAnnounced
  rw [informs] at holdsInformed
  have drivers : ∀ member ∈ (List.range vehicles).map (driving worker),
      Maintains (fun fleet => fleet.IsCrewed ∧ fleet.HasReported) (member.before lapse) := by
    intro member isMember
    obtain ⟨index, -, rfl⟩ := List.mem_map.1 isMember
    exact maintains_hasReported index lapse
  have reportedDriven := maintains_forM drivers informed
    ⟨crewed clock informed holdsInformed, hasReported_reportNews informs⟩
  rw [drives] at reportedDriven
  have closing : Maintains HasReported (reportRepairs worker lapse) :=
    maintains_reportRepairs (fun _ reported => reported)
      (fun _ _ _ => hasReported_of_le (Nat.le_refl _)) lapse
  have reportedClosed := closing driven reportedDriven.2
  rw [closes] at reportedClosed
  exact ⟨reportedClosed, requested_reportRepairs closes⟩

end Fleet

/-! ### The law -/

namespace Simulation

open TickLoop Fleet

variable {settings : Settings} {scenario : Scenario}

theorem covers_initial {Surroundings : Type}
    {startSolver : UInt64 → Except SolverFailure Surroundings}
    {simulation : Simulation Surroundings}
    (built : build settings scenario startSolver = .ok simulation) :
    simulation.fleet.Covers (.opened (.start settings.initialPace)) := by
  obtain ⟨-, surroundings, -, -, rfl⟩ := build_eq_ok built
  refine ⟨nofun, ⟨nofun, fun _ _ => nofun⟩, ⟨fun courier member => ?_, Nat.le_refl 0, ?_⟩, ?_⟩
  · obtain ⟨index, found⟩ := List.mem_iff_getElem?.1 member
    obtain rfl := initialFleet_courier found
    exact Nat.le_refl 0
  · exact fun _ counted => absurd rfl counted
  · exact fun _ _ _ _ _ _ => nofun

variable {Memory : Type} {solver : BlockingSolver Memory} {pace : Nat → Desk → Nat}
  {startSolver : UInt64 → Except SolverFailure Memory}
  {simulation : Simulation (Nat × Memory × BlockingSolver.Stage)}
  {before fleet : Fleet (Nat × Memory × BlockingSolver.Stage)} {loop : TickLoop} {lapse : TimeLapse}

/-- With a thorough solver, at whatever pace it works, every parcel that is known and unclaimed at
the end of a tick is remembered, also if the solver gives up or fails now and then. The random solver
is thorough, and gives up only when it is told to. -/
theorem no_parcel_is_forgotten (thorough : solver.IsThorough)
    (built : build settings scenario (fun seed => (startSolver seed).map BlockingSolver.ready) =
      .ok simulation) (calls tick : Nat)
    (begun : (simulation.after (solver.atPace pace) [] calls).atTick (solver.atPace pace) [] tick =
      (.ok (), loop, before)) (covered : loop.clock.lapse = .ok lapse)
    (ended : runTick ((simulation.after (solver.atPace pace) [] calls).setup
      (solver.atPace pace) []).listeners lapse before = (.ok (), fleet)) :
    (∀ parcel ∈ fleet.scene.world.parcels, parcel.state.isUnassigned = true →
        fleet.Remembers parcel.id) ∧
      RandomAssignment.solver.IsThorough ∧ RandomAssignment.solver.IsWilling := by
  refine ⟨fun parcel inWorld unassigned => ?_, BlockingSolver.isThorough_randomAssignment,
    BlockingSolver.isWilling_randomAssignment⟩
  have outlasts : Outlasts (solver.atPace pace) simulation.fleet.surroundings Covers :=
    outlasts_covers
  have reached := upkeep_atTick outlasts.upkeep
    (outlasts.known built (covers_initial built) calls) tick
  rw [begun] at reached
  have kept := (outlasts.upkeep.upholds (simulation.after (solver.atPace pace) [] calls)).tick
    loop.clock lapse covered before reached
  rw [ended] at kept
  obtain ⟨session, attended, covers⟩ := kept
  have crewed : ∀ (clock : TickClock) (fleet : Fleet (Nat × Memory × BlockingSolver.Stage)),
      (∃ session, fleet.Attended (solver.atPace pace) simulation.fleet.surroundings session ∧
        fleet.Covers session) → fleet.IsCrewed := fun _ _ ⟨_, attended, _⟩ => attended.crewed
  obtain ⟨reported, settled⟩ := settled_of_ok outlasts.upkeep crewed covered reached ended
  obtain ⟨memory, ready⟩ : ∃ memory,
      simulation.fleet.surroundings = BlockingSolver.ready memory := by
    obtain ⟨-, surroundings, -, started, rfl⟩ := build_eq_ok built
    cases outcome : startSolver (solverSeed settings) with
    | error failure =>
      rw [outcome] at started
      cases started
    | ok memory =>
      rw [outcome] at started
      cases started
      exact ⟨memory, rfl⟩
  have answering := thorough.answering (ready ▸ attended.sitting)
  obtain ⟨index, found⟩ := List.mem_iff_getElem?.1 inWorld
  have found : fleet.scene.world.ledger.parcel? ⟨index⟩ = some parcel := found
  rw [attended.laden.named _ _ found]
  exact covers.remembers attended answering reported settled ⟨parcel, found, unassigned⟩

/-! ### A parcel that cannot be loaded yet -/

/-- A parcel whose pickup window opens after the first tick. -/
def early : TransportOrder :=
  { (OrderDraft.between .origin .origin).order with pickupWindow := ⟨100, 200⟩ }

/-- The run of that parcel with the random solver. -/
def patient : Simulation (Nat × Generator × BlockingSolver.Stage) :=
  lone oneTick early oneTick_positive (BlockingSolver.ready (.ofSeed (solverSeed oneTick)))

/-- The fleet in the middle of the first tick. -/
def scheduled : Fleet (Nat × Generator × BlockingSolver.Stage) :=
  (reportNews diligent onlyLapse (announcing.before onlyLapse (turn diligent patient.fleet).2).2).2

/-- The fleet after its driver has adopted the schedule, and waits for the window. -/
def lingering : Fleet (Nat × Generator × BlockingSolver.Stage) :=
  putBack 0 (Cab.round (readBoard diligent) onlyLapse true 0
    (Cab.adopt (readBoard diligent) (scheduled.cab (.start ⟨0⟩))).2).2 scheduled

/-- The fleet at the end of the tick. -/
def waited : Fleet (Nat × Generator × BlockingSolver.Stage) :=
  (reportRepairs diligent onlyLapse lingering).2

theorem runTick_patient :
    runTick (members diligent 1 ++ []) onlyLapse (turn diligent patient.fleet).2 = (.ok (), waited) := by
  have drove : driveOne diligent 0 onlyLapse scheduled = (.ok (), lingering) :=
    (driveOne_of_drive rfl rfl (Cab.drive_of_over rfl)).trans rfl
  exact runTick_alone rfl rfl drove rfl

/-- At the end of the tick the parcel is on the route of the vehicle. -/
theorem no_parcel_is_forgotten_patient :
    build oneTick ⟨.origin, [.standard], [early]⟩
        (fun seed => (Except.ok (.ofSeed seed) : Except SolverFailure Generator).map
          BlockingSolver.ready) = .ok patient ∧
      (∃ parcel ∈ waited.scene.world.parcels, parcel.state = .announced ∧
        waited.Remembers parcel.id) ∧
      waited.desk.isOutstanding = false := by
  have built : build oneTick ⟨.origin, [.standard], [early]⟩ (fun seed =>
      (Except.ok (.ofSeed seed) : Except SolverFailure Generator).map BlockingSolver.ready) =
        .ok patient := build_lone early oneTick_positive (by decide) rfl
  have begun : (patient.after diligent [] 0).atTick diligent [] 0 =
      (.ok (), patient.loop, (turn diligent patient.fleet).2) := rfl
  have remembers := no_parcel_is_forgotten BlockingSolver.isThorough_randomAssignment built 0 0
    begun rfl runTick_patient
  exact ⟨built, ⟨_, .head _, rfl, remembers.1 _ (.head _) rfl⟩, rfl⟩

end Simulation

end LiveFleet
