/-
This file proves that no cargo is stranded. If the solver follows the convention, that
is, lists for every vehicle what the snapshot shows aboard it, lists unclaimed parcels
not at all or twice, and lists nothing else, then at any time whatever is aboard a
vehicle is on its route, and no unclaimed parcel is listed there only once. A schedule
may be late: it lists a parcel twice that has been loaded in the meantime, or leaves it
out. The two stops of a parcel are lost one by one, the first with its loading and the
second with its unloading, and an entry that leaves out what is aboard is rejected.
-/
import LiveFleet.Proofs.Run.Cargo
import LiveFleet.Proofs.Run.ParcelCourse
import LiveFleet.Proofs.Solver.Adapter

namespace LiveFleet

open Attempt

/-! ### Routes that fit -/

/-- The route of a vehicle fits what it carries: every stop is for a known parcel, everything aboard
has a stop, and nobody is to pick up a parcel without delivering it. -/
structure Load.Fits (ledger : Ledger) (load : Load) : Prop where
  known : ∀ stop ∈ load.stops, (ledger.parcel? stop).isSome = true
  listed : ∀ parcel ∈ load.aboard, parcel ∈ load.stops
  pairs : ∀ parcel, ledger.Unclaimed parcel → load.stops.count parcel ≠ 1

namespace Load.Fits

variable {ledger after : Ledger} {load : Load} {parcel : ParcelId}

/-- Parcels may move on. -/
theorem advances (fits : load.Fits ledger) (advances : ledger.Advances after) :
    load.Fits after where
  known := fun stop listed => advances.isSome_parcel? (fits.known stop listed)
  listed := fits.listed
  pairs := fun parcel unclaimed => fits.pairs parcel (advances.unclaimed unclaimed)

theorem enter (fits : load.Fits ledger) {new : Parcel} (unknown : ledger.parcel? new.id = none) :
    load.Fits (ledger.enter new) where
  known := fun stop listed => Ledger.isSome_parcel?_enter unknown (fits.known stop listed)
  listed := fits.listed
  pairs := by
    intro parcel unclaimed
    by_cases own : parcel = new.id
    · -- What was not known before is no stop of any route.
      have absent : parcel ∉ load.stops := fun listed =>
        Ledger.ne_of_known unknown (fits.known parcel listed) own
      rw [List.count_eq_zero_of_not_mem absent]
      exact Nat.zero_ne_one
    · exact fits.pairs parcel ((Ledger.unclaimed_enter_other own).1 unclaimed)

theorem opened (fits : load.Fits ledger) (time : Nat) : load.Fits (ledger.opened time) where
  known := fun stop listed => by
    rw [Ledger.isSome_parcel?_opened]
    exact fits.known stop listed
  listed := fits.listed
  pairs := fun parcel unclaimed => fits.pairs parcel (Ledger.unclaimed_opened.1 unclaimed)

/-- A vehicle may stow a parcel that it has a stop for. -/
theorem stow (fits : load.Fits ledger) (listed : parcel ∈ load.stops) :
    (load.stow parcel).Fits ledger where
  known := fits.known
  listed := by
    intro other aboard
    rcases mem_stow.1 aboard with already | rfl
    · exact fits.listed other already
    · exact listed
  pairs := fits.pairs

/-- A stop for a parcel that somebody has claimed may go, if no parcel aboard loses its last. -/
theorem pass (fits : load.Fits ledger) (claimed : ledger.Claimed parcel)
    (spared : parcel ∈ load.aboard → 2 ≤ load.stops.count parcel) :
    (load.pass parcel).Fits ledger where
  known := fun stop listed => fits.known stop (List.mem_of_mem_erase listed)
  listed := by
    intro other aboard
    show other ∈ load.stops.erase parcel
    by_cases own : other = parcel
    · subst own
      have spare := spared aboard
      rw [← List.count_pos_iff, List.count_erase_self]
      omega
    · exact (List.mem_erase_of_ne own).2 (fits.listed other aboard)
  pairs := by
    intro other unclaimed
    have differs : other ≠ parcel := fun same => claimed.not_unclaimed (same ▸ unclaimed)
    show (load.stops.erase parcel).count other ≠ 1
    rw [List.count_erase_of_ne differs]
    exact fits.pairs other unclaimed

theorem unload (fits : load.Fits ledger) : (load.unload parcel).Fits ledger where
  known := fits.known
  listed := fun other aboard => fits.listed other (mem_unload.1 aboard).1
  pairs := fits.pairs

/-- A route may be pruned, if what is aboard and what is unclaimed passes the test. -/
theorem prune (fits : load.Fits ledger) {test : ParcelId → Bool}
    (aboard : ∀ parcel ∈ load.aboard, test parcel = true)
    (unclaimed : ∀ parcel, ledger.Unclaimed parcel → test parcel = true) :
    (load.prune test).Fits ledger where
  known := fun stop listed => fits.known stop (List.mem_filter.1 listed).1
  listed := fun parcel held => List.mem_filter.2 ⟨fits.listed parcel held, aboard parcel held⟩
  pairs := by
    intro parcel waits
    show (load.stops.filter test).count parcel ≠ 1
    rw [List.count_filter (unclaimed parcel waits)]
    exact fits.pairs parcel waits

end Load.Fits

/-! ### The invariant -/

/-- Every route fits, and a vehicle that is loading a parcel still has both stops for it. -/
structure Stowed (ledger : Ledger) (couriers : List Courier) : Prop where
  fits : ∀ vehicle load, ledger.load? vehicle = some load → load.Fits ledger
  loading : ∀ (index : Nat) courier service load, couriers[index]? = some courier →
    courier.service = some service → service.kind = .pickup →
      ledger.load? courier.vehicle = some load → 2 ≤ load.stops.count service.parcel

namespace Stowed

variable {ledger after : Ledger} {couriers : List Courier} {index : Nat} {courier changed : Courier}

/-- A driver is responsible for its own vehicle only. -/
theorem set (stowed : Stowed ledger couriers) (crewed : Crewed ledger couriers)
    (found : couriers[index]? = some courier) (advances : ledger.Advances after)
    (vehicle : changed.vehicle = courier.vehicle)
    (others : ∀ other, other ≠ courier.vehicle → after.load? other = ledger.load? other)
    (own : ∀ load, after.load? courier.vehicle = some load → load.Fits after)
    (loading : ∀ service load, changed.service = some service → service.kind = .pickup →
      after.load? courier.vehicle = some load → 2 ≤ load.stops.count service.parcel) :
    Stowed after (couriers.set index changed) := by
  refine ⟨fun other load loaded => ?_, fun other driver service load there underWay kind loaded => ?_⟩
  · by_cases same : other = courier.vehicle
    · exact own load (same ▸ loaded)
    · rw [others other same] at loaded
      exact (stowed.fits other load loaded).advances advances
  · rcases Courier.set_cases there with ⟨rfl, rfl⟩ | ⟨differs, there⟩
    · exact loading service load underWay kind (vehicle ▸ loaded)
    · rw [others _ (crewed.apart found there differs)] at loaded
      exact stowed.loading other driver service load there underWay kind loaded

/-- New parcels and open windows load nothing. -/
theorem of_loads (stowed : Stowed ledger couriers) (loads : after.load? = ledger.load?)
    (fits : ∀ load : Load, load.Fits ledger → load.Fits after) : Stowed after couriers := by
  refine ⟨fun vehicle load loaded => ?_, ?_⟩
  · rw [loads] at loaded
    exact fits load (stowed.fits vehicle load loaded)
  · rw [loads]
    exact stowed.loading

/-- A driver that begins to load has both stops, because nobody else has claimed the parcel. -/
theorem began (stowed : Stowed ledger couriers) (crewed : Crewed ledger couriers)
    (found : couriers[index]? = some courier) (idle : courier.service = none) {load : Load}
    (held : ledger.load? courier.vehicle = some load) {stop : ParcelId} (next : stop ∈ load.stops)
    {kind : StopKind} (ready : ledger.Has stop (kind.stateBefore courier.vehicle)) (moment : Nat)
    (begins : (∃ endsAt, changed = { courier with service := some ⟨stop, kind, endsAt⟩ }) ∨
      changed = courier) :
    Stowed (ledger.begun courier.vehicle stop moment kind) (couriers.set index changed) := by
  have advances : ledger.Advances (ledger.begun courier.vehicle stop moment kind) :=
    Ledger.advances_begun ready
  have same : changed.vehicle = courier.vehicle := by
    rcases begins with ⟨endsAt, rfl⟩ | rfl <;> rfl
  have underWay : ∀ service, changed.service = some service →
      service.parcel = stop ∧ service.kind = kind := by
    intro service underWay
    rcases begins with ⟨endsAt, rfl⟩ | rfl
    · cases underWay
      exact ⟨rfl, rfl⟩
    · rw [idle] at underWay
      cases underWay
  have fits := stowed.fits _ load held
  cases kind with
  | pickup =>
    refine stowed.set crewed found advances same (fun _ => Ledger.load?_reload_other)
      (fun later loaded => ?_) fun service later begun _ loaded => ?_
    all_goals
      obtain ⟨before, known, rfl⟩ := Ledger.load?_reload_own loaded
      cases known.symm.trans held
    · exact (fits.stow next).advances advances
    · have listed := List.count_pos_iff.2 next
      have paired := fits.pairs stop (ready.unclaimed rfl)
      rw [(underWay service begun).1]
      show 2 ≤ load.stops.count stop
      omega
  | delivery =>
    refine stowed.set crewed found advances same (fun _ _ => rfl)
      (fun later loaded => (stowed.fits _ later loaded).advances advances)
      fun service later begun kind _ => ?_
    rw [(underWay service begun).2] at kind
    cases kind

/-- After loading a parcel a vehicle has one stop for it left, and after unloading it needs none. -/
theorem ended (stowed : Stowed ledger couriers) (crewed : Crewed ledger couriers)
    (found : couriers[index]? = some courier) {service : Service}
    (underWay : courier.service = some service)
    (aboard : ledger.Has service.parcel (.inCargo courier.vehicle)) (moment : Nat) :
    Stowed ((ledger.ended courier.vehicle service.parcel moment service.kind).reload
        courier.vehicle (·.pass service.parcel))
      (couriers.set index { courier with service := none }) := by
  have claimed := aboard.claimed rfl
  have advances : ledger.Advances
      (ledger.ended courier.vehicle service.parcel moment service.kind) :=
    Ledger.advances_ended aboard
  refine stowed.set crewed found advances rfl (fun other differs => ?_)
    (fun later loaded => Load.Fits.advances ?_ advances) nofun
  · exact (Ledger.load?_reload_other differs).trans (Ledger.load?_ended_other differs)
  · obtain ⟨middle, ended, rfl⟩ := Ledger.load?_reload_own loaded
    cases kind : service.kind with
    | pickup =>
      rw [kind] at ended
      exact (stowed.fits _ middle ended).pass claimed fun _ =>
        stowed.loading index _ service middle found underWay kind ended
    | delivery =>
      rw [kind] at ended
      obtain ⟨load, before, rfl⟩ := Ledger.load?_reload_own ended
      exact (stowed.fits _ load before).unload.pass claimed fun left =>
        absurd rfl (Load.mem_unload.1 left).2

variable {Board : Type} {cab reached : Cab Board}

theorem deed (stowed : Stowed cab.world.ledger couriers)
    (crewed : Crewed cab.world.ledger couriers) (found : couriers[index]? = some cab.courier)
    {time : Nat} (deed : Cab.Deed time cab reached) :
    Stowed reached.world.ledger (couriers.set index reached.courier) := by
  have advances := deed.advances
  cases deed with
  | drove ledger courier =>
    rw [ledger, courier]
    exact stowed.set crewed found (.of_same rfl) rfl (fun _ _ => rfl) (stowed.fits _)
      fun service load underWay kind => stowed.loading index _ service load found underWay kind
  | skipped idle held absent listed claimed ledger courier =>
    rw [ledger] at advances
    rw [ledger, courier]
    refine stowed.set crewed found advances rfl (fun _ => Ledger.load?_reload_other)
      (fun later loaded => ?_) (fun service _ underWay => ?_)
    · obtain ⟨load, before, rfl⟩ := Ledger.load?_reload_own loaded
      cases before.symm.trans held
      exact ((stowed.fits _ _ held).pass ⟨_, listed, claimed⟩ fun aboard =>
        absurd aboard absent).advances advances
    · rw [idle] at underWay
      cases underWay
  | began idle held next ready _ ledger courier =>
    rw [ledger]
    exact stowed.began crewed found idle held next ready _ courier
  | ended underWay aboard _ ledger courier =>
    rw [ledger, courier]
    exact stowed.ended crewed found underWay aboard _

/-- A driver that adopts an entry keeps the promise if the entry lists nothing unclaimed only
once. -/
theorem adoption (stowed : Stowed cab.world.ledger couriers) (laden : Laden cab.world.ledger)
    (crewed : Crewed cab.world.ledger couriers) (found : couriers[index]? = some cab.courier)
    {read : ReadBoard Board} (adoption : Cab.Adoption read cab reached)
    (paired : ∀ publication, (read cab.board).1 = some publication →
      ∀ stops, publication.schedule.entry? cab.courier.vehicle = some stops →
        ∀ parcel, cab.world.ledger.Unclaimed parcel → stops.count parcel ≠ 1) :
    Stowed reached.world.ledger (couriers.set index reached.courier) := by
  have advances : cab.world.ledger.Advances reached.world.ledger := .of_same adoption.parcels.2
  cases adoption with
  | busy underWay =>
    exact stowed.set crewed found (.of_same rfl) rfl (fun _ _ => rfl) (stowed.fits _)
      fun service load => stowed.loading index _ service load found
  | current idle =>
    exact stowed.set crewed found (.of_same rfl) rfl (fun _ _ => rfl) (stowed.fits _)
      fun service load => stowed.loading index _ service load found
  | @accepted _ publication stops idle shown _ listed allowed complete ledger courier =>
    rw [ledger] at advances
    rw [ledger, courier]
    refine stowed.set crewed found advances rfl (fun _ => Ledger.load?_reload_other)
      (fun later loaded => Load.Fits.advances ?_ advances) (fun service _ underWay => ?_)
    · obtain ⟨load, before, rfl⟩ := Ledger.load?_reload_own loaded
      refine ⟨fun stop member => ?_, complete load before, paired publication shown stops listed⟩
      obtain ⟨known, foundStop, -⟩ := Ledger.allows_iff.1 (allowed stop member)
      exact Option.isSome_of_eq_some foundStop
    · rw [idle] at underWay
      cases underWay
  | rejected idle _ _ ledger courier =>
    rw [ledger] at advances
    rw [ledger, courier]
    refine stowed.set crewed found advances rfl (fun _ => Ledger.load?_reload_other)
      (fun later loaded => Load.Fits.advances ?_ advances) (fun service _ underWay => ?_)
    · obtain ⟨load, before, rfl⟩ := Ledger.load?_reload_own loaded
      refine (stowed.fits _ load before).prune (fun parcel aboard => ?_) fun parcel unclaimed => ?_
      · exact (laden.aboard _ load before parcel aboard).allows
      · exact unclaimed.allows _
    · rw [idle] at underWay
      cases underWay

end Stowed

/-! ### Runs -/

/-- Whatever a snapshot has shown aboard a vehicle has been claimed since. -/
def Ledger.Succeeds (ledger : Ledger) (snapshots : List Snapshot) : Prop :=
  ∀ snapshot ∈ snapshots, ∀ view ∈ snapshot.vehicles, ∀ parcel, view.Carries parcel →
    ledger.Claimed parcel

theorem Ledger.Succeeds.of_claimed {ledger after : Ledger} {snapshots : List Snapshot}
    (succeeds : ledger.Succeeds snapshots)
    (kept : ∀ parcel, ledger.Claimed parcel → after.Claimed parcel) : after.Succeeds snapshots :=
  fun snapshot member view shown parcel carried =>
    kept parcel (succeeds snapshot member view shown parcel carried)

/-- The entries of a schedule that follows the convention list nothing once that is still
unclaimed, however late they are read. -/
theorem Snapshot.IsFollowedBy.paired {snapshot : Snapshot} {schedule : Schedule} {ledger : Ledger}
    (follows : snapshot.IsFollowedBy schedule)
    (shown : ∀ view ∈ snapshot.vehicles, ∀ parcel, view.Carries parcel → ledger.Claimed parcel)
    {vehicle : VehicleId} {stops : List ParcelId} (listed : schedule.entry? vehicle = some stops)
    {parcel : ParcelId} (unclaimed : ledger.Unclaimed parcel) : stops.count parcel ≠ 1 := by
  intro once
  have isEntry : stops ∈ schedule.routes := List.mem_of_getElem? listed
  have stop : parcel ∈ stops := List.count_pos_iff.1 (by omega)
  rcases follows.shown stops isEntry parcel stop with waits | ⟨view, member, carried⟩
  · exact follows.pairs stops isEntry parcel waits once
  · exact (shown view member parcel carried).not_unclaimed unclaimed

namespace Fleet

variable {Surroundings : Type} {worker : Worker Surroundings} {first : Surroundings}

/-- Every route of the fleet fits, and what its snapshots have shown aboard has been claimed. -/
def IsStowed (fleet : Fleet Surroundings) (session : Session) : Prop :=
  Stowed fleet.scene.world.ledger fleet.couriers ∧
    fleet.scene.world.ledger.Succeeds session.snapshots

theorem outlasts_isStowed (follows : worker.Publishes first Snapshot.IsFollowedBy) :
    Outlasts worker first IsStowed where
  turned := by
    rintro fleet session - ⟨stowed, succeeds⟩
    refine ⟨stowed, ?_⟩
    rw [Session.moves_snapshots]
    exact succeeds
  handed := by
    rintro fleet session time attended ⟨stowed, succeeds⟩
    refine ⟨stowed, fun snapshot member view shown parcel carried => ?_⟩
    rcases List.mem_append.1 member with before | now
    · exact succeeds snapshot before view shown parcel carried
    · obtain rfl := Session.eq_of_handed now
      obtain ⟨vehicle, aboard⟩ := attended.laden.inCargo_of_carries shown carried
      exact aboard.claimed rfl
  aside := fun _ _ _ _ stowed => stowed
  announced := by
    rintro fleet session order ⟨stowed, succeeds⟩
    have new := fleet.scene.world.nextParcel_unknown order order.announceTime
    unfold IsStowed
    dsimp only
    rw [World.ledger_announce]
    exact ⟨stowed.of_loads rfl fun load fits => (fits.enter new).advances (.of_same rfl),
      succeeds.of_claimed fun parcel claimed => claimed.enter new⟩
  opened := by
    rintro fleet session time ⟨stowed, succeeds⟩
    unfold IsStowed
    dsimp only
    rw [World.ledger_refresh]
    exact ⟨stowed.of_loads rfl fun load fits => fits.opened time,
      succeeds.of_claimed fun parcel claimed => claimed.opened⟩
  adopted := by
    rintro fleet session index courier cab found adoption attended ⟨stowed, succeeds⟩
    have crewed : Crewed (fleet.cab courier).world.ledger fleet.couriers := attended.crewed
    refine ⟨Stowed.adoption stowed attended.laden crewed found adoption ?_,
      succeeds.of_claimed fun parcel => Ledger.Advances.claimed (.of_same adoption.parcels.2)⟩
    intro publication shown stops listed parcel unclaimed
    have shown : fleet.desk.published = some publication := shown
    rw [← attended.desk, attended.sitting.told.2.board] at shown
    obtain ⟨acceptance, last, rfl⟩ := Option.map_eq_some_iff.1 shown
    have accepted := List.mem_of_getLast? last
    obtain ⟨snapshot, known, -⟩ := attended.sitting.told.2.sizes acceptance accepted
    have followed := follows _ _ attended.sitting acceptance accepted snapshot known
    exact followed.paired (succeeds snapshot (Session.mem_of_snapshot? known)) listed unclaimed
  drove := by
    rintro fleet session index courier time cab found deed attended ⟨stowed, succeeds⟩
    have crewed : Crewed (fleet.cab courier).world.ledger fleet.couriers := attended.crewed
    exact ⟨Stowed.deed stowed crewed found deed,
      succeeds.of_claimed fun parcel => deed.advances.claimed⟩

/-- Nothing is stranded: whatever is aboard a vehicle is on its route, no unclaimed parcel is on a
route only once, and a vehicle with an empty route carries nothing. -/
def StrandsNothing (fleet : Fleet Surroundings) : Prop :=
  ∀ vehicle ∈ fleet.scene.world.vehicles,
    (∀ parcel ∈ vehicle.contents, parcel ∈ vehicle.route) ∧
      (∀ parcel ∈ fleet.scene.world.parcels, parcel.state.isUnassigned = true →
        vehicle.route.count parcel.id ≠ 1) ∧
      (vehicle.route = [] → vehicle.contents = [])

theorem IsStowed.strandsNothing {fleet : Fleet Surroundings} {session : Session}
    (stowed : fleet.IsStowed session) (laden : Laden fleet.scene.world.ledger) :
    fleet.StrandsNothing := by
  intro vehicle member
  obtain ⟨index, there⟩ := List.mem_iff_getElem?.1 member
  have loaded : fleet.scene.world.ledger.load? ⟨index⟩ = some vehicle.load :=
    World.ledger_load?_of_vehicle? there
  have fits := stowed.1.fits _ _ loaded
  refine ⟨fits.listed, fun parcel inWorld unassigned => ?_, fun empty => ?_⟩
  · obtain ⟨position, found⟩ := List.mem_iff_getElem?.1 inWorld
    have found : fleet.scene.world.ledger.parcel? ⟨position⟩ = some parcel := found
    rw [laden.named _ _ found]
    exact fits.pairs _ ⟨parcel, found, unassigned⟩
  · rw [List.eq_nil_iff_forall_not_mem]
    intro parcel aboard
    have listed : parcel ∈ vehicle.route := fits.listed parcel aboard
    rw [empty] at listed
    cases listed

end Fleet

/-! ### The law -/

namespace Simulation

open TickLoop Fleet

variable {Surroundings : Type} {settings : Settings} {scenario : Scenario}
  {startSolver : UInt64 → Except SolverFailure Surroundings} {simulation : Simulation Surroundings}
  {worker : Worker Surroundings}

/-- Empty vehicles without routes strand nothing. -/
theorem isStowed_initial (built : build settings scenario startSolver = .ok simulation) :
    simulation.fleet.IsStowed (.opened (.start settings.initialPace)) := by
  obtain ⟨-, surroundings, -, -, rfl⟩ := build_eq_ok built
  refine ⟨⟨fun vehicle load loaded => ?_, fun index courier service load found underWay => ?_⟩,
    nofun⟩
  · have loaded : (initialFleet _ _ _).scene.world.ledger.load? vehicle = some load := loaded
    rw [initial_ledger] at loaded
    dsimp only at loaded
    split at loaded
    · cases loaded
      exact ⟨nofun, nofun, fun _ _ => Nat.zero_ne_one⟩
    · cases loaded
  · rw [initialFleet_courier found] at underWay
    cases underWay

/-- With a solver that follows the convention, no cargo is stranded: not after any number of calls,
and not at the end of any tick of the next one. The random solver follows it at any pace. -/
theorem cargo_is_never_stranded (built : build settings scenario startSolver = .ok simulation)
    (follows : worker.Publishes simulation.fleet.surroundings Snapshot.IsFollowedBy)
    (calls tick : Nat) :
    (simulation.after worker [] calls).fleet.StrandsNothing ∧
      ((simulation.after worker [] calls).atTick worker [] tick).2.2.StrandsNothing ∧
      ∀ pace generator, (RandomAssignment.solver.atPace pace).Publishes
        (BlockingSolver.ready generator) Snapshot.IsFollowedBy := by
  have outlasts := outlasts_isStowed follows
  have reached := outlasts.known built (isStowed_initial built) calls
  obtain ⟨session, attended, stowed⟩ := reached
  obtain ⟨later, attendedThen, stowedThen⟩ :=
    upkeep_atTick outlasts.upkeep ⟨session, attended, stowed⟩ tick
  refine ⟨stowed.strandsNothing attended.laden, stowedThen.strandsNothing attendedThen.laden,
    fun pace generator => ?_⟩
  exact (BlockingSolver.isThorough_randomAssignment.publishes pace generator).mono
    fun _ _ served => served.isFollowedBy

/-! ### A parcel that takes long to load -/

/-- The random solver, which gets done whatever there is to do. -/
def diligent : Worker (Nat × Generator × BlockingSolver.Stage) :=
  RandomAssignment.solver.atPace fun _ _ => 10

/-- A parcel whose loading takes longer than the tick. -/
def bulky : TransportOrder :=
  { (OrderDraft.between .origin .origin).order with pickupDuration := 3 }

/-- The run of that parcel. -/
def hauling : Simulation (Nat × Generator × BlockingSolver.Stage) :=
  lone oneTick bulky oneTick_positive (BlockingSolver.ready (.ofSeed (solverSeed oneTick)))

/-- The fleet in the middle of the tick. -/
def assigned : Fleet (Nat × Generator × BlockingSolver.Stage) :=
  (reportNews diligent onlyLapse
    (announcing.before onlyLapse (turn diligent hauling.fleet).2).2).2

/-- Its driver after a look at the schedule. -/
def sent : Cab (Desk × Nat × Generator × BlockingSolver.Stage) :=
  (Cab.adopt (readBoard diligent) (assigned.cab (.start ⟨0⟩))).2

/-- The fleet after its driver has begun to load the parcel. -/
def loading : Fleet (Nat × Generator × BlockingSolver.Stage) :=
  putBack 0 (Cab.round (readBoard diligent) onlyLapse true 0 sent).2 assigned

/-- The fleet at the end of the tick. -/
def hauled : Fleet (Nat × Generator × BlockingSolver.Stage) :=
  (reportRepairs diligent onlyLapse loading).2

theorem atTick_hauling :
    hauling.atTick diligent [] 1 = (.ok (), afterOneTick, hauled) := by
  have rounds : Cab.drive (readBoard diligent) onlyLapse true 0 sent =
      (.ok (), (Cab.round (readBoard diligent) onlyLapse true 0 sent).2) :=
    (Cab.drive_of_next rfl).trans (Cab.drive_of_over rfl)
  have drove : driveOne diligent 0 onlyLapse assigned = (.ok (), loading) :=
    (driveOne_of_drive rfl rfl rounds).trans rfl
  have ticked : runTick (members diligent 1 ++ []) onlyLapse (turn diligent hauling.fleet).2 =
      (.ok (), hauled) := runTick_alone rfl rfl drove rfl
  exact Setup.runTicks_succ rfl ticked rfl 0

/-- At the end of the tick the parcel is aboard. -/
theorem cargo_is_never_stranded_hauling :
    build oneTick ⟨.origin, [.standard], [bulky]⟩
        (fun seed => .ok (BlockingSolver.ready (.ofSeed seed))) = .ok hauling ∧
      (∃ vehicle ∈ (hauling.atTick diligent [] 1).2.2.scene.world.vehicles,
        vehicle.contents = [⟨0⟩]) ∧
      (hauling.atTick diligent [] 1).2.2.StrandsNothing := by
  have built : build oneTick _ (fun seed => .ok (BlockingSolver.ready (.ofSeed seed))) =
      .ok hauling := build_lone bulky oneTick_positive (by decide) rfl
  have follows : diligent.Publishes hauling.fleet.surroundings Snapshot.IsFollowedBy :=
    (BlockingSolver.isThorough_randomAssignment.publishes _ _).mono fun _ _ served =>
      served.isFollowedBy
  refine ⟨built, ?_, (cargo_is_never_stranded built follows 0 1).2.1⟩
  rw [atTick_hauling]
  exact ⟨_, .head _, rfl⟩

end Simulation

end LiveFleet
