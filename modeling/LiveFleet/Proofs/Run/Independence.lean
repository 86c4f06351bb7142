/-
This file proves that a bad entry affects its own vehicle only. All drivers look at
one schedule, check their entries against one world, and share one memory of rejected
entries. What a driver commits to is decided by its own entry, its own vehicle, and the
states of the parcels that are named there, and a driver changes nothing of this for
another one. So the drivers may look in any order, and each of them ends as if it had
been the only one.
-/
import LiveFleet.Proofs.Run.Misfits
import LiveFleet.Proofs.Run.Pruning

namespace LiveFleet

open Attempt

/-! ### What decides an entry -/

namespace World

variable {first second : World} {vehicle : VehicleId}

theorem stopProblem?_eq (world : World) (vehicle : VehicleId) (stop : ParcelId) :
    world.stopProblem? vehicle stop =
      match world.stateOf stop with
      | none => some (.unknownParcel stop)
      | some state =>
        if state.isAssignable vehicle then none else some (.notAssignable stop state) := by
  unfold stopProblem? stateOf
  cases world.parcel? stop <;> rfl

theorem findSome?_stopProblem?_congr {stops : List ParcelId}
    (states : ∀ stop ∈ stops, first.stateOf stop = second.stateOf stop) :
    stops.findSome? (first.stopProblem? vehicle) =
      stops.findSome? (second.stopProblem? vehicle) := by
  induction stops with
  | nil => rfl
  | cons stop rest inductionHypothesis =>
    rw [List.forall_mem_cons] at states
    rw [List.findSome?_cons, List.findSome?_cons, stopProblem?_eq, stopProblem?_eq, states.1,
      inductionHypothesis states.2]

/-- Whether an entry fits depends on the cargo and on the states of the stops. -/
theorem entryProblem?_congr {entry : Option (List ParcelId)}
    (contents : first.contentsOf vehicle = second.contentsOf vehicle)
    (states : ∀ stop ∈ entry.getD [], first.stateOf stop = second.stateOf stop) :
    first.entryProblem? vehicle entry = second.entryProblem? vehicle entry := by
  cases entry with
  | none => rfl
  | some stops =>
    have sameCargo : first.omittedCargo? vehicle stops = second.omittedCargo? vehicle stops := by
      rw [omittedCargo?_eq, omittedCargo?_eq, contents]
    rw [Option.getD_some] at states
    unfold entryProblem?
    dsimp only
    rw [findSome?_stopProblem?_congr states, sameCargo]

/-- What pruning leaves of a route depends on the states of its stops. -/
theorem pruneRoute_congr {route : List ParcelId}
    (states : ∀ stop ∈ route, first.stateOf stop = second.stateOf stop) :
    first.pruneRoute vehicle route = second.pruneRoute vehicle route := by
  refine List.filter_congr fun stop member => ?_
  rw [Bool.eq_iff_iff, canServe_iff, canServe_iff, states stop member]

/-- The route that a driver commits to when it considers an entry. -/
def routeFor (world : World) (vehicle : VehicleId) (entry : Option (List ParcelId))
    (route : List ParcelId) : List ParcelId :=
  match world.entryProblem? vehicle entry with
  | none => entry.getD []
  | some _ => world.pruneRoute vehicle route

theorem routeFor_congr {entry : Option (List ParcelId)} {route : List ParcelId}
    (contents : first.contentsOf vehicle = second.contentsOf vehicle)
    (states : ∀ stop, stop ∈ entry.getD [] ∨ stop ∈ route →
      first.stateOf stop = second.stateOf stop) :
    first.routeFor vehicle entry route = second.routeFor vehicle entry route := by
  unfold routeFor
  rw [entryProblem?_congr contents fun stop member => states stop (.inl member),
    pruneRoute_congr fun stop member => states stop (.inr member)]

/-- The route of a vehicle. A vehicle that does not exist has none. -/
def routeOf (world : World) (vehicle : VehicleId) : List ParcelId :=
  ((world.vehicle? vehicle).map Vehicle.route).getD []

/-- A vehicle follows another route. -/
def redirect (world : World) (vehicle : VehicleId) (route : List ParcelId) : World :=
  world.modifyVehicle vehicle.index fun known => { known with route := route }

/-- A vehicle commits to the route that its entry leads to. -/
def commit (world : World) (vehicle : VehicleId) (entry : Option (List ParcelId)) : World :=
  world.redirect vehicle (world.routeFor vehicle entry (world.routeOf vehicle))

theorem commit_of_unknown {world : World} {vehicle : VehicleId} {entry : Option (List ParcelId)}
    (unknown : world.vehicle? vehicle = none) : world.commit vehicle entry = world := by
  unfold commit redirect modifyVehicle
  rw [List.modify_eq_self (List.getElem?_eq_none_iff.1 unknown)]

theorem vehicle?_commit (world : World) (vehicle other : VehicleId)
    (entry : Option (List ParcelId)) :
    (world.commit vehicle entry).vehicle? other =
      if other = vehicle then
        (world.vehicle? other).map fun known =>
          { known with route := world.routeFor vehicle entry (world.routeOf vehicle) }
      else world.vehicle? other :=
  vehicle?_modifyVehicle world vehicle other _

theorem load_commit (world : World) (vehicle : VehicleId) (entry : Option (List ParcelId)) :
    ((world.commit vehicle entry).vehicle? vehicle).map Vehicle.load =
      ((world.vehicle? vehicle).map Vehicle.load).map
        (·.follow (world.routeFor vehicle entry (world.routeOf vehicle))) := by
  rw [vehicle?_commit, if_pos rfl, Option.map_map, Option.map_map]
  rfl

theorem contentsOf_commit (world : World) (vehicle other : VehicleId)
    (entry : Option (List ParcelId)) :
    (world.commit vehicle entry).contentsOf other = world.contentsOf other := by
  unfold contentsOf
  rw [vehicle?_commit]
  split
  · cases world.vehicle? other <;> rfl
  · rfl

theorem routeOf_commit_other {world : World} {vehicle other : VehicleId}
    (apart : other ≠ vehicle) (entry : Option (List ParcelId)) :
    (world.commit vehicle entry).routeOf other = world.routeOf other := by
  unfold routeOf
  rw [vehicle?_commit, if_neg apart]

/-- No commitment changes the state of a parcel, so none changes what the others commit to. -/
theorem routeFor_commit (world : World) (vehicle other : VehicleId)
    (entry otherEntry : Option (List ParcelId)) (route : List ParcelId) :
    (world.commit vehicle entry).routeFor other otherEntry route =
      world.routeFor other otherEntry route :=
  routeFor_congr (contentsOf_commit world vehicle other entry) fun _ _ => rfl

theorem entryProblem?_commit (world : World) (vehicle other : VehicleId)
    (entry otherEntry : Option (List ParcelId)) :
    (world.commit vehicle entry).entryProblem? other otherEntry =
      world.entryProblem? other otherEntry :=
  entryProblem?_congr (contentsOf_commit world vehicle other entry) fun _ _ => rfl

theorem redirect_comm {vehicle other : VehicleId} (apart : vehicle ≠ other) (world : World)
    (route otherRoute : List ParcelId) :
    (world.redirect vehicle route).redirect other otherRoute =
      (world.redirect other otherRoute).redirect vehicle route := by
  have places : vehicle.index ≠ other.index := fun same => apart (congrArg VehicleId.mk same)
  unfold redirect modifyVehicle
  dsimp only
  rw [List.modify_modify_ne _ _ _ places]

theorem commit_commit {world : World} {vehicle other : VehicleId} (apart : other ≠ vehicle)
    (entry otherEntry : Option (List ParcelId)) :
    (world.commit vehicle entry).commit other otherEntry =
      (world.redirect vehicle (world.routeFor vehicle entry (world.routeOf vehicle))).redirect
        other (world.routeFor other otherEntry (world.routeOf other)) := by
  show (world.commit vehicle entry).redirect other ((world.commit vehicle entry).routeFor other
    otherEntry ((world.commit vehicle entry).routeOf other)) = _
  rw [routeFor_commit, routeOf_commit_other apart]
  rfl

/-- Two vehicles commit in any order. -/
theorem commit_comm {vehicle other : VehicleId} (apart : vehicle ≠ other) (world : World)
    (entry otherEntry : Option (List ParcelId)) :
    (world.commit vehicle entry).commit other otherEntry =
      (world.commit other otherEntry).commit vehicle entry := by
  rw [commit_commit apart.symm, commit_commit apart, redirect_comm apart]

end World

/-! ### One look at the published schedule -/

/-- The log after an entry of this version was checked, with what the check has found. -/
def RepairLog.checked (log : RepairLog) (version : Nat) (problem : Option Inconsistency) :
    RepairLog :=
  log.flagAll (problem.map fun _ => version).toList

/-- It makes no difference which of two entries of a version was checked first. -/
theorem RepairLog.checked_comm (log : RepairLog) (version : Nat)
    (problem other : Option Inconsistency) :
    (log.checked version problem).checked version other =
      (log.checked version other).checked version problem := by
  cases problem <;> cases other <;> rfl

namespace Cab

variable {Board : Type} {cab : Cab Board}

/-- The driver has considered the entry of a publication. -/
def considered (publication : Publication) (cab : Cab Board) : Cab Board :=
  let vehicle := cab.courier.vehicle
  let entry := publication.schedule.entry? vehicle
  { cab with
    world := cab.world.commit vehicle entry
    repairs := cab.repairs.checked publication.version (cab.world.entryProblem? vehicle entry) }

theorem commit_of_known {known : Vehicle}
    (present : cab.world.vehicle? cab.courier.vehicle = some known) (publication : Publication) :
    (committedRoute publication >>= fun route =>
        onWorld (World.setRoute cab.courier.vehicle route)) cab =
      (.ok (), cab.considered publication) := by
  have committed : committedRoute publication cab =
      (.ok (cab.world.routeFor cab.courier.vehicle
          (publication.schedule.entry? cab.courier.vehicle) (cab.world.routeOf cab.courier.vehicle)),
        { cab with
          repairs := cab.repairs.checked publication.version (cab.world.entryProblem?
            cab.courier.vehicle (publication.schedule.entry? cab.courier.vehicle)) }) := by
    unfold committedRoute RepairLog.check World.routeFor World.routeOf
    dsimp only
    cases cab.world.entryProblem? cab.courier.vehicle
        (publication.schedule.entry? cab.courier.vehicle) with
    | none => rfl
    | some problem =>
      dsimp only
      rw [World.vehicle_eq_ok_iff.2 present, present]
      rfl
  rw [bind_of_ok committed]
  exact onWorld_of_ok (World.changeVehicle_eq_ok_iff.2 ⟨⟨known, present⟩, rfl⟩)

theorem commit_of_unknown (unknown : cab.world.vehicle? cab.courier.vehicle = none)
    (publication : Publication) :
    (committedRoute publication >>= fun route =>
        onWorld (World.setRoute cab.courier.vehicle route)) cab =
      (.error (.refused (.unknownVehicle cab.courier.vehicle)), cab.considered publication) := by
  unfold considered
  dsimp only
  rw [World.commit_of_unknown unknown, bind_apply]
  unfold committedRoute RepairLog.check
  dsimp only
  cases cab.world.entryProblem? cab.courier.vehicle
      (publication.schedule.entry? cab.courier.vehicle) with
  | none =>
    refine onWorld_of_refused ?_
    unfold World.setRoute World.changeVehicle
    dsimp only
    rw [unknown]
  | some problem =>
    dsimp only
    rw [World.vehicle_of_none unknown]
    rfl

end Cab

/-- Look at the schedule that is published, while nothing is published. -/
def Desk.read : ReadBoard Desk := fun desk => (desk.published, desk)

/-- The publication that a driver considers when it looks at this one: nothing during a service,
and nothing that it has considered before. -/
def Courier.considers? (courier : Courier) : Option Publication → Option Publication
  | none => none
  | some publication =>
    if courier.service.isSome || publication.version ≤ courier.adopted then none
    else some publication

/-- The driver has taken note of a version. -/
def Courier.having (courier : Courier) (version : Nat) : Courier :=
  { courier with adopted := version }

namespace Cab

variable {cab : Cab Desk}

/-- A driver with nothing to consider leaves all as it is. -/
theorem adopt_of_none (nothing : cab.courier.considers? cab.board.published = none) :
    adopt Desk.read cab = (.ok (), cab) := by
  rw [adopt, get_bind_apply]
  split
  · rfl
  · rename_i idle
    have looked : look Desk.read cab = (.ok cab.board.published, cab) := rfl
    rw [bind_of_ok looked]
    unfold Courier.considers? at nothing
    cases shown : cab.board.published with
    | none => rfl
    | some publication =>
      rw [shown] at nothing
      simp only [ite_eq_left_iff, reduceCtorEq, imp_false, not_not, Bool.or_eq_true, idle, false_or,
        decide_eq_true_eq] at nothing
      dsimp only
      rw [if_pos nothing]
      rfl

/-- Otherwise it takes note of the version, and commits to a route. -/
theorem adopt_of_some {publication : Publication}
    (considers : cab.courier.considers? cab.board.published = some publication) :
    adopt Desk.read cab =
      (committedRoute publication >>= fun route =>
          onWorld (World.setRoute cab.courier.vehicle route))
        { cab with courier := cab.courier.having publication.version } := by
  have looked : look Desk.read cab = (.ok cab.board.published, cab) := rfl
  unfold Courier.considers? at considers
  split at considers
  · cases considers
  · rename_i other shown
    split at considers
    · cases considers
    · rename_i newer
      cases considers
      rw [Bool.or_eq_true, decide_eq_true_eq, not_or] at newer
      rw [adopt, get_bind_apply, if_neg newer.1, bind_of_ok looked, shown]
      dsimp only
      rw [if_neg newer.2]
      rfl

end Cab

/-! ### What the drivers share -/

/-- What the drivers share: the world, the memory of rejected entries, and the desk at which
schedules are published. -/
structure Commons where
  world : World
  repairs : RepairLog
  desk : Desk

/-- What a driver sees and changes, without itself. -/
def Cab.commons (cab : Cab Desk) : Commons := ⟨cab.world, cab.repairs, cab.board⟩

/-- How a look at the schedule has ended for a driver, and the driver as it is then. -/
structure Look where
  answer : Except (Failure WorldError) Unit
  courier : Courier

namespace Commons

/-- What one driver sees. -/
def cab (commons : Commons) (courier : Courier) : Cab Desk :=
  ⟨courier, commons.world, commons.repairs, commons.desk⟩

/-- One driver looks at the published schedule. -/
def adopt (commons : Commons) (courier : Courier) : Look × Commons :=
  let (answer, cab) := Cab.adopt Desk.read (commons.cab courier)
  (⟨answer, cab.courier⟩, cab.commons)

/-- Several drivers look at the published schedule, one after the other. -/
def adoptAll (commons : Commons) : List Courier → List Look × Commons
  | [] => ([], commons)
  | courier :: rest =>
    let (look, reached) := commons.adopt courier
    let (looks, final) := reached.adoptAll rest
    (look :: looks, final)

variable {commons : Commons} {courier : Courier} {publication : Publication}

/-- How a look ends for a driver that considers a publication: without a vehicle it is refused. -/
def look (commons : Commons) (courier : Courier) (publication : Publication) : Look where
  answer :=
    match commons.world.vehicle? courier.vehicle with
    | some _ => .ok ()
    | none => .error (.refused (.unknownVehicle courier.vehicle))
  courier := courier.having publication.version

/-- What is shared after the vehicle's entry was considered. -/
def considered (commons : Commons) (vehicle : VehicleId) (publication : Publication) : Commons :=
  let entry := publication.schedule.entry? vehicle
  { commons with
    world := commons.world.commit vehicle entry
    repairs := commons.repairs.checked publication.version
      (commons.world.entryProblem? vehicle entry) }

theorem adopt_eq (commons : Commons) (courier : Courier) :
    commons.adopt courier =
      match courier.considers? commons.desk.published with
      | none => (⟨.ok (), courier⟩, commons)
      | some publication =>
        (commons.look courier publication, commons.considered courier.vehicle publication) := by
  unfold adopt
  cases considers : courier.considers? commons.desk.published with
  | none =>
    rw [Cab.adopt_of_none considers]
    rfl
  | some publication =>
    have considered : (commons.cab courier).courier.considers?
        (commons.cab courier).board.published = some publication := considers
    have adopted := Cab.adopt_of_some considered
    unfold look
    cases present : commons.world.vehicle? courier.vehicle with
    | none =>
      rw [adopted.trans (Cab.commit_of_unknown present publication)]
      rfl
    | some known =>
      rw [adopted.trans (Cab.commit_of_known present publication)]
      rfl

/-! ### Two drivers -/

/-- What a driver considers is what is published. -/
theorem eq_of_considers? {published : Option Publication}
    (considers : courier.considers? published = some publication) :
    published = some publication := by
  unfold Courier.considers? at considers
  split at considers
  · cases considers
  · split at considers
    · cases considers
    · exact considers

theorem desk_adopt (commons : Commons) (courier : Courier) :
    (commons.adopt courier).2.desk = commons.desk := by
  rw [adopt_eq]
  split <;> rfl

/-- The drivers of two vehicles look in any order. -/
theorem adopt_comm {first second : Courier} (apart : first.vehicle ≠ second.vehicle)
    (commons : Commons) :
    ((commons.adopt first).2.adopt second).2 = ((commons.adopt second).2.adopt first).2 := by
  rw [adopt_eq (commons.adopt first).2, adopt_eq (commons.adopt second).2, desk_adopt, desk_adopt,
    adopt_eq commons first, adopt_eq commons second]
  cases considers : first.considers? commons.desk.published with
  | none => cases second.considers? commons.desk.published <;> rfl
  | some publication =>
    cases considersToo : second.considers? commons.desk.published with
    | none => rfl
    | some other =>
      have same := (eq_of_considers? considers).symm.trans (eq_of_considers? considersToo)
      cases same
      unfold considered
      dsimp only
      rw [World.commit_comm apart, World.entryProblem?_commit, World.entryProblem?_commit,
        RepairLog.checked_comm]

/-! ### What decides a look -/

/-- The route of a vehicle, if there is such a vehicle. -/
def route? (commons : Commons) (vehicle : VehicleId) : Option (List ParcelId) :=
  (commons.world.vehicle? vehicle).map Vehicle.route

theorem route?_of_load {first second : Commons} {vehicle : VehicleId}
    (load : (first.world.vehicle? vehicle).map Vehicle.load =
      (second.world.vehicle? vehicle).map Vehicle.load) :
    first.route? vehicle = second.route? vehicle := by
  have stops := congrArg (Option.map Load.stops) load
  rw [Option.map_map, Option.map_map] at stops
  exact stops

/-- The entry of a vehicle in the published schedule. -/
def entry? (commons : Commons) (vehicle : VehicleId) : Option (List ParcelId) :=
  commons.desk.published.bind fun publication => publication.schedule.entry? vehicle

/-- What is shared is twice the same for a vehicle: the version and its entry, its cargo and its
route, and the states of the parcels on the entry and on the route. -/
structure AlikeFor (vehicle : VehicleId) (first second : Commons) : Prop where
  version : first.desk.published.map Publication.version =
    second.desk.published.map Publication.version
  entry : first.entry? vehicle = second.entry? vehicle
  load : (first.world.vehicle? vehicle).map Vehicle.load =
    (second.world.vehicle? vehicle).map Vehicle.load
  states : ∀ stop, stop ∈ (first.entry? vehicle).getD [] ∨ stop ∈ first.world.routeOf vehicle →
    first.world.stateOf stop = second.world.stateOf stop

namespace AlikeFor

variable {vehicle : VehicleId} {first second third : Commons}

theorem refl (vehicle : VehicleId) (commons : Commons) : AlikeFor vehicle commons commons :=
  ⟨rfl, rfl, rfl, fun _ _ => rfl⟩

theorem contentsOf (alike : AlikeFor vehicle first second) :
    first.world.contentsOf vehicle = second.world.contentsOf vehicle := by
  have aboard := congrArg (Option.map Load.aboard) alike.load
  rw [Option.map_map, Option.map_map] at aboard
  exact congrArg (Option.getD · []) aboard

theorem routeOf (alike : AlikeFor vehicle first second) :
    first.world.routeOf vehicle = second.world.routeOf vehicle :=
  congrArg (Option.getD · []) (route?_of_load alike.load)

theorem trans (early : AlikeFor vehicle first second) (late : AlikeFor vehicle second third) :
    AlikeFor vehicle first third where
  version := early.version.trans late.version
  entry := early.entry.trans late.entry
  load := early.load.trans late.load
  states := by
    intro stop named
    rw [early.states stop named]
    rw [early.entry, early.routeOf] at named
    exact late.states stop named

/-- The look of one driver changes nothing for another one. -/
theorem of_other (commons : Commons) (apart : vehicle ≠ courier.vehicle) :
    AlikeFor vehicle (commons.adopt courier).2 commons := by
  rw [adopt_eq]
  cases considers : courier.considers? commons.desk.published with
  | none => exact refl vehicle commons
  | some publication =>
    refine ⟨rfl, rfl, ?_, fun _ _ => rfl⟩
    show ((commons.world.commit _ _).vehicle? vehicle).map _ = _
    rw [World.vehicle?_commit, if_neg apart]

/-- A driver to which all is alike considers the same version, and finds the same entry. -/
theorem considers (alike : AlikeFor vehicle first second) (courier : Courier) :
    (courier.considers? first.desk.published = none ∧
        courier.considers? second.desk.published = none) ∨
      ∃ publication other, courier.considers? first.desk.published = some publication ∧
        courier.considers? second.desk.published = some other ∧
        publication.version = other.version ∧
        publication.schedule.entry? vehicle = first.entry? vehicle ∧
        other.schedule.entry? vehicle = first.entry? vehicle := by
  have version := alike.version
  have entry := alike.entry
  unfold entry? at entry ⊢
  cases shown : first.desk.published with
  | none =>
    rw [shown, Option.map_none, eq_comm, Option.map_eq_none_iff] at version
    rw [version]
    exact .inl ⟨rfl, rfl⟩
  | some publication =>
    rw [shown, Option.map_some, eq_comm, Option.map_eq_some_iff] at version
    obtain ⟨other, shownToo, same⟩ := version
    rw [shown, shownToo, Option.bind_some, Option.bind_some] at entry
    rw [shownToo]
    unfold Courier.considers?
    dsimp only
    rw [same]
    split
    · exact .inl ⟨rfl, rfl⟩
    · exact .inr ⟨publication, other, rfl, rfl, same.symm, rfl, entry.symm⟩

theorem routeFor (alike : AlikeFor vehicle first second) :
    first.world.routeFor vehicle (first.entry? vehicle) (first.world.routeOf vehicle) =
      second.world.routeFor vehicle (first.entry? vehicle) (second.world.routeOf vehicle) := by
  rw [← alike.routeOf]
  exact World.routeFor_congr alike.contentsOf alike.states

theorem look (alike : AlikeFor courier.vehicle first second) {other : Publication}
    (version : publication.version = other.version) :
    first.look courier publication = second.look courier other := by
  have load := alike.load
  unfold Commons.look
  rw [version]
  cases present : first.world.vehicle? courier.vehicle with
  | none =>
    rw [present, Option.map_none, eq_comm, Option.map_eq_none_iff] at load
    rw [load]
  | some known =>
    rw [present, Option.map_some, eq_comm, Option.map_eq_some_iff] at load
    obtain ⟨other, presentToo, -⟩ := load
    rw [presentToo]

/-- What is alike for a driver's vehicle leads it to the same route. -/
theorem adopt (alike : AlikeFor courier.vehicle first second) :
    (first.adopt courier).1 = (second.adopt courier).1 ∧
      ((first.adopt courier).2.world.vehicle? courier.vehicle).map Vehicle.load =
        ((second.adopt courier).2.world.vehicle? courier.vehicle).map Vehicle.load := by
  rw [adopt_eq, adopt_eq]
  rcases alike.considers courier with
    ⟨none, noneToo⟩ | ⟨publication, other, some, someToo, version, entry, entryToo⟩
  · rw [none, noneToo]
    exact ⟨rfl, alike.load⟩
  · rw [some, someToo]
    refine ⟨alike.look version, ?_⟩
    show ((first.world.commit _ _).vehicle? _).map _ = ((second.world.commit _ _).vehicle? _).map _
    rw [entry, entryToo, World.load_commit, World.load_commit, alike.load, alike.routeFor]

end AlikeFor

/-! ### All drivers -/

/-- After the others have looked, all is alike for a driver as before. -/
theorem alikeFor_adoptAll (commons : Commons) {couriers : List Courier} {vehicle : VehicleId}
    (others : vehicle ∉ couriers.map Courier.vehicle) :
    AlikeFor vehicle (commons.adoptAll couriers).2 commons := by
  induction couriers generalizing commons with
  | nil => exact .refl vehicle commons
  | cons courier rest inductionHypothesis =>
    rw [List.map_cons, List.mem_cons, not_or] at others
    exact (inductionHypothesis (commons.adopt courier).2 others.2).trans (.of_other commons others.1)

/-- Every driver ends its look as if it had been the only one. -/
theorem adoptAll_looks (commons : Commons) {couriers : List Courier}
    (distinct : (couriers.map Courier.vehicle).Nodup) :
    (commons.adoptAll couriers).1 = couriers.map fun courier => (commons.adopt courier).1 := by
  induction couriers generalizing commons with
  | nil => rfl
  | cons courier rest inductionHypothesis =>
    rw [List.map_cons, List.nodup_cons] at distinct
    show (commons.adopt courier).1 :: ((commons.adopt courier).2.adoptAll rest).1 = _
    rw [inductionHypothesis _ distinct.2, List.map_cons]
    congr 1
    refine List.map_congr_left fun other member => ?_
    have apart : other.vehicle ≠ courier.vehicle := fun same =>
      distinct.1 (same ▸ List.mem_map_of_mem member)
    exact (AlikeFor.of_other commons apart).adopt.1

/-- Every vehicle ends with the load with which it would have ended alone. -/
theorem adoptAll_load (commons : Commons) {couriers : List Courier}
    (distinct : (couriers.map Courier.vehicle).Nodup) {courier : Courier}
    (member : courier ∈ couriers) :
    ((commons.adoptAll couriers).2.world.vehicle? courier.vehicle).map Vehicle.load =
      ((commons.adopt courier).2.world.vehicle? courier.vehicle).map Vehicle.load := by
  induction couriers generalizing commons with
  | nil => cases member
  | cons first rest inductionHypothesis =>
    rw [List.map_cons, List.nodup_cons] at distinct
    show (((commons.adopt first).2.adoptAll rest).2.world.vehicle? _).map _ = _
    rcases List.mem_cons.1 member with rfl | later
    · exact (alikeFor_adoptAll _ distinct.1).load
    · have apart : courier.vehicle ≠ first.vehicle := fun same =>
        distinct.1 (same ▸ List.mem_map_of_mem later)
      rw [inductionHypothesis _ distinct.2 later]
      exact (AlikeFor.of_other commons apart).adopt.2

theorem adoptAll_final (commons : Commons) (couriers : List Courier) :
    (commons.adoptAll couriers).2 =
      couriers.foldl (fun reached courier => (reached.adopt courier).2) commons := by
  induction couriers generalizing commons with
  | nil => rfl
  | cons courier rest inductionHypothesis => exact inductionHypothesis (commons.adopt courier).2

/-- What is shared does not tell in which order the drivers of different vehicles have looked. -/
theorem adoptAll_perm (commons : Commons) {couriers others : List Courier}
    (order : couriers.Perm others) (distinct : (couriers.map Courier.vehicle).Nodup) :
    (commons.adoptAll others).2 = (commons.adoptAll couriers).2 := by
  rw [adoptAll_final, adoptAll_final]
  refine (order.foldl_eq' (fun first member second memberToo reached => ?_) commons).symm
  by_cases same : first = second
  · rw [same]
  · exact adopt_comm (fun equal => same (List.inj_on_of_nodup_map distinct member memberToo equal))
      reached

/-- The drivers of different vehicles may look at the published schedule in any order: what they
share is the same in the end, the world as well as the memory of rejected entries, and every driver
ends as if it had been the only one. And to what route a driver commits is decided by what concerns
its own vehicle, whatever the world, the memory, the schedule and the other drivers are besides. -/
theorem drivers_adopt_independently (commons : Commons) (couriers : List Courier)
    (distinct : (couriers.map Courier.vehicle).Nodup) :
    (∀ others, couriers.Perm others →
      (commons.adoptAll others).2 = (commons.adoptAll couriers).2 ∧
        (commons.adoptAll others).1 = others.map fun courier => (commons.adopt courier).1) ∧
    ∀ courier ∈ couriers, ∀ (elsewhere : Commons) (company : List Courier),
      courier ∈ company → (company.map Courier.vehicle).Nodup →
      AlikeFor courier.vehicle commons elsewhere →
        (commons.adopt courier).1 = (elsewhere.adopt courier).1 ∧
        (commons.adoptAll couriers).2.route? courier.vehicle =
          (elsewhere.adoptAll company).2.route? courier.vehicle := by
  refine ⟨fun others order => ⟨adoptAll_perm commons order distinct, ?_⟩,
    fun courier member elsewhere company memberToo distinctToo alike => ?_⟩
  · exact adoptAll_looks commons ((order.map Courier.vehicle).nodup_iff.1 distinct)
  · obtain ⟨sameLook, sameLoad⟩ := alike.adopt
    refine ⟨sameLook, route?_of_load ?_⟩
    rw [adoptAll_load commons distinct member, adoptAll_load elsewhere distinctToo memberToo,
      sameLoad]

/-- The first of two vehicles is given a parcel that does not exist, or else the one that it
carries, and the memory of rejected entries is another one. The second vehicle commits to its own
entry all the same, whoever looks first. -/
theorem drivers_adopt_independently_misled :
    let world := World.loading.after [.addVehicle ⟨⟨0, 0⟩, 50⟩]
    let desk := Desk.opened (.start .simulated)
    let entry : List ParcelId := [⟨1⟩, ⟨1⟩]
    let misled : Commons := ⟨world, .clear, { desk with published := some ⟨1, ⟨[[⟨7⟩], entry]⟩⟩ }⟩
    let well : Commons :=
      ⟨world, ⟨true, 5, 3⟩, { desk with published := some ⟨1, ⟨[[⟨0⟩], entry]⟩⟩ }⟩
    let couriers : List Courier := [.start ⟨0⟩, .start ⟨1⟩]
    (couriers.map Courier.vehicle).Nodup ∧ AlikeFor ⟨1⟩ misled well ∧
      (misled.adoptAll couriers.reverse).2 = (misled.adoptAll couriers).2 ∧
      (misled.adoptAll couriers).2.repairs = ⟨true, 1, 1⟩ ∧
      (misled.adoptAll couriers).2.route? ⟨1⟩ = (well.adoptAll couriers).2.route? ⟨1⟩ ∧
      (misled.adoptAll couriers).2.route? ⟨1⟩ = some entry := by
  intro world desk entry misled well couriers
  have distinct : (couriers.map Courier.vehicle).Nodup := by decide
  have alike : AlikeFor ⟨1⟩ misled well := ⟨rfl, rfl, rfl, fun _ _ => rfl⟩
  have independent := drivers_adopt_independently misled couriers distinct
  have order : couriers.Perm couriers.reverse := (List.reverse_perm couriers).symm
  have second : Courier.start ⟨1⟩ ∈ couriers := .tail _ (.head _)
  exact ⟨distinct, alike, (independent.1 _ order).1, rfl,
    (independent.2 _ second well couriers second distinct alike).2, rfl⟩

end Commons

end LiveFleet
