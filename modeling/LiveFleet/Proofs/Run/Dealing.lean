/-
This file proves that a random schedule deals out all that is to be dealt out, and
nothing twice. A snapshot of a world shows every parcel that has not been delivered
at one place: among the unclaimed ones, or with the vehicle that carries it. The
solver begins with what the vehicles carry and goes through the unclaimed parcels in
the order of the snapshot. Each goes behind what its vehicle has been given before,
and never comes up again, so whatever numbers are drawn, the schedule is the one of
some rule that names a vehicle for every parcel.
-/
import LiveFleet.Proofs.Run.Cargo
import LiveFleet.Proofs.World.Operations

namespace LiveFleet

open Attempt

/-! ### What a snapshot shows -/

/-- The view is that of a parcel of the world, as the world knows it. -/
def ParcelView.IsOf (view : ParcelView) (world : World) : Prop :=
  ∃ known, world.parcel? view.id = some known ∧ known.id = view.id ∧ known.order = view.order

/-- The view is that of the vehicle at a position, in full. -/
structure VehicleView.Shows (view : VehicleView) (world : World) (index : Nat)
    (vehicle : Vehicle) : Prop where
  id : view.id = ⟨index⟩
  position : view.position = vehicle.position
  destination : view.destination = vehicle.destination
  contents : view.contents.map ParcelView.id = vehicle.contents
  /-- The contents are in the order in which they have been loaded. -/
  loaded : vehicle.contents = world.cargoOf ⟨index⟩
  parcels : ∀ shown ∈ view.contents, shown.IsOf world
  aboard : ∀ parcel, view.Carries parcel ↔ world.stateOf parcel = some (.inCargo ⟨index⟩)

namespace Snapshot

/-- All the parcels that a snapshot shows. -/
def shown (snapshot : Snapshot) : List ParcelId :=
  snapshot.unclaimed ++ snapshot.vehicles.flatMap fun view => view.contents.map ParcelView.id

/-- The snapshot is a true picture of the world at a time. -/
structure Shows (snapshot : Snapshot) (world : World) (time : Nat) : Prop where
  time : snapshot.time = time
  parcels : ∀ shown ∈ snapshot.available, shown.IsOf world
  unclaimed : ∀ parcel, parcel ∈ snapshot.unclaimed ↔
    ∃ state, world.stateOf parcel = some state ∧ state.isUnassigned = true
  inOrder : snapshot.unclaimed.Pairwise fun earlier later => earlier.index < later.index
  size : snapshot.vehicles.length = world.vehicles.length
  vehicles : ∀ (index : Nat) (vehicle : Vehicle), world.vehicles[index]? = some vehicle →
    ∃ view, snapshot.vehicles[index]? = some view ∧ view.Shows world index vehicle
  /-- What has not been delivered is shown at one place. -/
  once : ∀ parcel state, world.stateOf parcel = some state → state ≠ .delivered →
    snapshot.shown.count parcel = 1
  nothingElse : ∀ parcel ∈ snapshot.shown, ∃ state, world.stateOf parcel = some state ∧
    state ≠ .delivered

end Snapshot

namespace World

variable {world : World}

/-- A known parcel is shown as it is. -/
theorem InAccord.isOf_view (accord : world.InAccord) {index : Nat} {known : Parcel}
    (found : world.parcels[index]? = some known) : known.view.IsOf world := by
  have named : known.id = ⟨index⟩ := accord.laden.named ⟨index⟩ known found
  refine ⟨known, ?_, rfl, rfl⟩
  show world.parcels[known.id.index]? = some known
  rw [named]
  exact found

theorem InAccord.shows_view (accord : world.InAccord) (numbered : world.VehiclesNumbered)
    {index : Nat} {vehicle : Vehicle} (found : world.vehicles[index]? = some vehicle) :
    (vehicle.view world).Shows world index vehicle where
  id := numbered index vehicle found
  position := rfl
  destination := rfl
  contents := accord.laden.contents_view found
  loaded := accord.stowed ⟨index⟩ vehicle.load (ledger_load?_of_vehicle? found)
  parcels := by
    intro shown member
    obtain ⟨known, aboard, rfl⟩ := List.mem_map.1 member
    obtain ⟨parcel, -, foundParcel⟩ := List.mem_filterMap.1 aboard
    exact accord.isOf_view foundParcel
  aboard := by
    intro parcel
    rw [accord.inCargo_iff, VehicleView.Carries, accord.laden.contents_view found]
    constructor
    · exact fun carried => ⟨vehicle, found, carried⟩
    · rintro ⟨carrier, foundCarrier, carried⟩
      cases foundCarrier.symm.trans found
      exact carried

/-- Every view in a snapshot is that of a vehicle. -/
theorem InAccord.shows_of_getElem? (accord : world.InAccord) (numbered : world.VehiclesNumbered)
    {time index : Nat} {view : VehicleView}
    (found : (Snapshot.capture world time).vehicles[index]? = some view) :
    ∃ vehicle, view.Shows world index vehicle := by
  have listed : (world.vehicles[index]?).map (·.view world) = some view :=
    List.getElem?_map.symm.trans found
  obtain ⟨vehicle, foundVehicle, rfl⟩ := Option.map_eq_some_iff.1 listed
  exact ⟨vehicle, accord.shows_view numbered foundVehicle⟩

theorem InAccord.mem_unclaimed_iff (accord : world.InAccord) {time : Nat} {parcel : ParcelId} :
    parcel ∈ (Snapshot.capture world time).unclaimed ↔
      ∃ state, world.stateOf parcel = some state ∧ state.isUnassigned = true := by
  rw [accord.laden.mem_unclaimed_capture]
  constructor
  · rintro ⟨known, found, unassigned⟩
    exact ⟨known.state, Option.map_eq_some_iff.2 ⟨known, found, rfl⟩, unassigned⟩
  · rintro ⟨state, isState, unassigned⟩
    obtain ⟨known, found, rfl⟩ := Option.map_eq_some_iff.1 isState
    exact ⟨known, found, unassigned⟩

/-- No parcel is shown at two places, nor twice at one. -/
theorem InAccord.nodup_shown (accord : world.InAccord) (numbered : world.VehiclesNumbered)
    (time : Nat) : (Snapshot.capture world time).shown.Nodup := by
  refine List.nodup_append.2 ⟨?_, List.nodup_flatMap.2 ⟨?_, ?_⟩, ?_⟩
  · rw [Snapshot.unclaimed_capture]
    exact accord.laden.nodup_parcels.sublist (List.filter_sublist.map _)
  · intro view member
    obtain ⟨index, found⟩ := List.mem_iff_getElem?.1 member
    obtain ⟨vehicle, shows⟩ := accord.shows_of_getElem? numbered found
    rw [shows.contents, shows.loaded]
    exact accord.nodup_cargoOf ⟨index⟩
  -- What two vehicles carried would be in the cargo of both.
  · refine List.pairwise_iff_getElem.2 fun first second inside insideToo before => ?_
    intro parcel here there
    obtain ⟨one, showsOne⟩ :=
      accord.shows_of_getElem? numbered (List.getElem?_eq_getElem inside)
    obtain ⟨other, showsOther⟩ :=
      accord.shows_of_getElem? numbered (List.getElem?_eq_getElem insideToo)
    have same := (showsOne.aboard parcel).1 here
    rw [(showsOther.aboard parcel).1 there] at same
    cases same
    exact Nat.lt_irrefl _ before
  · rintro parcel unclaimed other isAboard rfl
    obtain ⟨state, isState, unassigned⟩ := accord.mem_unclaimed_iff.1 unclaimed
    obtain ⟨view, member, carried⟩ := List.mem_flatMap.1 isAboard
    obtain ⟨vehicle, aboard⟩ := accord.laden.inCargo_of_carries member carried
    cases isState.symm.trans (stateOf_of_has aboard)
    cases unassigned

/-- A snapshot shows what has not been delivered. -/
theorem InAccord.mem_shown_iff (accord : world.InAccord) (numbered : world.VehiclesNumbered)
    {time : Nat} {parcel : ParcelId} :
    parcel ∈ (Snapshot.capture world time).shown ↔
      ∃ state, world.stateOf parcel = some state ∧ state ≠ .delivered := by
  rw [Snapshot.shown, List.mem_append, List.mem_flatMap, accord.mem_unclaimed_iff]
  constructor
  · rintro (⟨state, isState, unassigned⟩ | ⟨view, member, carried⟩)
    · refine ⟨state, isState, ?_⟩
      rintro rfl
      cases unassigned
    · obtain ⟨vehicle, aboard⟩ := accord.laden.inCargo_of_carries member carried
      exact ⟨_, stateOf_of_has aboard, ParcelState.noConfusion⟩
  · rintro ⟨state, isState, waits⟩
    cases state with
    | announced | available => exact .inl ⟨_, isState, rfl⟩
    | delivered => exact absurd rfl waits
    | inCargo vehicle =>
      obtain ⟨carrier, found, -⟩ := (accord.inCargo_iff parcel vehicle).1 isState
      have shows := accord.shows_view numbered found
      exact .inr ⟨carrier.view world, List.mem_map_of_mem (List.mem_of_getElem? found),
        (shows.aboard parcel).2 isState⟩

/-- A snapshot is a true picture of the world. -/
theorem InAccord.shows_capture (accord : world.InAccord) (numbered : world.VehiclesNumbered)
    (time : Nat) : (Snapshot.capture world time).Shows world time where
  time := rfl
  parcels := by
    intro shown member
    obtain ⟨known, listed, rfl⟩ := List.mem_map.1 member
    obtain ⟨index, found⟩ := List.mem_iff_getElem?.1 (List.mem_filter.1 listed).1
    exact accord.isOf_view found
  unclaimed := fun _ => accord.mem_unclaimed_iff
  inOrder := by
    rw [Snapshot.unclaimed_capture]
    exact accord.laden.increasing_parcels.sublist (List.filter_sublist.map _)
  size := List.length_map _
  vehicles := by
    intro index vehicle found
    refine ⟨vehicle.view world, ?_, accord.shows_view numbered found⟩
    exact List.getElem?_map.trans (by rw [found, Option.map_some])
  once := fun _ state isState waits => List.count_eq_one_of_mem (accord.nodup_shown numbered time)
    ((accord.mem_shown_iff numbered).2 ⟨state, isState, waits⟩)
  nothingElse := fun _ => (accord.mem_shown_iff numbered).1

end World

/-! ### Dealing by a rule -/

namespace Assignment

/-- What a rule gives to a vehicle: of each of its parcels, in their order, the pickup and then the
delivery. -/
def share (holder : ParcelId → Nat) (parcels : List ParcelId) (vehicle : Nat) : List ParcelId :=
  (parcels.filter fun parcel => holder parcel = vehicle).flatMap fun parcel => [parcel, parcel]

variable {holder : ParcelId → Nat} {parcels : List ParcelId} {parcel : ParcelId} {vehicle : Nat}

theorem share_cons (holder : ParcelId → Nat) (parcel : ParcelId) (rest : List ParcelId)
    (vehicle : Nat) :
    share holder (parcel :: rest) vehicle =
      (if holder parcel = vehicle then [parcel, parcel] else []) ++ share holder rest vehicle := by
  unfold share
  rw [List.filter_cons]
  by_cases own : holder parcel = vehicle
  · simp only [own, decide_true, if_true, List.flatMap_cons]
  · simp only [own, decide_false, Bool.false_eq_true, if_false, List.nil_append]

theorem share_congr {other : ParcelId → Nat}
    (same : ∀ parcel ∈ parcels, holder parcel = other parcel) (vehicle : Nat) :
    share holder parcels vehicle = share other parcels vehicle := by
  unfold share
  rw [List.filter_congr fun parcel member => by rw [same parcel member]]

theorem mem_share : parcel ∈ share holder parcels vehicle ↔
    parcel ∈ parcels ∧ holder parcel = vehicle := by
  unfold share
  simp [List.mem_flatMap]

/-- Of parcels that are listed once, the vehicle that the rule names is given each twice. -/
theorem count_share (distinct : parcels.Nodup) (member : parcel ∈ parcels) :
    (share holder parcels vehicle).count parcel = if holder parcel = vehicle then 2 else 0 := by
  induction parcels with
  | nil => cases member
  | cons first rest inductionHypothesis =>
    obtain ⟨new, distinctRest⟩ := List.nodup_cons.1 distinct
    rw [share_cons, List.count_append]
    rcases List.mem_cons.1 member with rfl | later
    · have absent : (share holder rest vehicle).count parcel = 0 :=
        List.count_eq_zero.2 fun again => new (mem_share.1 again).1
      rw [absent]
      split <;> simp
    · have differs : first ≠ parcel := fun same => new (same ▸ later)
      rw [inductionHypothesis distinctRest later]
      split <;> simp [differs]

/-- An unclaimed parcel is listed behind the cargo of its vehicle, and nowhere else. -/
theorem count_cargo_share {snapshot : Snapshot} (sound : snapshot.IsSound) {view : VehicleView}
    (member : view ∈ snapshot.vehicles) (unclaimed : parcel ∈ snapshot.unclaimed) :
    (view.contents.map ParcelView.id ++ share holder snapshot.unclaimed vehicle).count parcel =
      if holder parcel = vehicle then 2 else 0 := by
  have ashore : (view.contents.map ParcelView.id).count parcel = 0 :=
    List.count_eq_zero.2 fun carried => sound.apart view member parcel carried unclaimed
  rw [List.count_append, ashore, Nat.zero_add]
  exact count_share sound.distinct unclaimed

end Assignment

/-- The schedule deals out a snapshot by a rule: every vehicle delivers what it carries and then
goes through its share of the unclaimed parcels, and each of these is in one share. -/
structure Snapshot.IsDealtOut (snapshot : Snapshot) (holder : ParcelId → Nat)
    (schedule : Schedule) : Prop where
  size : schedule.size = snapshot.vehicles.length
  holders : ∀ parcel ∈ snapshot.unclaimed, holder parcel < snapshot.vehicles.length
  entries : ∀ (index : Nat) (view : VehicleView), snapshot.vehicles[index]? = some view →
    schedule.entry? ⟨index⟩ = some (view.contents.map ParcelView.id ++
      Assignment.share holder snapshot.unclaimed index)
  twice : ∀ parcel ∈ snapshot.unclaimed, ∀ index stops, schedule.entry? ⟨index⟩ = some stops →
    stops.count parcel = if holder parcel = index then 2 else 0

namespace RandomAssignment

variable {snapshot : Snapshot} {token : CancelToken} {generator after : Generator}

/-- Whatever is drawn, the parcels are given away by some rule. -/
theorem foldlM_assign_follows {parcels : List ParcelView} {routes assigned : List (List ParcelId)}
    (staffed : 0 < routes.length) (distinct : (parcels.map ParcelView.id).Nodup)
    (answered : parcels.foldlM (assign token) routes generator = (.ok assigned, after)) :
    assigned.length = routes.length ∧ ∃ holder : ParcelId → Nat,
      (∀ parcel ∈ parcels.map ParcelView.id, holder parcel < routes.length) ∧
        ∀ vehicle, assigned[vehicle]? = (routes[vehicle]?).map
          (· ++ Assignment.share holder (parcels.map ParcelView.id) vehicle) := by
  induction parcels generalizing routes generator with
  | nil =>
    cases answered
    refine ⟨rfl, fun _ => 0, fun _ member => absurd member List.not_mem_nil, fun vehicle => ?_⟩
    simp [Assignment.share]
  | cons parcel rest inductionHypothesis =>
    rw [List.foldlM_cons] at answered
    obtain ⟨next, reached, assignedOne, answered⟩ := bind_eq_ok_iff.1 answered
    obtain ⟨chosen, inside, rfl⟩ := assign_eq_ok staffed assignedOne
    obtain ⟨new, distinctRest⟩ := List.nodup_cons.1 distinct
    have sameLength : (Assignment.give routes chosen parcel).length = routes.length :=
      List.length_modify ..
    obtain ⟨length, holder, holders, follows⟩ :=
      inductionHypothesis (by rw [sameLength]; exact staffed) distinctRest answered
    -- The rule for the rest says nothing of the first parcel, which does not come again.
    have unchanged : ∀ other ∈ rest.map ParcelView.id,
        Function.update holder parcel.id chosen other = holder other := by
      intro other later
      refine Function.update_of_ne ?_ _ _
      rintro rfl
      exact new later
    refine ⟨length.trans sameLength, Function.update holder parcel.id chosen, ?_, fun vehicle => ?_⟩
    · intro other member
      rcases List.mem_cons.1 member with rfl | later
      · rw [Function.update_self]
        exact inside
      · rw [unchanged other later, ← sameLength]
        exact holders other later
    · rw [follows, Assignment.getElem?_give, Option.map_map, List.map_cons, Assignment.share_cons,
        Assignment.share_congr unchanged, Function.update_self]
      refine congrArg (fun change => Option.map change routes[vehicle]?) (funext fun route => ?_)
      dsimp only [Function.comp_apply, Assignment.routeAfter]
      split
      · exact List.append_assoc ..
      · rfl

/-- However the numbers fall, the random schedule of a sound snapshot deals it out. -/
theorem isDealtOut_schedule (sound : snapshot.IsSound) {made : Schedule}
    (answered : schedule snapshot token generator = (.ok made, after)) :
    ∃ holder, snapshot.IsDealtOut holder made := by
  unfold schedule at answered
  split at answered
  · rename_i empty
    exact absurd (List.isEmpty_iff.1 empty) sound.staffed
  · obtain ⟨routes, _, assigned, answered⟩ := bind_eq_ok_iff.1 answered
    cases answered
    have sameLength : (Assignment.cargoRoutes snapshot).length = snapshot.vehicles.length :=
      List.length_map _
    have staffed : 0 < (Assignment.cargoRoutes snapshot).length := by
      rw [sameLength]
      exact List.length_pos_iff.2 sound.staffed
    obtain ⟨length, holder, holders, follows⟩ :=
      foldlM_assign_follows staffed sound.distinct assigned
    rw [sameLength] at length holders
    have entries : ∀ (index : Nat) (view : VehicleView), snapshot.vehicles[index]? = some view →
        routes[index]? = some (view.contents.map ParcelView.id ++
          Assignment.share holder snapshot.unclaimed index) := by
      intro index view found
      rw [follows, Assignment.cargoRoutes, List.getElem?_map, found]
      rfl
    refine ⟨holder, length, holders, entries, ?_⟩
    intro parcel unclaimed index stops entry
    have inside : index < snapshot.vehicles.length :=
      length ▸ (List.getElem?_eq_some_iff.1 entry).1
    cases entry.symm.trans (entries index _ (List.getElem?_eq_getElem inside))
    exact Assignment.count_cargo_share sound (List.getElem_mem inside) unclaimed

theorem schedule_of_unstaffed (unstaffed : snapshot.vehicles = []) :
    schedule snapshot token generator = (.ok ⟨[]⟩, generator) := by
  unfold schedule
  rw [unstaffed]
  rfl

end RandomAssignment

namespace World

/-- Whatever has been asked of a world, a snapshot is a true picture of it, in which everything that
has not been delivered has one place. And however the random numbers fall, the solver answers it as
long as nobody cancels: every vehicle delivers what it carries, in the order of loading, and then
picks up and delivers its share of the unclaimed parcels, which are dealt out to the vehicles. Where
there is no vehicle, nothing is drawn and nothing planned. -/
theorem random_schedules_deal_out (depot : Point) (operations : List Operation) (time : Nat) :
    (Snapshot.capture ((World.empty depot).after operations) time).Shows
        ((World.empty depot).after operations) time ∧
      ∀ generator, ∃ made generatorAfter,
        RandomAssignment.solver.solve (.capture ((World.empty depot).after operations) time)
            (generator, .fresh) = (.ok made, generatorAfter, .fresh) ∧
          (((World.empty depot).after operations).vehicles = [] →
            made = ⟨[]⟩ ∧ generatorAfter = generator) ∧
          (((World.empty depot).after operations).vehicles ≠ [] →
            ∃ holder, (Snapshot.capture ((World.empty depot).after operations) time).IsDealtOut
              holder made) := by
  have accord : ((World.empty depot).after operations).InAccord :=
    inAccord_after (inAccord_empty depot) operations
  have numbered : ((World.empty depot).after operations).VehiclesNumbered := by
    refine vehiclesNumbered_after ?_ operations
    intro index vehicle found
    cases found
  generalize (World.empty depot).after operations = world at accord numbered ⊢
  refine ⟨accord.shows_capture numbered time, fun generator => ?_⟩
  obtain ⟨made, after, scheduled, solved⟩ :=
    RandomAssignment.solve_eq_ok (.capture world time) generator
  refine ⟨made, after, solved, fun unstaffed => ?_, fun staffed => ?_⟩
  · have none : (Snapshot.capture world time).vehicles = [] := List.map_eq_nil_iff.2 unstaffed
    cases scheduled.symm.trans (RandomAssignment.schedule_of_unstaffed none)
    exact ⟨rfl, rfl⟩
  · exact RandomAssignment.isDealtOut_schedule (accord.laden.isSound_capture staffed time) scheduled

/-- One parcel is being loaded, and the other one is all that there is to deal out. -/
theorem random_schedules_deal_out_loading :
    ∃ made generatorAfter,
      RandomAssignment.solver.solve (.capture loading 0) (.ofSeed 0, .fresh) =
          (.ok made, generatorAfter, .fresh) ∧
        ∃ holder, (Snapshot.capture loading 0).IsDealtOut holder made := by
  obtain ⟨made, after, solved, -, dealt⟩ := (random_schedules_deal_out ⟨0, 0⟩
    [.addVehicle ⟨⟨0, 0⟩, 50⟩, .announce onTheSpot 0, .announce onTheSpot 0,
      .startPickup ⟨0⟩ ⟨0⟩ 0] 0).2 (.ofSeed 0)
  have staffed : loading.vehicles ≠ [] := by decide
  exact ⟨made, after, solved, dealt staffed⟩

end World

end LiveFleet
