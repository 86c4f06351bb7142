/-
This file proves what the state of the parcels, the contents of the vehicles and the
log say of each other after any operations on a world. The operations may come in
any order, name whatever they like, and be refused; everything that reads a world
may rely on whichever of the three records is at hand.
-/
import LiveFleet.Proofs.World.Accord
import Mathlib.Data.List.Nodup

namespace LiveFleet

open Attempt

/-! ### Operations -/

/-- What may be asked of a world. -/
inductive Operation where
  | addVehicle (profile : VehicleProfile)
  | announce (order : TransportOrder) (time : Nat)
  | refresh (time : Nat)
  | setRoute (vehicle : VehicleId) (route : List ParcelId)
  | setDestination (vehicle : VehicleId) (destination : Option ParcelId)
  | moveVehicle (vehicle : VehicleId) (place : Point)
  | startPickup (vehicle : VehicleId) (parcel : ParcelId) (time : Nat)
  | finishPickup (vehicle : VehicleId) (parcel : ParcelId) (time : Nat)
  | startDelivery (vehicle : VehicleId) (parcel : ParcelId) (time : Nat)
  | finishDelivery (vehicle : VehicleId) (parcel : ParcelId) (time : Nat)

/-- The world that an operation leaves, whether or not it is refused. -/
def Operation.apply (world : World) : Operation → World
  | addVehicle profile => (world.addVehicle profile).2
  | announce order time => (world.announce order time).2
  | refresh time => (world.refresh time).2
  | setRoute vehicle route => (World.setRoute vehicle route world).2
  | setDestination vehicle destination => (World.setDestination vehicle destination world).2
  | moveVehicle vehicle place => (World.moveVehicle vehicle place world).2
  | startPickup vehicle parcel time => (World.startPickup vehicle parcel time world).2
  | finishPickup vehicle parcel time => (World.finishPickup vehicle parcel time world).2
  | startDelivery vehicle parcel time => (World.startDelivery vehicle parcel time world).2
  | finishDelivery vehicle parcel time => (World.finishDelivery vehicle parcel time world).2

namespace World

/-- The world that a list of operations leaves. -/
def after (world : World) (operations : List Operation) : World :=
  operations.foldl Operation.apply world

/-- An order for a parcel that stays where it is. -/
def onTheSpot : TransportOrder := (OrderDraft.between ⟨0, 0⟩ ⟨0, 0⟩).order

/-- A world with one vehicle, which has begun to load one of two parcels. -/
def loading : World :=
  (World.empty ⟨0, 0⟩).after [.addVehicle ⟨⟨0, 0⟩, 50⟩, .announce onTheSpot 0,
    .announce onTheSpot 0, .startPickup ⟨0⟩ ⟨0⟩ 0]

/-! ### The names of the vehicles -/

/-- The names of the vehicles, in the order of the list. -/
def vehicleIds (world : World) : List VehicleId := world.vehicles.map Vehicle.id

/-- Every vehicle is named for its position. -/
def VehiclesNumbered (world : World) : Prop :=
  ∀ (index : Nat) (vehicle : Vehicle), world.vehicles[index]? = some vehicle → vehicle.id = ⟨index⟩

theorem vehiclesNumbered_of_vehicleIds {world after : World} (numbered : world.VehiclesNumbered)
    (same : after.vehicleIds = world.vehicleIds) : after.VehiclesNumbered := by
  intro index vehicle found
  have named : after.vehicleIds[index]? = some vehicle.id := by
    rw [vehicleIds, List.getElem?_map, found, Option.map_some]
  rw [same, vehicleIds, List.getElem?_map] at named
  obtain ⟨before, foundBefore, sameName⟩ := Option.map_eq_some_iff.1 named
  rw [← sameName, numbered index before foundBefore]

theorem vehicleIds_changeVehicle (vehicle : VehicleId) (change : Vehicle → Vehicle)
    (same : ∀ known, (change known).id = known.id) :
    Keeps vehicleIds (changeVehicle vehicle change) := by
  intro world
  unfold changeVehicle
  split
  · refine List.ext_getElem? fun index => ?_
    simp only [vehicleIds, modifyVehicle, List.getElem?_map, List.getElem?_modify]
    cases world.vehicles[index]? with
    | none => rfl
    | some known =>
      by_cases here : vehicle.index = index
      · simp [here, same]
      · simp [here]
  · rfl

theorem vehicleIds_settle (vehicle : VehicleId) (parcel : ParcelId) (state : ParcelState)
    (change : Vehicle → Vehicle) (same : ∀ known, (change known).id = known.id) (kind : EventKind)
    (time : Nat) :
    Keeps vehicleIds (changeState parcel state >>= fun _ => changeVehicle vehicle change >>=
      fun _ => log kind vehicle parcel time) := by
  refine keeps_bind ?_ fun _ =>
    keeps_bind (vehicleIds_changeVehicle vehicle change same) fun _ => keeps_modify fun _ => rfl
  intro world
  unfold changeState
  split <;> rfl

theorem vehicleIds_start (kind : StopKind) (vehicle : VehicleId) (parcel : ParcelId) (time : Nat) :
    Keeps vehicleIds (kind.start vehicle parcel time) := by
  cases kind with
  | pickup =>
    refine keeps_bind (keeps_inspect _) fun _ => keeps_bind (keeps_inspect _) fun _ =>
      keeps_bind (keeps_require _ _) fun _ => keeps_bind (keeps_require _ _) fun _ =>
        vehicleIds_settle _ _ _ _ ?_ _ _
    exact fun _ => rfl
  | delivery =>
    exact keeps_bind (requireInCargo_keeps _ _ _ _) fun _ => keeps_bind (keeps_inspect _) fun _ =>
      keeps_bind (keeps_inspect _) fun _ => keeps_bind (keeps_require _ _) fun _ =>
        keeps_modify fun _ => rfl

theorem vehicleIds_finish (kind : StopKind) (vehicle : VehicleId) (parcel : ParcelId) (time : Nat) :
    Keeps vehicleIds (kind.finish vehicle parcel time) := by
  cases kind with
  | pickup =>
    exact keeps_bind (requireInCargo_keeps _ _ _ _) fun _ => keeps_modify fun _ => rfl
  | delivery =>
    refine keeps_bind (requireInCargo_keeps _ _ _ _) fun _ => vehicleIds_settle _ _ _ _ ?_ _ _
    exact fun _ => rfl

theorem vehiclesNumbered_addVehicle {world : World} (numbered : world.VehiclesNumbered)
    (profile : VehicleProfile) : (world.addVehicle profile).2.VehiclesNumbered := by
  intro index vehicle found
  have listed : (world.vehicles ++ [Vehicle.parked ⟨world.vehicles.length⟩ profile])[index]? =
      some vehicle := found
  rw [List.getElem?_append] at listed
  split at listed
  · exact numbered index vehicle listed
  · rename_i beyond
    obtain ⟨inside, rfl⟩ := List.getElem?_eq_some_iff.1 listed
    have last : index - world.vehicles.length = 0 := Nat.lt_one_iff.1 inside
    simp only [last, List.getElem_cons_zero, Vehicle.parked]
    congr 1
    omega

theorem vehiclesNumbered_apply {world : World} (numbered : world.VehiclesNumbered)
    (operation : Operation) : (operation.apply world).VehiclesNumbered := by
  cases operation with
  | addVehicle profile => exact vehiclesNumbered_addVehicle numbered profile
  | announce order time => exact numbered
  | refresh time => exact numbered
  | setRoute vehicle route =>
    refine vehiclesNumbered_of_vehicleIds numbered (vehicleIds_changeVehicle vehicle _ ?_ world)
    exact fun _ => rfl
  | setDestination vehicle destination =>
    refine vehiclesNumbered_of_vehicleIds numbered (vehicleIds_changeVehicle vehicle _ ?_ world)
    exact fun _ => rfl
  | moveVehicle vehicle place =>
    refine vehiclesNumbered_of_vehicleIds numbered (vehicleIds_changeVehicle vehicle _ ?_ world)
    exact fun _ => rfl
  | startPickup vehicle parcel time =>
    exact vehiclesNumbered_of_vehicleIds numbered (vehicleIds_start .pickup vehicle parcel time _)
  | finishPickup vehicle parcel time =>
    exact vehiclesNumbered_of_vehicleIds numbered (vehicleIds_finish .pickup vehicle parcel time _)
  | startDelivery vehicle parcel time =>
    exact vehiclesNumbered_of_vehicleIds numbered (vehicleIds_start .delivery vehicle parcel time _)
  | finishDelivery vehicle parcel time =>
    exact vehiclesNumbered_of_vehicleIds numbered
      (vehicleIds_finish .delivery vehicle parcel time _)

/-! ### Accord after any operations -/

theorem inAccord_apply {world : World} (accord : world.InAccord) (operation : Operation) :
    (operation.apply world).InAccord := by
  cases operation with
  | addVehicle profile => exact accord.addVehicle profile
  | announce order time => exact accord.announce order time
  | refresh time => exact accord.refresh time
  | setRoute vehicle route =>
    exact accord.changeVehicle (·.follow route) (fun _ => rfl) (fun _ => rfl) vehicle
  | setDestination vehicle destination =>
    refine accord.changeVehicle id ?_ (fun _ => rfl) vehicle
    exact fun _ => rfl
  | moveVehicle vehicle place =>
    refine accord.changeVehicle id ?_ (fun _ => rfl) vehicle
    exact fun _ => rfl
  | startPickup vehicle parcel time => exact accord.start .pickup vehicle parcel time
  | finishPickup vehicle parcel time => exact accord.finish .pickup vehicle parcel time
  | startDelivery vehicle parcel time => exact accord.start .delivery vehicle parcel time
  | finishDelivery vehicle parcel time => exact accord.finish .delivery vehicle parcel time

theorem inAccord_after {world : World} (accord : world.InAccord) (operations : List Operation) :
    (world.after operations).InAccord := by
  induction operations generalizing world with
  | nil => exact accord
  | cons operation rest inductionHypothesis =>
    exact inductionHypothesis (inAccord_apply accord operation)

theorem vehiclesNumbered_after {world : World} (numbered : world.VehiclesNumbered)
    (operations : List Operation) : (world.after operations).VehiclesNumbered := by
  induction operations generalizing world with
  | nil => exact numbered
  | cons operation rest inductionHypothesis =>
    exact inductionHypothesis (vehiclesNumbered_apply numbered operation)

/-! ### What the records say of each other -/

/-- The vehicle exists and carries the parcel. -/
def IsAboard (world : World) (parcel : ParcelId) (vehicle : VehicleId) : Prop :=
  ∃ carrier, world.vehicle? vehicle = some carrier ∧ parcel ∈ carrier.contents

/-- The parcels, the vehicles and the log of a world say the same. -/
structure RecordsAgree (world : World) : Prop where
  parcelsNumbered : ∀ (index : Nat) (parcel : Parcel), world.parcels[index]? = some parcel →
    parcel.id = ⟨index⟩
  vehiclesNumbered : world.VehiclesNumbered
  /-- A parcel is in the cargo of the vehicle that carries it. -/
  inCargo : ∀ parcel vehicle, world.stateOf parcel = some (.inCargo vehicle) ↔
    world.IsAboard parcel vehicle
  /-- What a vehicle carries, it carries once. -/
  once : ∀ vehicle carrier, world.vehicle? vehicle = some carrier → ∀ parcel ∈ carrier.contents,
    carrier.contents.count parcel = 1
  /-- No two vehicles carry one parcel. -/
  alone : ∀ parcel vehicle other, world.IsAboard parcel vehicle → world.IsAboard parcel other →
    vehicle = other
  /-- A vehicle carries what it has started to load and what has not been unloaded, in the order of
  loading. -/
  contents : ∀ vehicle carrier, world.vehicle? vehicle = some carrier →
    carrier.contents = world.cargoOf vehicle
  announcedOnce : ∀ parcel, (world.parcel? parcel).isSome = true →
    (world.eventsOf .newParcel parcel).length = 1
  loadedAtMostOnce : ∀ parcel, (world.eventsOf .startPickup parcel).length ≤ 1
  unloadedAtMostOnce : ∀ parcel, (world.eventsOf .endDelivery parcel).length ≤ 1
  /-- An event with a vehicle is not before the start of the loading, not behind the end of the
  delivery, and names the vehicle that loads. -/
  between : ∀ before event behind vehicle, world.events = before ++ event :: behind →
    event.vehicle = some vehicle →
      (∃ start ∈ before ++ [event], start.kind = .startPickup ∧ start.vehicle = some vehicle ∧
        start.parcel = event.parcel) ∧
      ∀ finish ∈ before, finish.kind = .endDelivery → finish.parcel ≠ event.parcel
  named : ∀ event ∈ world.events, event.vehicle = none ↔ event.kind = .newParcel
  delivered : ∀ parcel, world.stateOf parcel = some .delivered ↔
    ∃ event ∈ world.events, event.kind = .endDelivery ∧ event.parcel = parcel
  deliveredCount : world.deliveredCount = world.events.countP fun event => event.kind = .endDelivery

namespace InAccord

variable {world : World}

theorem inCargo_iff (accord : world.InAccord) (parcel : ParcelId) (vehicle : VehicleId) :
    world.stateOf parcel = some (.inCargo vehicle) ↔ world.IsAboard parcel vehicle := by
  rw [(accord.tale parcel).aboard_iff, ← mem_cargoOf]
  constructor
  · intro stowed
    have present := accord.carrier ((accord.tale parcel).aboard_iff.2 (mem_cargoOf.1 stowed))
    obtain ⟨load, found⟩ := Option.isSome_iff_exists.1 present
    obtain ⟨carrier, foundVehicle, rfl⟩ := Option.map_eq_some_iff.1 found
    refine ⟨carrier, foundVehicle, ?_⟩
    have contents : carrier.contents = _ := accord.stowed vehicle _ found
    rw [contents]
    exact stowed
  · rintro ⟨carrier, found, aboard⟩
    rw [← accord.stowed vehicle carrier.load (ledger_load?_of_vehicle? found)]
    exact aboard

/-- Of events that happen to each parcel at most once, each names another parcel. -/
theorem nodup_parcelsOf {kind : EventKind}
    (once : ∀ parcel, (world.eventsOf kind parcel).length ≤ 1) {kept : Event → Bool}
    (ofKind : ∀ event, kept event = true → event.kind = kind) :
    ((world.events.filter kept).map Event.parcel).Nodup := by
  rw [List.nodup_iff_count_le_one]
  intro parcel
  refine Nat.le_trans ?_ (once parcel)
  rw [List.count_eq_countP, List.countP_map, List.countP_filter, eventsOf,
    ← List.countP_eq_length_filter]
  refine List.countP_mono_left fun event _ counted => ?_
  simp only [Function.comp, Bool.and_eq_true, beq_iff_eq] at counted
  exact decide_eq_true ⟨ofKind event counted.2, counted.1⟩

theorem loadedAtMostOnce (accord : world.InAccord) (parcel : ParcelId) :
    (world.eventsOf .startPickup parcel).length ≤ 1 :=
  length_eventsOf ▸ (accord.tale parcel).countP_startPickup_le

theorem unloadedAtMostOnce (accord : world.InAccord) (parcel : ParcelId) :
    (world.eventsOf .endDelivery parcel).length ≤ 1 :=
  length_eventsOf ▸ (accord.tale parcel).countP_endDelivery_le

theorem nodup_cargoOf (accord : world.InAccord) (vehicle : VehicleId) :
    (world.cargoOf vehicle).Nodup := by
  refine List.Nodup.filter _ (nodup_parcelsOf accord.loadedAtMostOnce fun event kept => ?_)
  exact (of_decide_eq_true kept).1

theorem delivered_iff (accord : world.InAccord) (parcel : ParcelId) :
    world.stateOf parcel = some .delivered ↔
      ∃ event ∈ world.events, event.kind = .endDelivery ∧ event.parcel = parcel := by
  rw [← (accord.tale parcel).endDelivery_iff, ← isUnloaded_iff]
  simp only [isUnloaded, List.any_eq_true, decide_eq_true_eq]

/-- The delivered parcels are the parcels whose delivery has ended, and both lists name each of them
once. -/
theorem deliveredCount_eq (accord : world.InAccord) :
    world.deliveredCount = world.events.countP fun event => event.kind = .endDelivery := by
  have sameParcels : ∀ parcel,
      parcel ∈ (world.parcels.filter fun parcel => parcel.state = .delivered).map Parcel.id ↔
        parcel ∈ (world.events.filter fun event => event.kind = .endDelivery).map Event.parcel := by
    intro parcel
    have unloaded : parcel ∈
        (world.events.filter fun event => event.kind = .endDelivery).map Event.parcel ↔
          world.stateOf parcel = some .delivered := by
      rw [accord.delivered_iff]
      simp only [List.mem_map, List.mem_filter, decide_eq_true_eq, and_assoc]
    rw [unloaded, List.mem_map]
    constructor
    · rintro ⟨known, member, rfl⟩
      obtain ⟨inWorld, delivered⟩ := List.mem_filter.1 member
      obtain ⟨index, there⟩ := List.mem_iff_getElem?.1 inWorld
      have found : world.ledger.parcel? ⟨index⟩ = some known := there
      rw [accord.laden.named _ _ found]
      exact stateOf_of_has ⟨known, found, of_decide_eq_true delivered⟩
    · intro delivered
      obtain ⟨known, found, state⟩ := Option.map_eq_some_iff.1 delivered
      refine ⟨known, List.mem_filter.2 ⟨List.mem_of_getElem? found, decide_eq_true state⟩, ?_⟩
      exact accord.laden.named parcel known found
  have nodupParcels :
      ((world.parcels.filter fun parcel => parcel.state = .delivered).map Parcel.id).Nodup :=
    accord.laden.nodup_parcels.sublist (List.filter_sublist.map Parcel.id)
  have nodupEvents :
      ((world.events.filter fun event => event.kind = .endDelivery).map Event.parcel).Nodup :=
    nodup_parcelsOf accord.unloadedAtMostOnce fun event kept => of_decide_eq_true kept
  have same := ((List.perm_ext_iff_of_nodup nodupParcels nodupEvents).2 sameParcels).length_eq
  rw [List.length_map, List.length_map] at same
  rw [deliveredCount, List.countP_eq_length_filter, List.countP_eq_length_filter]
  exact same

/-- The history of a parcel, split where the log is split at an event about the parcel. -/
theorem historyOf_split {before behind : List Event} {event : Event}
    (split : world.events = before ++ event :: behind) :
    world.historyOf event.parcel =
      World.historyOf { world with events := before } event.parcel ++
        (event.kind, event.vehicle) ::
          World.historyOf { world with events := behind } event.parcel := by
  unfold historyOf
  rw [split, List.filter_append, List.map_append, List.filter_cons_of_pos (by simp), List.map_cons]

theorem between (accord : world.InAccord) {before behind : List Event} {event : Event}
    {vehicle : VehicleId} (split : world.events = before ++ event :: behind)
    (isNamed : event.vehicle = some vehicle) :
    (∃ start ∈ before ++ [event], start.kind = .startPickup ∧ start.vehicle = some vehicle ∧
        start.parcel = event.parcel) ∧
      ∀ finish ∈ before, finish.kind = .endDelivery → finish.parcel ≠ event.parcel := by
  have told := accord.tale event.parcel
  rw [historyOf_split split, isNamed] at told
  obtain ⟨started, unfinished⟩ := told.between
  constructor
  · rcases List.mem_append.1 started with earlier | here
    · obtain ⟨start, written, starts⟩ := mem_historyOf.1 earlier
      exact ⟨start, List.mem_append_left _ written, starts⟩
    · have same := Prod.mk.inj (List.mem_singleton.1 here)
      refine ⟨event, List.mem_append_right _ List.mem_cons_self, same.1.symm, isNamed, rfl⟩
  · intro finish written ends about
    exact unfinished finish.vehicle (mem_historyOf.2 ⟨finish, written, ends, rfl, about⟩)

theorem named_iff (accord : world.InAccord) {event : Event} (written : event ∈ world.events) :
    event.vehicle = none ↔ event.kind = .newParcel :=
  (accord.tale event.parcel).named_iff (mem_historyOf.2 ⟨event, written, rfl, rfl, rfl⟩)

theorem recordsAgree (accord : world.InAccord) (numbered : world.VehiclesNumbered) :
    world.RecordsAgree where
  parcelsNumbered := fun index parcel found => accord.laden.named ⟨index⟩ parcel found
  vehiclesNumbered := numbered
  inCargo := accord.inCargo_iff
  once := by
    intro vehicle carrier found parcel aboard
    have contents : carrier.contents = _ :=
      accord.stowed vehicle carrier.load (ledger_load?_of_vehicle? found)
    rw [contents] at aboard ⊢
    exact List.count_eq_one_of_mem (accord.nodup_cargoOf vehicle) aboard
  alone := by
    intro parcel vehicle other here there
    have same := (accord.inCargo_iff parcel vehicle).2 here
    rw [(accord.inCargo_iff parcel other).2 there] at same
    exact (ParcelState.inCargo.inj (Option.some.inj same)).symm
  contents := fun vehicle carrier found =>
    accord.stowed vehicle carrier.load (ledger_load?_of_vehicle? found)
  announcedOnce := by
    intro parcel isKnown
    obtain ⟨known, found⟩ := Option.isSome_iff_exists.1 isKnown
    have told := accord.tale parcel
    rw [stateOf, found] at told
    rw [length_eventsOf]
    exact told.countP_newParcel
  loadedAtMostOnce := accord.loadedAtMostOnce
  unloadedAtMostOnce := accord.unloadedAtMostOnce
  between := fun _ _ _ _ split isNamed => accord.between split isNamed
  named := fun _ written => accord.named_iff written
  delivered := accord.delivered_iff
  deliveredCount := accord.deliveredCount_eq

end InAccord

/-- Whatever is asked of a world, in whatever order, and however much of it is refused: its records
agree. -/
theorem records_agree (depot : Point) (operations : List Operation) :
    ((World.empty depot).after operations).RecordsAgree := by
  have numbered : (World.empty depot).VehiclesNumbered := by
    intro index vehicle found
    cases found
  exact (inAccord_after (inAccord_empty depot) operations).recordsAgree
    (vehiclesNumbered_after numbered operations)

end World

end LiveFleet
