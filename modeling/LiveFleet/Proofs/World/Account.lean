/-
This file says what the operations on a world do to the account of it: the log,
the parcels, and the places at which the vehicles stand. Starting or finishing a
service writes one event about one parcel and gives that parcel its next state; if
it is refused, the world stays as it is. Whatever else a driver does to the world
touches neither the log nor a parcel, and moves no vehicle but its own. All in all a
vehicle changes a world in three ways: it changes itself, it changes the state of a
parcel, and it writes into the log. What survives these survives the vehicle.
-/
import LiveFleet.Proofs.Attempt
import LiveFleet.Run.Courier
import LiveFleet.World.Progress

namespace LiveFleet

open Attempt

/-! ### The account of a world -/

namespace World

/-- Where a vehicle stands, if it exists. -/
def place? (world : World) (vehicle : VehicleId) : Option Point :=
  (world.vehicle? vehicle).map Vehicle.position

/-- The log, the parcels, and where the vehicles stand. -/
def account (world : World) : List Event × List Parcel × (VehicleId → Option Point) :=
  (world.events, world.parcels, world.place?)

/-- The log, the parcels, and where all vehicles but one stand. -/
def accountBut (vehicle : VehicleId) (world : World) :
    List Event × List Parcel × (VehicleId → Option Point) :=
  (world.events, world.parcels, fun other => if other = vehicle then none else world.place? other)

/-- One event is written into the log, and the parcel that it is about gets a state. -/
structure Marks (world : World) (event : Event) (state : ParcelState) (after : World) : Prop where
  events : after.events = world.events ++ [event]
  parcel : ∀ parcel, after.parcel? parcel =
    if parcel = event.parcel then
      (world.parcel? parcel).map fun known => { known with state := state }
    else world.parcel? parcel
  place : after.place? = world.place?

theorem accountBut_of_account {world after : World} (same : after.account = world.account)
    (vehicle : VehicleId) : after.accountBut vehicle = world.accountBut vehicle := by
  obtain ⟨events, rest⟩ := Prod.mk.inj same
  obtain ⟨parcels, places⟩ := Prod.mk.inj rest
  unfold accountBut
  rw [events, parcels, places]

/-- What happens without being accounted for does not matter. -/
theorem Marks.of_account {world middle after : World} {event : Event} {state : ParcelState}
    (marks : world.Marks event state middle) (same : after.account = middle.account) :
    world.Marks event state after := by
  obtain ⟨events, rest⟩ := Prod.mk.inj same
  obtain ⟨parcels, places⟩ := Prod.mk.inj rest
  refine ⟨events.trans marks.events, ?_, places.trans marks.place⟩
  intro parcel
  have sameParcel : after.parcel? parcel = middle.parcel? parcel := by
    unfold parcel?
    rw [parcels]
  rw [sameParcel, marks.parcel]

/-! ### Changes of a vehicle -/

theorem vehicle?_modifyVehicle (world : World) (vehicle other : VehicleId)
    (change : Vehicle → Vehicle) :
    (world.modifyVehicle vehicle.index change).vehicle? other =
      if other = vehicle then (world.vehicle? other).map change else world.vehicle? other := by
  unfold vehicle? modifyVehicle
  rw [List.getElem?_modify]
  by_cases same : other = vehicle
  · rw [same]
    simp
  · have differs : vehicle.index ≠ other.index := fun equal =>
      same (congrArg VehicleId.mk equal).symm
    simp [same, differs]

theorem changeVehicle_account {change : Vehicle → Vehicle}
    (stays : ∀ vehicle, (change vehicle).position = vehicle.position) (vehicle : VehicleId) :
    Keeps account (changeVehicle vehicle change) := by
  intro world
  unfold changeVehicle
  split
  · have places : (world.modifyVehicle vehicle.index change).place? = world.place? := by
      funext other
      unfold place?
      rw [vehicle?_modifyVehicle]
      split
      · cases world.vehicle? other with
        | none => rfl
        | some known => exact congrArg some (stays known)
      · rfl
    unfold account
    rw [places]
    rfl
  · rfl

theorem changeVehicle_accountBut (vehicle : VehicleId) (change : Vehicle → Vehicle) :
    Keeps (accountBut vehicle) (changeVehicle vehicle change) := by
  intro world
  unfold changeVehicle
  split
  · have elsewhere : (fun other => if other = vehicle then none else
          (world.modifyVehicle vehicle.index change).place? other) =
        fun other => if other = vehicle then none else world.place? other := by
      funext other
      by_cases own : other = vehicle
      · rw [if_pos own, if_pos own]
      · rw [if_neg own, if_neg own]
        unfold place?
        rw [vehicle?_modifyVehicle, if_neg own]
    exact congrArg (fun places => (world.events, world.parcels, places)) elsewhere
  · rfl

theorem setRoute_account (vehicle : VehicleId) (route : List ParcelId) :
    Keeps account (setRoute vehicle route) := by
  refine changeVehicle_account ?_ vehicle
  exact fun _ => rfl

theorem setDestination_account (vehicle : VehicleId) (destination : Option ParcelId) :
    Keeps account (setDestination vehicle destination) := by
  refine changeVehicle_account ?_ vehicle
  exact fun _ => rfl

/-! ### New parcels -/

/-- The parcel that becomes known next is not known. -/
theorem parcel?_next (world : World) : world.parcel? ⟨world.parcels.length⟩ = none :=
  List.getElem?_eq_none (Nat.le_refl _)

theorem parcel?_announce_next (world : World) (order : TransportOrder) (time : Nat) :
    (world.announce order time).2.parcel? ⟨world.parcels.length⟩ =
      some ⟨⟨world.parcels.length⟩, order,
        if order.pickupWindow.hasBegun time then .available else .announced⟩ :=
  List.getElem?_concat_length

theorem parcel?_announce_other (world : World) (order : TransportOrder) (time : Nat)
    {parcel : ParcelId} (other : parcel ≠ ⟨world.parcels.length⟩) :
    (world.announce order time).2.parcel? parcel = world.parcel? parcel := by
  have elsewhere : parcel.index ≠ world.parcels.length := by
    intro same
    exact other (congrArg ParcelId.mk same)
  show (world.parcels ++ [_])[parcel.index]? = world.parcels[parcel.index]?
  rw [List.getElem?_append]
  split
  · rfl
  · have beyond : world.parcels.length < parcel.index := by omega
    rw [List.getElem?_eq_none (Nat.le_of_lt beyond), List.getElem?_eq_none]
    rw [List.length_singleton]
    omega

/-- A parcel whose window has opened becomes available. -/
theorem parcel?_refresh (world : World) (time : Nat) (parcel : ParcelId) :
    (world.refresh time).2.parcel? parcel = (world.parcel? parcel).map fun known =>
      if opensBy time known then { known with state := .available } else known :=
  List.getElem?_map

/-! ### Services -/

theorem parcel?_setState (world : World) (parcel other : ParcelId) (state : ParcelState) :
    (world.setState parcel.index state).parcel? other =
      if other = parcel then
        (world.parcel? other).map fun known => { known with state := state }
      else world.parcel? other := by
  unfold parcel? setState
  rw [List.getElem?_modify]
  by_cases same : other = parcel
  · rw [same]
    simp
  · have differs : parcel.index ≠ other.index := fun equal =>
      same (congrArg ParcelId.mk equal).symm
    simp [same, differs]

/-- A parcel that keeps its state only gets an event. -/
theorem marks_record {world : World} {event : Event} {known : Parcel}
    (found : world.parcel? event.parcel = some known) :
    world.Marks event known.state (world.record event) := by
  refine ⟨rfl, ?_, rfl⟩
  intro parcel
  split
  · rename_i same
    rw [same]
    show world.parcel? event.parcel = _
    rw [found]
    rfl
  · rfl

end World

/-- The event that is written when a stop begins to be served. -/
def StopKind.startEvent : StopKind → EventKind
  | pickup => .startPickup
  | delivery => .startDelivery

/-- The event that is written when a stop has been served. -/
def StopKind.endEvent : StopKind → EventKind
  | pickup => .endPickup
  | delivery => .endDelivery

/-- The state that a parcel must be in for a vehicle to begin to serve its stop. -/
def StopKind.stateBefore (vehicle : VehicleId) : StopKind → ParcelState
  | pickup => .available
  | delivery => .inCargo vehicle

/-- The state of a parcel whose stop a vehicle has served. -/
def StopKind.stateAfter (vehicle : VehicleId) : StopKind → ParcelState
  | pickup => .inCargo vehicle
  | delivery => .delivered

namespace World

/-- The vehicle stands where the parcel has its stop. -/
def IsAt (world : World) (vehicle : VehicleId) (parcel : ParcelId) (kind : StopKind) : Prop :=
  ∃ known place, world.parcel? parcel = some known ∧ world.place? vehicle = some place ∧
    place.samePlace (kind.place known.order) = true

/-- The parcel is known, in the given state. -/
def IsIn (world : World) (parcel : ParcelId) (state : ParcelState) : Prop :=
  ∃ known, world.parcel? parcel = some known ∧ known.state = state

theorem parcel_of_none {world : World} {parcel : ParcelId} (unknown : world.parcel? parcel = none) :
    world.parcel parcel = .error (.unknownParcel parcel) := by
  unfold World.parcel
  rw [unknown]

theorem vehicle_of_none {world : World} {vehicle : VehicleId}
    (unknown : world.vehicle? vehicle = none) :
    world.vehicle vehicle = .error (.unknownVehicle vehicle) := by
  unfold World.vehicle
  rw [unknown]

theorem requireInCargo_cases (vehicle : VehicleId) (parcel : ParcelId) (action : ParcelAction)
    (world : World) :
    (∃ error, requireInCargo vehicle parcel action world = (.error error, world)) ∨
      (requireInCargo vehicle parcel action world = (.ok (), world) ∧
        world.IsIn parcel (.inCargo vehicle)) := by
  cases found : world.parcel? parcel with
  | none =>
    refine .inl ⟨.unknownParcel parcel, bind_of_failed (Prod.ext ?_ rfl)⟩
    exact parcel_of_none found
  | some known =>
    have looked : inspect (fun world => world.parcel parcel) world = (.ok known, world) :=
      inspect_eq_ok_iff.2 ⟨parcel_eq_ok_iff.2 found, rfl⟩
    by_cases aboard : known.state = .inCargo vehicle
    · exact .inr ⟨(bind_of_ok looked).trans (require_of aboard _), known, found, aboard⟩
    · exact .inl ⟨_, (bind_of_ok looked).trans (require_of_not aboard _)⟩

/-- A parcel gets a state, its vehicle changes what it carries, and an event is written. -/
theorem settle_marks {world : World} {vehicle : VehicleId} {parcel : ParcelId} {known : Parcel}
    {carrier : Vehicle} (found : world.parcel? parcel = some known)
    (present : world.vehicle? vehicle = some carrier) (change : Vehicle → Vehicle)
    (stays : ∀ vehicle, (change vehicle).position = vehicle.position) (state : ParcelState)
    (kind : EventKind) (time : Nat) :
    ∃ after,
      (changeState parcel state >>= fun _ => changeVehicle vehicle change >>= fun _ =>
        log kind vehicle parcel time) world = (.ok (), after) ∧
      world.Marks ⟨kind, time, parcel, some vehicle⟩ state after := by
  have settled : changeState parcel state world = (.ok (), world.setState parcel.index state) :=
    changeState_eq_ok_iff.2 ⟨⟨known, found⟩, rfl⟩
  have kept := changeVehicle_account stays vehicle (world.setState parcel.index state)
  have changed : changeVehicle vehicle change (world.setState parcel.index state) =
      (.ok (), (changeVehicle vehicle change (world.setState parcel.index state)).2) := by
    have stillPresent : (world.setState parcel.index state).vehicle? vehicle = some carrier :=
      present
    unfold changeVehicle
    rw [stillPresent]
  generalize (changeVehicle vehicle change (world.setState parcel.index state)).2 = middle
    at kept changed
  refine ⟨middle.record ⟨kind, time, parcel, some vehicle⟩,
    (bind_of_ok settled).trans (bind_of_ok changed), ?_⟩
  obtain ⟨events, rest⟩ := Prod.mk.inj kept
  obtain ⟨parcels, places⟩ := Prod.mk.inj rest
  refine ⟨congrArg (· ++ [_]) events, ?_, places⟩
  intro other
  rw [← parcel?_setState]
  show middle.parcels[other.index]? = _
  rw [parcels]
  rfl

/-- A vehicle begins to load what is available where the vehicle stands, or nothing happens. -/
theorem startPickup_cases (vehicle : VehicleId) (parcel : ParcelId) (time : Nat) (world : World) :
    (∃ error, startPickup vehicle parcel time world = (.error error, world)) ∨
      ∃ after, startPickup vehicle parcel time world = (.ok (), after) ∧
        world.IsIn parcel .available ∧ world.IsAt vehicle parcel .pickup ∧
        world.Marks ⟨.startPickup, time, parcel, some vehicle⟩ (.inCargo vehicle) after := by
  cases foundVehicle : world.vehicle? vehicle with
  | none =>
    refine .inl ⟨.unknownVehicle vehicle, bind_of_failed (Prod.ext ?_ rfl)⟩
    exact vehicle_of_none foundVehicle
  | some loader =>
    have lookedVehicle : inspect (fun world => world.vehicle vehicle) world = (.ok loader, world) :=
      inspect_eq_ok_iff.2 ⟨vehicle_eq_ok_iff.2 foundVehicle, rfl⟩
    cases found : world.parcel? parcel with
    | none =>
      refine .inl ⟨.unknownParcel parcel,
        (bind_of_ok lookedVehicle).trans (bind_of_failed (Prod.ext ?_ rfl))⟩
      exact parcel_of_none found
    | some known =>
      have looked : inspect (fun world => world.parcel parcel) world = (.ok known, world) :=
        inspect_eq_ok_iff.2 ⟨parcel_eq_ok_iff.2 found, rfl⟩
      by_cases available : known.state = .available
      · by_cases there : loader.position.samePlace known.order.pickupPlace = true
        · obtain ⟨after, settled, marks⟩ := settle_marks found foundVehicle
            (fun known => { known with contents := known.contents ++ [parcel] }) (fun _ => rfl)
            (.inCargo vehicle) .startPickup time
          refine .inr ⟨after, (bind_of_ok lookedVehicle).trans ((bind_of_ok looked).trans
            ((bind_of_ok (require_of available _)).trans
              ((bind_of_ok (require_of there _)).trans settled))), ⟨known, found, available⟩,
            ⟨known, loader.position, found, ?_, there⟩, marks⟩
          exact congrArg (Option.map Vehicle.position) foundVehicle
        · exact .inl ⟨_, (bind_of_ok lookedVehicle).trans ((bind_of_ok looked).trans
            ((bind_of_ok (require_of available _)).trans
              (bind_of_failed (require_of_not there _))))⟩
      · exact .inl ⟨_, (bind_of_ok lookedVehicle).trans ((bind_of_ok looked).trans
          (bind_of_failed (require_of_not available _)))⟩

theorem finishPickup_cases (vehicle : VehicleId) (parcel : ParcelId) (time : Nat) (world : World) :
    (∃ error, finishPickup vehicle parcel time world = (.error error, world)) ∨
      ∃ after, finishPickup vehicle parcel time world = (.ok (), after) ∧
        world.Marks ⟨.endPickup, time, parcel, some vehicle⟩ (.inCargo vehicle) after := by
  rcases requireInCargo_cases vehicle parcel .load world with ⟨error, refused⟩ | ⟨allowed, isIn⟩
  · exact .inl ⟨error, bind_of_failed refused⟩
  · obtain ⟨known, found, aboard⟩ := isIn
    have marks : world.Marks ⟨.endPickup, time, parcel, some vehicle⟩ known.state _ :=
      marks_record found
    rw [aboard] at marks
    exact .inr ⟨_, bind_of_ok allowed, marks⟩

/-- A vehicle begins to unload what it carries where it stands, or nothing happens. -/
theorem startDelivery_cases (vehicle : VehicleId) (parcel : ParcelId) (time : Nat) (world : World) :
    (∃ error, startDelivery vehicle parcel time world = (.error error, world)) ∨
      ∃ after, startDelivery vehicle parcel time world = (.ok (), after) ∧
        world.IsIn parcel (.inCargo vehicle) ∧ world.IsAt vehicle parcel .delivery ∧
        world.Marks ⟨.startDelivery, time, parcel, some vehicle⟩ (.inCargo vehicle) after := by
  rcases requireInCargo_cases vehicle parcel .deliver world with ⟨error, refused⟩ | ⟨allowed, isIn⟩
  · exact .inl ⟨error, bind_of_failed refused⟩
  · obtain ⟨known, found, aboard⟩ := isIn
    have looked : inspect (fun world => world.parcel parcel) world = (.ok known, world) :=
      inspect_eq_ok_iff.2 ⟨parcel_eq_ok_iff.2 found, rfl⟩
    cases foundVehicle : world.vehicle? vehicle with
    | none =>
      refine .inl ⟨.unknownVehicle vehicle,
        (bind_of_ok allowed).trans (bind_of_failed (Prod.ext ?_ rfl))⟩
      exact vehicle_of_none foundVehicle
    | some unloader =>
      have lookedVehicle : inspect (fun world => world.vehicle vehicle) world =
          (.ok unloader, world) :=
        inspect_eq_ok_iff.2 ⟨vehicle_eq_ok_iff.2 foundVehicle, rfl⟩
      by_cases there : unloader.position.samePlace known.order.deliveryPlace = true
      · have marks : world.Marks ⟨.startDelivery, time, parcel, some vehicle⟩ known.state _ :=
          marks_record found
        rw [aboard] at marks
        refine .inr ⟨_, (bind_of_ok allowed).trans ((bind_of_ok lookedVehicle).trans
          ((bind_of_ok looked).trans (bind_of_ok (require_of there _)))), ⟨known, found, aboard⟩,
          ⟨known, unloader.position, found, ?_, there⟩, marks⟩
        exact congrArg (Option.map Vehicle.position) foundVehicle
      · exact .inl ⟨_, (bind_of_ok allowed).trans ((bind_of_ok lookedVehicle).trans
          ((bind_of_ok looked).trans (bind_of_failed (require_of_not there _))))⟩

/-- A vehicle that exists delivers what it carries, or nothing happens. -/
theorem finishDelivery_cases {vehicle : VehicleId} {world : World}
    (present : (world.place? vehicle).isSome = true) (parcel : ParcelId) (time : Nat) :
    (∃ error, finishDelivery vehicle parcel time world = (.error error, world)) ∨
      ∃ after, finishDelivery vehicle parcel time world = (.ok (), after) ∧
        world.Marks ⟨.endDelivery, time, parcel, some vehicle⟩ .delivered after := by
  rcases requireInCargo_cases vehicle parcel .deliver world with ⟨error, refused⟩ | ⟨allowed, isIn⟩
  · exact .inl ⟨error, bind_of_failed refused⟩
  · obtain ⟨known, found, -⟩ := isIn
    rw [place?, Option.isSome_map] at present
    obtain ⟨carrier, foundVehicle⟩ := Option.isSome_iff_exists.1 present
    obtain ⟨after, settled, marks⟩ := settle_marks found foundVehicle
      (fun known => { known with contents := known.contents.filter (· ≠ parcel) }) (fun _ => rfl)
      .delivered .endDelivery time
    exact .inr ⟨after, (bind_of_ok allowed).trans settled, marks⟩

/-- A vehicle begins to serve a stop at which it stands, or nothing happens. -/
theorem start_cases (kind : StopKind) (vehicle : VehicleId) (parcel : ParcelId) (time : Nat)
    (world : World) :
    (∃ error, kind.start vehicle parcel time world = (.error error, world)) ∨
      ∃ after, kind.start vehicle parcel time world = (.ok (), after) ∧
        world.IsIn parcel (kind.stateBefore vehicle) ∧ world.IsAt vehicle parcel kind ∧
        world.Marks ⟨kind.startEvent, time, parcel, some vehicle⟩ (.inCargo vehicle) after := by
  cases kind with
  | pickup => exact startPickup_cases vehicle parcel time world
  | delivery => exact startDelivery_cases vehicle parcel time world

/-- A vehicle that exists has served a stop, or nothing happens. -/
theorem finish_cases (kind : StopKind) {vehicle : VehicleId} {world : World}
    (present : (world.place? vehicle).isSome = true) (parcel : ParcelId) (time : Nat) :
    (∃ error, kind.finish vehicle parcel time world = (.error error, world)) ∨
      ∃ after, kind.finish vehicle parcel time world = (.ok (), after) ∧
        world.Marks ⟨kind.endEvent, time, parcel, some vehicle⟩ (kind.stateAfter vehicle)
          after := by
  cases kind with
  | pickup => exact finishPickup_cases vehicle parcel time world
  | delivery => exact finishDelivery_cases present parcel time

end World

/-! ### What survives a vehicle -/

/-- What holds of a world survives all that the driver of this vehicle can change. -/
structure World.Survives (vehicle : VehicleId) (Holds : World → Prop) : Prop where
  changeVehicle : ∀ change, Maintains Holds (World.changeVehicle vehicle change)
  changeState : ∀ parcel state, Maintains Holds (World.changeState parcel state)
  record : ∀ (world : World) event, Holds world → Holds (world.record event)

namespace World.Survives

variable {vehicle : VehicleId} {Holds : World → Prop} (survives : Survives vehicle Holds)

include survives

theorem log (kind : EventKind) (parcel : ParcelId) (time : Nat) :
    Maintains Holds (World.log kind vehicle parcel time) :=
  fun world holds => survives.record world _ holds

/-- A parcel that comes aboard or leaves. -/
theorem settle (parcel : ParcelId) (state : ParcelState) (change : Vehicle → Vehicle)
    (kind : EventKind) (time : Nat) :
    Maintains Holds (World.changeState parcel state >>= fun _ =>
      World.changeVehicle vehicle change >>= fun _ => World.log kind vehicle parcel time) :=
  maintains_bind (survives.changeState _ _) fun _ =>
    maintains_bind (survives.changeVehicle _) fun _ => survives.log _ _ _

theorem start (kind : StopKind) (parcel : ParcelId) (time : Nat) :
    Maintains Holds (kind.start vehicle parcel time) := by
  -- To look something up, or to require something, changes nothing.
  cases kind with
  | pickup =>
    refine maintains_bind (fun _ holds => holds) fun _ => maintains_bind (fun _ holds => holds)
      fun _ => ?_
    exact maintains_bind (fun _ holds => holds) fun _ => maintains_bind (fun _ holds => holds)
      fun _ => survives.settle _ _ _ _ _
  | delivery =>
    refine maintains_bind (maintains_of_keeps (requireInCargo_keeps id _ _ _)) fun _ =>
      maintains_bind (fun _ holds => holds) fun _ => ?_
    exact maintains_bind (fun _ holds => holds) fun _ => maintains_bind (fun _ holds => holds)
      fun _ => survives.log _ _ _

theorem finish (kind : StopKind) (parcel : ParcelId) (time : Nat) :
    Maintains Holds (kind.finish vehicle parcel time) := by
  cases kind with
  | pickup =>
    exact maintains_bind (maintains_of_keeps (requireInCargo_keeps id _ _ _)) fun _ =>
      survives.log _ _ _
  | delivery =>
    exact maintains_bind (maintains_of_keeps (requireInCargo_keeps id _ _ _)) fun _ =>
      survives.settle _ _ _ _ _

end World.Survives

end LiveFleet
