/-
This file holds the course of a parcel. It becomes known, and then one vehicle
loads it and unloads it, each of which starts and ends. The stage of a parcel ties
together three things that the world and the drivers hold separately: the state of
the parcel, its events, and whether a vehicle is serving one of its stops. An event
is the next one of the course only because of the third: a world alone would also
accept a second start of a delivery, or a delivery that nothing has started.
-/
import LiveFleet.Proofs.World.Account

namespace LiveFleet

/-! ### The law -/

/-- The events of a parcel that a vehicle serves, in order. Its announcement names no vehicle. -/
def course (vehicle : VehicleId) : List (EventKind × Option VehicleId) :=
  [(.newParcel, none), (.startPickup, some vehicle), (.endPickup, some vehicle),
    (.startDelivery, some vehicle), (.endDelivery, some vehicle)]

/-- The state of a parcel after that many events of its course. -/
def StateAfter (vehicle : VehicleId) : Nat → Option ParcelState → Prop
  | 0, state => state = none
  | 1, state => state = some .announced ∨ state = some .available
  | 2, state | 3, state | 4, state => state = some (.inCargo vehicle)
  | _, state => state = some .delivered

/-- The stop at which an event happens, if it happens at one. -/
def EventKind.stop? : EventKind → Option StopKind
  | newParcel => none
  | startPickup | endPickup => some .pickup
  | startDelivery | endDelivery => some .delivery

theorem StopKind.stop?_startEvent (kind : StopKind) : kind.startEvent.stop? = some kind := by
  cases kind <;> rfl

theorem StopKind.stop?_endEvent (kind : StopKind) : kind.endEvent.stop? = some kind := by
  cases kind <;> rfl

theorem StopKind.startEvent_ne_endEvent (first second : StopKind) :
    first.startEvent ≠ second.endEvent := by
  cases first <;> cases second <;> exact nofun

theorem StopKind.startEvent_injective : Function.Injective startEvent := by
  intro first second same
  have stop := congrArg EventKind.stop? same
  rwa [stop?_startEvent, stop?_startEvent, Option.some.injEq] at stop

theorem StopKind.endEvent_injective : Function.Injective endEvent := by
  intro first second same
  have stop := congrArg EventKind.stop? same
  rwa [stop?_endEvent, stop?_endEvent, Option.some.injEq] at stop

namespace World

/-- What has happened to a parcel, and which vehicles are named, in order. -/
def historyOf (world : World) (parcel : ParcelId) : List (EventKind × Option VehicleId) :=
  (world.events.filter fun event => event.parcel = parcel).map fun event =>
    (event.kind, event.vehicle)

/-- The state of a parcel, if it is known. -/
def stateOf (world : World) (parcel : ParcelId) : Option ParcelState :=
  (world.parcel? parcel).map Parcel.state

/-- The events of a parcel begin its course with one vehicle, and its state is the one that belongs
there. -/
def KeepsCourse (world : World) (parcel : ParcelId) : Prop :=
  ∃ vehicle, world.historyOf parcel <+: course vehicle ∧
    StateAfter vehicle (world.historyOf parcel).length (world.stateOf parcel)

/-- At most one event has been written between two worlds, and its vehicle stands where the parcel
has the stop at which the event happens. -/
def Notes (before after : World) : Prop :=
  after.events = before.events ∨
    ∃ event, after.events = before.events ++ [event] ∧
      ∀ kind, event.kind.stop? = some kind →
        ∃ vehicle, event.vehicle = some vehicle ∧ after.IsAt vehicle event.parcel kind

theorem historyOf_append {before after : World} {event : Event}
    (written : after.events = before.events ++ [event]) (parcel : ParcelId) :
    after.historyOf parcel = before.historyOf parcel ++
      if event.parcel = parcel then [(event.kind, event.vehicle)] else [] := by
  unfold historyOf
  rw [written, List.filter_append, List.map_append]
  by_cases about : event.parcel = parcel
  · simp [about]
  · simp [about]

theorem IsAt.of_same {world after : World} {vehicle : VehicleId} {parcel : ParcelId}
    {kind : StopKind} (isAt : world.IsAt vehicle parcel kind)
    (order : (after.parcel? parcel).map Parcel.order = (world.parcel? parcel).map Parcel.order)
    (place : after.place? vehicle = world.place? vehicle) : after.IsAt vehicle parcel kind := by
  obtain ⟨known, spot, found, stands, there⟩ := isAt
  rw [found] at order
  obtain ⟨kept, foundAfter, sameOrder⟩ := Option.map_eq_some_iff.1 order
  exact ⟨kept, spot, foundAfter, place.trans stands, by rw [sameOrder]; exact there⟩

theorem Marks.order {world after : World} {event : Event} {state : ParcelState}
    (marks : world.Marks event state after) (parcel : ParcelId) :
    (after.parcel? parcel).map Parcel.order = (world.parcel? parcel).map Parcel.order := by
  rw [marks.parcel]
  split
  · rw [Option.map_map]
    rfl
  · rfl

theorem Marks.isAt {world after : World} {event : Event} {state : ParcelState}
    (marks : world.Marks event state after) {vehicle : VehicleId} {parcel : ParcelId}
    {kind : StopKind} (isAt : world.IsAt vehicle parcel kind) : after.IsAt vehicle parcel kind :=
  isAt.of_same (marks.order parcel) (congrFun marks.place vehicle)

theorem Marks.stateOf {world after : World} {event : Event} {state : ParcelState}
    (marks : world.Marks event state after) (parcel : ParcelId) :
    after.stateOf parcel =
      if parcel = event.parcel then (world.stateOf parcel).map fun _ => state
      else world.stateOf parcel := by
  unfold World.stateOf
  rw [marks.parcel]
  split
  · rw [Option.map_map, Option.map_map]
    rfl
  · rfl

/-- An event that is written while its vehicle stands at the stop may be the only one since an
earlier world with the same events. -/
theorem Marks.notes {earlier world after : World} {event : Event} {state : ParcelState}
    (marks : world.Marks event state after) (same : world.events = earlier.events)
    {vehicle : VehicleId} {kind : StopKind} (named : event.vehicle = some vehicle)
    (stop : event.kind.stop? = some kind) (isAt : world.IsAt vehicle event.parcel kind) :
    earlier.Notes after := by
  refine .inr ⟨event, ?_, ?_⟩
  · rw [marks.events, same]
  · intro other otherStop
    cases stop.symm.trans otherStop
    exact ⟨vehicle, named, marks.isAt isAt⟩

end World

/-! ### Stages -/

/-- The vehicle is serving a stop of the parcel. The drivers are listed in the order of their
vehicles. -/
def Serves (couriers : List Courier) (parcel : ParcelId) (vehicle : VehicleId) (kind : StopKind) :
    Prop :=
  ∃ courier service, couriers[vehicle.index]? = some courier ∧ courier.service = some service ∧
    service.parcel = parcel ∧ service.kind = kind

/-- The last that has happened to some parcel is the start of a service of which its driver does not
know. -/
def HasLostService (world : World) (couriers : List Courier) : Prop :=
  ∃ parcel vehicle kind,
    (world.historyOf parcel).getLast? = some (StopKind.startEvent kind, some vehicle) ∧
      ¬ Serves couriers parcel vehicle kind

/-- Where a parcel is on its course, given which vehicles are serving its stops: its state and its
events. -/
inductive Stage (serves : VehicleId → StopKind → Prop) :
    Option ParcelState → List (EventKind × Option VehicleId) → Prop where
  | unknown (unserved : ∀ vehicle kind, ¬ serves vehicle kind) : Stage serves none []
  | unclaimed {state : ParcelState} (unassigned : state.isUnassigned = true)
      (unserved : ∀ vehicle kind, ¬ serves vehicle kind) :
      Stage serves (some state) [(.newParcel, none)]
  | loading {vehicle : VehicleId}
      (served : ∀ other kind, serves other kind ↔ other = vehicle ∧ kind = .pickup) :
      Stage serves (some (.inCargo vehicle)) [(.newParcel, none), (.startPickup, some vehicle)]
  | aboard {vehicle : VehicleId} (unserved : ∀ vehicle kind, ¬ serves vehicle kind) :
      Stage serves (some (.inCargo vehicle))
        [(.newParcel, none), (.startPickup, some vehicle), (.endPickup, some vehicle)]
  | unloading {vehicle : VehicleId}
      (served : ∀ other kind, serves other kind ↔ other = vehicle ∧ kind = .delivery) :
      Stage serves (some (.inCargo vehicle))
        [(.newParcel, none), (.startPickup, some vehicle), (.endPickup, some vehicle),
          (.startDelivery, some vehicle)]
  | delivered {vehicle : VehicleId} (unserved : ∀ vehicle kind, ¬ serves vehicle kind) :
      Stage serves (some .delivered) (course vehicle)

namespace Stage

variable {serves after : VehicleId → StopKind → Prop} {state : ParcelState}
  {known : Option ParcelState} {history : List (EventKind × Option VehicleId)}
  {vehicle : VehicleId} {kind : StopKind}

/-- A stage is a point of the course. -/
theorem law (stage : Stage serves known history) :
    ∃ vehicle, history <+: course vehicle ∧ StateAfter vehicle history.length known := by
  cases stage with
  | unknown unserved => exact ⟨.invalid, List.nil_prefix, rfl⟩
  | @unclaimed state unassigned unserved =>
    refine ⟨.invalid, ⟨_, rfl⟩, ?_⟩
    cases state with
    | announced => exact .inl rfl
    | available => exact .inr rfl
    | inCargo | delivered => cases unassigned
  | loading served => exact ⟨_, ⟨_, rfl⟩, rfl⟩
  | aboard unserved => exact ⟨_, ⟨_, rfl⟩, rfl⟩
  | unloading served => exact ⟨_, ⟨_, rfl⟩, rfl⟩
  | delivered unserved => exact ⟨_, ⟨_, rfl⟩, rfl⟩

/-- A stage depends on who serves the parcel, and on nothing else of the drivers. -/
theorem congr (stage : Stage serves known history)
    (same : ∀ vehicle kind, after vehicle kind ↔ serves vehicle kind) :
    Stage after known history := by
  have equal : after = serves := by
    funext vehicle kind
    exact propext (same vehicle kind)
  rw [equal]
  exact stage

theorem announced (stage : Stage serves none history) (unassigned : state.isUnassigned = true) :
    Stage serves (some state) (history ++ [(.newParcel, none)]) := by
  cases stage with
  | unknown unserved => exact .unclaimed unassigned unserved

theorem opened (stage : Stage serves (some .announced) history) :
    Stage serves (some .available) history := by
  cases stage with
  | unclaimed unassigned unserved => exact .unclaimed rfl unserved

/-- A vehicle that serves nothing begins to serve a stop. -/
theorem started (stage : Stage serves (some (kind.stateBefore vehicle)) history)
    (idle : ∀ kind, ¬ serves vehicle kind)
    (begun : ∀ other service, after other service ↔
      serves other service ∨ other = vehicle ∧ service = kind) :
    Stage after (some (.inCargo vehicle)) (history ++ [(kind.startEvent, some vehicle)]) := by
  cases kind with
  | pickup =>
    cases stage with
    | unclaimed unassigned unserved =>
      exact .loading fun other service => (begun other service).trans
        (or_iff_right (unserved other service))
  | delivery =>
    cases stage with
    | unclaimed unassigned => cases unassigned
    | loading served => exact absurd ((served vehicle .pickup).2 ⟨rfl, rfl⟩) (idle .pickup)
    | aboard unserved =>
      exact .unloading fun other service => (begun other service).trans
        (or_iff_right (unserved other service))
    | unloading served => exact absurd ((served vehicle .delivery).2 ⟨rfl, rfl⟩) (idle .delivery)

/-- A vehicle that serves a stop has served it. -/
theorem ended (stage : Stage serves known history) (serving : serves vehicle kind)
    (left : ∀ other service, after other service ↔ serves other service ∧ other ≠ vehicle) :
    Stage after (some (kind.stateAfter vehicle)) (history ++ [(kind.endEvent, some vehicle)]) := by
  cases stage with
  | unknown unserved | unclaimed _ unserved | aboard unserved | delivered unserved =>
    exact absurd serving (unserved vehicle kind)
  | loading served =>
    obtain ⟨rfl, rfl⟩ := (served vehicle kind).1 serving
    refine .aboard ?_
    intro other service now
    obtain ⟨still, differs⟩ := (left other service).1 now
    exact differs ((served other service).1 still).1
  | unloading served =>
    obtain ⟨rfl, rfl⟩ := (served vehicle kind).1 serving
    refine .delivered ?_
    intro other service now
    obtain ⟨still, differs⟩ := (left other service).1 now
    exact differs ((served other service).1 still).1

end Stage

end LiveFleet
