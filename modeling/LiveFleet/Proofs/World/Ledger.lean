/-
This file holds the books of a world: the events, the parcels, and what every
vehicle carries and is to serve. Where a vehicle stands and where it is heading is
not in the books. Each operation of a vehicle comes with what it does to them. The
claims about cargo, routes and times are claims about the books, so none of them
has to follow the vehicles over the plane.
-/
import LiveFleet.Proofs.World.Account

namespace LiveFleet

open Attempt

/-! ### The load of a vehicle -/

/-- What a vehicle carries, and the stops on its route. -/
structure Load where
  aboard : List ParcelId
  stops : List ParcelId

namespace Load

/-- The load with a parcel more aboard. -/
def stow (load : Load) (parcel : ParcelId) : Load :=
  { load with aboard := load.aboard ++ [parcel] }

/-- The load without a parcel aboard. -/
def unload (load : Load) (parcel : ParcelId) : Load :=
  { load with aboard := load.aboard.filter (· ≠ parcel) }

/-- The load after the first stop for a parcel. -/
def pass (load : Load) (parcel : ParcelId) : Load :=
  { load with stops := load.stops.erase parcel }

/-- The load on another route. -/
def follow (load : Load) (stops : List ParcelId) : Load := { load with stops := stops }

theorem mem_stow {load : Load} {parcel other : ParcelId} :
    other ∈ (load.stow parcel).aboard ↔ other ∈ load.aboard ∨ other = parcel := by
  rw [stow, List.mem_append, List.mem_singleton]

theorem mem_unload {load : Load} {parcel other : ParcelId} :
    other ∈ (load.unload parcel).aboard ↔ other ∈ load.aboard ∧ other ≠ parcel := by
  simp [unload]

end Load

/-- The load of a vehicle during a run. -/
def Vehicle.load (vehicle : Vehicle) : Load := ⟨vehicle.contents, vehicle.route⟩

/-! ### The books -/

/-- The events, the parcels by their identity, and the loads of the vehicles. -/
structure Ledger where
  events : List Event
  parcel? : ParcelId → Option Parcel
  load? : VehicleId → Option Load

namespace Ledger

/-- Write an event into the books. -/
def record (ledger : Ledger) (event : Event) : Ledger :=
  { ledger with events := ledger.events ++ [event] }

/-- Change the state of a parcel. -/
def setState (ledger : Ledger) (parcel : ParcelId) (state : ParcelState) : Ledger :=
  { ledger with
    parcel? := fun other =>
      if other = parcel then
        (ledger.parcel? other).map fun known => { known with state := state }
      else ledger.parcel? other }

/-- Change the load of a vehicle. -/
def reload (ledger : Ledger) (vehicle : VehicleId) (change : Load → Load) : Ledger :=
  { ledger with
    load? := fun other =>
      if other = vehicle then (ledger.load? other).map change else ledger.load? other }

/-- A parcel becomes known. -/
def enter (ledger : Ledger) (parcel : Parcel) : Ledger :=
  { ledger with
    parcel? := fun other => if other = parcel.id then some parcel else ledger.parcel? other }

/-- The pickup windows open that the given time has reached. -/
def opened (ledger : Ledger) (time : Nat) : Ledger :=
  { ledger with
    parcel? := fun other => (ledger.parcel? other).map fun parcel =>
      if World.opensBy time parcel then { parcel with state := .available } else parcel }

/-- A vehicle begins to serve a stop. A parcel is aboard from the start of its loading. -/
def begun (ledger : Ledger) (vehicle : VehicleId) (parcel : ParcelId) (time : Nat) :
    StopKind → Ledger
  | .pickup =>
    ((ledger.setState parcel (.inCargo vehicle)).reload vehicle (·.stow parcel)).record
      ⟨.startPickup, time, parcel, some vehicle⟩
  | .delivery => ledger.record ⟨.startDelivery, time, parcel, some vehicle⟩

/-- A vehicle has served a stop. -/
def ended (ledger : Ledger) (vehicle : VehicleId) (parcel : ParcelId) (time : Nat) :
    StopKind → Ledger
  | .pickup => ledger.record ⟨.endPickup, time, parcel, some vehicle⟩
  | .delivery =>
    ((ledger.setState parcel .delivered).reload vehicle (·.unload parcel)).record
      ⟨.endDelivery, time, parcel, some vehicle⟩

/-- The books know the parcel, in the given state. -/
def Has (ledger : Ledger) (parcel : ParcelId) (state : ParcelState) : Prop :=
  ∃ known, ledger.parcel? parcel = some known ∧ known.state = state

/-- The books know the parcel, and no vehicle has claimed it. -/
def Unclaimed (ledger : Ledger) (parcel : ParcelId) : Prop :=
  ∃ known, ledger.parcel? parcel = some known ∧ known.state.isUnassigned = true

/-- The books know the parcel, and a vehicle has claimed it. -/
def Claimed (ledger : Ledger) (parcel : ParcelId) : Prop :=
  ∃ known, ledger.parcel? parcel = some known ∧ known.state.isUnassigned = false

variable {ledger : Ledger} {parcel other : ParcelId} {known : Parcel} {state : ParcelState}
  {vehicle : VehicleId} {load : Load} {change : Load → Load}

theorem Claimed.not_unclaimed (claimed : ledger.Claimed parcel) : ¬ ledger.Unclaimed parcel := by
  rintro ⟨known, found, unassigned⟩
  obtain ⟨same, foundSame, assigned⟩ := claimed
  rw [found] at foundSame
  cases foundSame
  rw [unassigned] at assigned
  cases assigned

theorem Has.claimed (has : ledger.Has parcel state) (assigned : state.isUnassigned = false) :
    ledger.Claimed parcel := by
  obtain ⟨known, found, rfl⟩ := has
  exact ⟨known, found, assigned⟩

theorem parcel?_setState_self (found : ledger.parcel? parcel = some known) :
    (ledger.setState parcel state).parcel? parcel = some { known with state := state } := by
  rw [setState]
  dsimp only
  rw [if_pos rfl, found, Option.map_some]

theorem parcel?_setState_other (differs : other ≠ parcel) :
    (ledger.setState parcel state).parcel? other = ledger.parcel? other := if_neg differs

theorem load?_reload_self (found : ledger.load? vehicle = some load) :
    (ledger.reload vehicle change).load? vehicle = some (change load) := by
  rw [reload]
  dsimp only
  rw [if_pos rfl, found, Option.map_some]

theorem load?_reload_other {other : VehicleId} (differs : other ≠ vehicle) :
    (ledger.reload vehicle change).load? other = ledger.load? other := if_neg differs

/-- The load of a vehicle after a reload is one that it had, changed. -/
theorem load?_reload_own {later : Load}
    (found : (ledger.reload vehicle change).load? vehicle = some later) :
    ∃ load, ledger.load? vehicle = some load ∧ change load = later :=
  Option.map_eq_some_iff.1 ((if_pos rfl).symm.trans found)

theorem load?_reload_cases {other : VehicleId} {later : Load}
    (found : (ledger.reload vehicle change).load? other = some later) :
    (other = vehicle ∧ ∃ load, ledger.load? vehicle = some load ∧ change load = later) ∨
      (other ≠ vehicle ∧ ledger.load? other = some later) := by
  by_cases own : other = vehicle
  · subst own
    exact .inl ⟨rfl, load?_reload_own found⟩
  · exact .inr ⟨own, (if_neg own).symm.trans found⟩

/-- A parcel is in one state. -/
theorem Has.unique {second : ParcelState} (has : ledger.Has parcel state)
    (also : ledger.Has parcel second) : state = second := by
  obtain ⟨known, found, rfl⟩ := has
  obtain ⟨other, foundOther, rfl⟩ := also
  rw [found] at foundOther
  cases foundOther
  rfl

theorem Has.unclaimed (has : ledger.Has parcel state) (unassigned : state.isUnassigned = true) :
    ledger.Unclaimed parcel := by
  obtain ⟨known, found, rfl⟩ := has
  exact ⟨known, found, unassigned⟩

theorem Has.setState_self {before : ParcelState} (has : ledger.Has parcel before) :
    (ledger.setState parcel state).Has parcel state := by
  obtain ⟨known, found, -⟩ := has
  exact ⟨_, parcel?_setState_self found, rfl⟩

theorem Has.setState_other {held : ParcelState} (has : ledger.Has other held)
    (differs : other ≠ parcel) : (ledger.setState parcel state).Has other held := by
  obtain ⟨known, found, same⟩ := has
  exact ⟨known, (parcel?_setState_other differs).trans found, same⟩

theorem isSome_load?_reload (other : VehicleId) :
    ((ledger.reload vehicle change).load? other).isSome = (ledger.load? other).isSome := by
  rw [reload]
  dsimp only
  split
  · rw [Option.isSome_map]
  · rfl

theorem load?_ended_other {time : Nat} {kind : StopKind} {other : VehicleId}
    (differs : other ≠ vehicle) :
    (ledger.ended vehicle parcel time kind).load? other = ledger.load? other := by
  cases kind with
  | pickup => rfl
  | delivery => exact load?_reload_other differs

/-- Services take no vehicle away and add none. -/
theorem isSome_load?_begun (time : Nat) (kind : StopKind) (other : VehicleId) :
    ((ledger.begun vehicle parcel time kind).load? other).isSome =
      (ledger.load? other).isSome := by
  cases kind with
  | pickup => exact isSome_load?_reload other
  | delivery => rfl

theorem isSome_load?_ended (time : Nat) (kind : StopKind) (other : VehicleId) :
    ((ledger.ended vehicle parcel time kind).load? other).isSome =
      (ledger.load? other).isSome := by
  cases kind with
  | pickup => rfl
  | delivery => exact isSome_load?_reload other

/-- A service concerns one parcel, and is entered once. -/
theorem parcel?_begun_other {time : Nat} {kind : StopKind} (differs : other ≠ parcel) :
    (ledger.begun vehicle parcel time kind).parcel? other = ledger.parcel? other := by
  cases kind with
  | pickup => exact parcel?_setState_other differs
  | delivery => rfl

theorem parcel?_ended_other {time : Nat} {kind : StopKind} (differs : other ≠ parcel) :
    (ledger.ended vehicle parcel time kind).parcel? other = ledger.parcel? other := by
  cases kind with
  | pickup => rfl
  | delivery => exact parcel?_setState_other differs

theorem events_begun (vehicle : VehicleId) (parcel : ParcelId) (time : Nat) (kind : StopKind) :
    (ledger.begun vehicle parcel time kind).events =
      ledger.events ++ [⟨kind.startEvent, time, parcel, some vehicle⟩] := by
  cases kind <;> rfl

theorem events_ended (vehicle : VehicleId) (parcel : ParcelId) (time : Nat) (kind : StopKind) :
    (ledger.ended vehicle parcel time kind).events =
      ledger.events ++ [⟨kind.endEvent, time, parcel, some vehicle⟩] := by
  cases kind <;> rfl

end Ledger

namespace World

/-- The load of a vehicle, if it exists. -/
def load? (world : World) (vehicle : VehicleId) : Option Load :=
  (world.vehicle? vehicle).map Vehicle.load

/-- The books of a world. -/
def ledger (world : World) : Ledger := ⟨world.events, world.parcel?, world.load?⟩

variable {world after : World} {vehicle : VehicleId} {parcel : ParcelId} {time : Nat}

theorem ledger_load?_of_vehicle? {carrier : Vehicle}
    (found : world.vehicle? vehicle = some carrier) :
    world.ledger.load? vehicle = some carrier.load := congrArg (Option.map Vehicle.load) found

/-! ### What the operations do to the books -/

theorem ledger_setState (world : World) (parcel : ParcelId) (state : ParcelState) :
    (world.setState parcel.index state).ledger = world.ledger.setState parcel state := by
  unfold ledger Ledger.setState
  congr 1
  funext other
  exact parcel?_setState world parcel other state

theorem ledger_modifyVehicle (world : World) (vehicle : VehicleId) {change : Vehicle → Vehicle}
    {reload : Load → Load} (reloads : ∀ known, (change known).load = reload known.load) :
    (world.modifyVehicle vehicle.index change).ledger = world.ledger.reload vehicle reload := by
  unfold ledger Ledger.reload
  congr 1
  funext other
  unfold load?
  rw [vehicle?_modifyVehicle]
  split
  · rw [Option.map_map, Option.map_map]
    congr 1
    funext known
    exact reloads known
  · rfl

theorem changeVehicle_eq_ok_iff {change : Vehicle → Vehicle} :
    changeVehicle vehicle change world = (.ok (), after) ↔
      (∃ known, world.vehicle? vehicle = some known) ∧
        after = world.modifyVehicle vehicle.index change := by
  unfold changeVehicle
  cases world.vehicle? vehicle <;> simp [eq_comm]

/-- A change of a vehicle that is not in the books. -/
theorem changeVehicle_ledger {change : Vehicle → Vehicle}
    (same : ∀ known, (change known).load = known.load) (vehicle : VehicleId) :
    Keeps ledger (changeVehicle vehicle change) := by
  intro world
  unfold changeVehicle
  split
  · have reloaded : (world.modifyVehicle vehicle.index change).ledger =
        world.ledger.reload vehicle id := ledger_modifyVehicle world vehicle same
    rw [reloaded]
    unfold Ledger.reload
    congr 1
    funext other
    rw [Option.map_id]
    exact ite_self _
  · rfl

/-! ### Services -/

/-- A parcel gets a state, its vehicle changes what it carries, and an event is written. -/
theorem settle_ledger {state : ParcelState} {kind : EventKind} {change : Vehicle → Vehicle}
    {reload : Load → Load} (reloads : ∀ known, (change known).load = reload known.load)
    (settled : (changeState parcel state >>= fun _ => changeVehicle vehicle change >>= fun _ =>
      log kind vehicle parcel time) world = (.ok (), after)) :
    after.ledger = ((world.ledger.setState parcel state).reload vehicle reload).record
      ⟨kind, time, parcel, some vehicle⟩ := by
  obtain ⟨_, _, changed, settled⟩ := bind_eq_ok_iff.1 settled
  obtain ⟨-, rfl⟩ := changeState_eq_ok_iff.1 changed
  obtain ⟨_, _, loaded, settled⟩ := bind_eq_ok_iff.1 settled
  obtain ⟨-, rfl⟩ := changeVehicle_eq_ok_iff.1 loaded
  cases settled
  rw [← ledger_setState, ← ledger_modifyVehicle _ _ reloads]
  rfl

theorem requireInCargo_ledger {action : ParcelAction}
    (required : requireInCargo vehicle parcel action world = (.ok (), after)) :
    world.ledger.Has parcel (.inCargo vehicle) ∧ world = after :=
  requireInCargo_eq_ok_iff.1 required

/-- To begin to serve a stop, the parcel must be in the right state. -/
theorem start_ledger {kind : StopKind}
    (started : kind.start vehicle parcel time world = (.ok (), after)) :
    world.ledger.Has parcel (kind.stateBefore vehicle) ∧
      after.ledger = world.ledger.begun vehicle parcel time kind := by
  cases kind with
  | pickup =>
    obtain ⟨_, _, looked, started⟩ := bind_eq_ok_iff.1 started
    obtain ⟨-, rfl⟩ := inspect_eq_ok_iff.1 looked
    obtain ⟨known, _, looked, started⟩ := bind_eq_ok_iff.1 started
    obtain ⟨found, rfl⟩ := inspect_eq_ok_iff.1 looked
    obtain ⟨_, _, required, started⟩ := bind_eq_ok_iff.1 started
    obtain ⟨available, rfl⟩ := require_eq_ok_iff.1 required
    obtain ⟨_, _, required, started⟩ := bind_eq_ok_iff.1 started
    obtain ⟨-, rfl⟩ := require_eq_ok_iff.1 required
    exact ⟨⟨known, parcel_eq_ok_iff.1 found, available⟩, settle_ledger (fun _ => rfl) started⟩
  | delivery =>
    obtain ⟨_, _, required, started⟩ := bind_eq_ok_iff.1 started
    obtain ⟨aboard, rfl⟩ := requireInCargo_ledger required
    obtain ⟨_, _, looked, started⟩ := bind_eq_ok_iff.1 started
    obtain ⟨-, rfl⟩ := inspect_eq_ok_iff.1 looked
    obtain ⟨_, _, looked, started⟩ := bind_eq_ok_iff.1 started
    obtain ⟨-, rfl⟩ := inspect_eq_ok_iff.1 looked
    obtain ⟨_, _, required, started⟩ := bind_eq_ok_iff.1 started
    obtain ⟨-, rfl⟩ := require_eq_ok_iff.1 required
    cases started
    exact ⟨aboard, rfl⟩

/-- To have served a stop, the vehicle must have the parcel. -/
theorem finish_ledger {kind : StopKind}
    (finished : kind.finish vehicle parcel time world = (.ok (), after)) :
    world.ledger.Has parcel (.inCargo vehicle) ∧
      after.ledger = world.ledger.ended vehicle parcel time kind := by
  cases kind with
  | pickup =>
    obtain ⟨_, _, required, finished⟩ := bind_eq_ok_iff.1 finished
    obtain ⟨aboard, rfl⟩ := requireInCargo_ledger required
    cases finished
    exact ⟨aboard, rfl⟩
  | delivery =>
    obtain ⟨_, _, required, finished⟩ := bind_eq_ok_iff.1 finished
    obtain ⟨aboard, rfl⟩ := requireInCargo_ledger required
    exact ⟨aboard, settle_ledger (fun _ => rfl) finished⟩

/-! ### New parcels -/

/-- The parcel that becomes known next. -/
def nextParcel (world : World) (order : TransportOrder) (time : Nat) : Parcel :=
  ⟨⟨world.parcels.length⟩, order,
    if order.pickupWindow.hasBegun time then .available else .announced⟩

theorem nextParcel_unknown (world : World) (order : TransportOrder) (time : Nat) :
    world.ledger.parcel? (world.nextParcel order time).id = none := world.parcel?_next

theorem ledger_announce (world : World) (order : TransportOrder) (time : Nat) :
    (world.announce order time).2.ledger =
      (world.ledger.enter (world.nextParcel order time)).record
        ⟨.newParcel, time, ⟨world.parcels.length⟩, none⟩ := by
  unfold ledger Ledger.enter Ledger.record
  congr 1
  funext other
  by_cases new : other = ⟨world.parcels.length⟩
  · rw [new]
    exact (world.parcel?_announce_next order time).trans (if_pos rfl).symm
  · exact (world.parcel?_announce_other order time new).trans (if_neg new).symm

theorem ledger_refresh (world : World) (time : Nat) :
    (world.refresh time).2.ledger = world.ledger.opened time := by
  unfold ledger Ledger.opened
  congr 1
  funext other
  exact world.parcel?_refresh time other

end World

/-! ### What never goes back -/

/-- A parcel is later what it is now, or has been claimed since it was available. -/
def Parcel.LeadsTo (known later : Parcel) : Prop :=
  later.id = known.id ∧ later.order = known.order ∧
    (later.state = known.state ∨ known.state ≠ .announced ∧ later.state.isUnassigned = false)

namespace Ledger

variable {ledger middle after : Ledger} {parcel : ParcelId} {known later : Parcel}
  {state : ParcelState} {vehicle : VehicleId}

/-- Every known parcel has moved on, and none has become known. -/
def Advances (ledger after : Ledger) : Prop :=
  ∀ parcel, Option.Rel Parcel.LeadsTo (ledger.parcel? parcel) (after.parcel? parcel)

theorem Advances.of_same (same : after.parcel? = ledger.parcel?) : ledger.Advances after := by
  intro parcel
  rw [same]
  cases ledger.parcel? parcel with
  | none => exact .none
  | some known => exact .some ⟨rfl, rfl, .inl rfl⟩

theorem Advances.forward (advances : ledger.Advances after)
    (found : ledger.parcel? parcel = some known) :
    ∃ later, after.parcel? parcel = some later ∧ known.LeadsTo later := by
  have moved := advances parcel
  rw [found] at moved
  cases outcome : after.parcel? parcel with
  | none =>
    rw [outcome] at moved
    cases moved
  | some later =>
    rw [outcome] at moved
    cases moved with
    | some leads => exact ⟨later, rfl, leads⟩

theorem Advances.backward (advances : ledger.Advances after)
    (found : after.parcel? parcel = some later) :
    ∃ known, ledger.parcel? parcel = some known ∧ known.LeadsTo later := by
  have moved := advances parcel
  rw [found] at moved
  cases outcome : ledger.parcel? parcel with
  | none =>
    rw [outcome] at moved
    cases moved
  | some known =>
    rw [outcome] at moved
    cases moved with
    | some leads => exact ⟨known, rfl, leads⟩

theorem Advances.isSome_parcel? (advances : ledger.Advances after)
    (known : (ledger.parcel? parcel).isSome = true) : (after.parcel? parcel).isSome = true := by
  obtain ⟨before, found⟩ := Option.isSome_iff_exists.1 known
  obtain ⟨later, foundLater, -⟩ := advances.forward found
  exact Option.isSome_of_eq_some foundLater

/-- No parcel is given back. -/
theorem Advances.unclaimed (advances : ledger.Advances after) (unclaimed : after.Unclaimed parcel) :
    ledger.Unclaimed parcel := by
  obtain ⟨later, found, unassigned⟩ := unclaimed
  obtain ⟨before, foundBefore, -, -, same | ⟨-, assigned⟩⟩ := advances.backward found
  · exact ⟨before, foundBefore, same ▸ unassigned⟩
  · rw [unassigned] at assigned
    cases assigned

theorem Advances.claimed (advances : ledger.Advances after) (claimed : ledger.Claimed parcel) :
    after.Claimed parcel := by
  obtain ⟨before, found, assigned⟩ := claimed
  obtain ⟨later, foundLater, -, -, same | ⟨-, assignedLater⟩⟩ := advances.forward found
  · exact ⟨later, foundLater, same ▸ assigned⟩
  · exact ⟨later, foundLater, assignedLater⟩

/-- A parcel that is claimed moves on. -/
theorem advances_setState {claimed : ParcelState} (has : ledger.Has parcel state)
    (available : state ≠ .announced) (assigned : claimed.isUnassigned = false) :
    ledger.Advances (ledger.setState parcel claimed) := by
  intro other
  obtain ⟨known, found, rfl⟩ := has
  by_cases own : other = parcel
  · rw [own, parcel?_setState_self found, found]
    exact .some ⟨rfl, rfl, .inr ⟨available, assigned⟩⟩
  · rw [parcel?_setState_other own]
    exact Advances.of_same rfl other

theorem advances_begun {kind : StopKind} {time : Nat}
    (ready : ledger.Has parcel (kind.stateBefore vehicle)) :
    ledger.Advances (ledger.begun vehicle parcel time kind) := by
  cases kind with
  | pickup => exact advances_setState ready nofun rfl
  | delivery => exact .of_same rfl

theorem advances_ended {kind : StopKind} {time : Nat}
    (aboard : ledger.Has parcel (.inCargo vehicle)) :
    ledger.Advances (ledger.ended vehicle parcel time kind) := by
  cases kind with
  | pickup => exact .of_same rfl
  | delivery => exact advances_setState aboard nofun rfl

/-! ### What becomes known, and what opens -/

variable {new : Parcel} {time : Nat}

theorem parcel?_enter_other (differs : parcel ≠ new.id) :
    (ledger.enter new).parcel? parcel = ledger.parcel? parcel := if_neg differs

/-- A parcel that was known before another one became known is not that one. -/
theorem ne_of_known (unknown : ledger.parcel? new.id = none)
    (known : (ledger.parcel? parcel).isSome = true) : parcel ≠ new.id := by
  rintro rfl
  rw [unknown] at known
  cases known

/-- What was known stays known when another parcel becomes known. -/
theorem isSome_parcel?_enter (unknown : ledger.parcel? new.id = none)
    (known : (ledger.parcel? parcel).isSome = true) :
    ((ledger.enter new).parcel? parcel).isSome = true := by
  rw [parcel?_enter_other (ne_of_known unknown known)]
  exact known

theorem unclaimed_enter_other (differs : parcel ≠ new.id) :
    (ledger.enter new).Unclaimed parcel ↔ ledger.Unclaimed parcel := by
  unfold Unclaimed
  rw [parcel?_enter_other differs]

theorem isSome_parcel?_opened :
    ((ledger.opened time).parcel? parcel).isSome = (ledger.parcel? parcel).isSome :=
  Option.isSome_map

/-- A window that opens claims no parcel, and gives none back. -/
theorem parcel?_opened (found : ledger.parcel? parcel = some known) :
    ∃ later, (ledger.opened time).parcel? parcel = some later ∧ later.id = known.id ∧
      later.state.isUnassigned = known.state.isUnassigned := by
  refine ⟨_, congrArg (Option.map _) found, ?_⟩
  dsimp only
  split
  · rename_i opens
    rw [World.opensBy, Bool.and_eq_true, decide_eq_true_eq] at opens
    exact ⟨rfl, by rw [opens.1]; rfl⟩
  · exact ⟨rfl, rfl⟩

theorem unclaimed_opened :
    (ledger.opened time).Unclaimed parcel ↔ ledger.Unclaimed parcel := by
  constructor
  · rintro ⟨later, found, unassigned⟩
    obtain ⟨known, foundBefore, -⟩ := Option.map_eq_some_iff.1 found
    obtain ⟨same, foundSame, -, sameState⟩ := parcel?_opened foundBefore
    rw [found] at foundSame
    cases foundSame
    exact ⟨known, foundBefore, sameState ▸ unassigned⟩
  · rintro ⟨known, found, unassigned⟩
    obtain ⟨later, foundLater, -, sameState⟩ := parcel?_opened found
    exact ⟨later, foundLater, sameState ▸ unassigned⟩

theorem Claimed.opened (claimed : ledger.Claimed parcel) : (ledger.opened time).Claimed parcel := by
  obtain ⟨known, found, assigned⟩ := claimed
  obtain ⟨later, foundLater, -, sameState⟩ := parcel?_opened found
  exact ⟨later, foundLater, sameState ▸ assigned⟩

theorem Claimed.enter (claimed : ledger.Claimed parcel) (unknown : ledger.parcel? new.id = none) :
    (ledger.enter new).Claimed parcel := by
  obtain ⟨known, found, assigned⟩ := claimed
  have differs := ne_of_known unknown (Option.isSome_of_eq_some found)
  exact ⟨known, (parcel?_enter_other differs).trans found, assigned⟩

end Ledger

end LiveFleet
