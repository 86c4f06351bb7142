/-
This file counts the steps that the parcels of a world still have before them.
A parcel is claimed once and delivered once. Starting a pickup and finishing a
delivery take one of these steps; no other operation of a vehicle takes or adds
one. The count is what bounds the work of a vehicle in one tick.
-/
import LiveFleet.World.Service

namespace LiveFleet

open Attempt

/-- How many of its two decisive steps a parcel still has before it: to be claimed, and to be
delivered. -/
def ParcelState.stepsLeft : ParcelState → Nat
  | announced | available => 2
  | inCargo _ => 1
  | delivered => 0

/-- The sizes of all items together. -/
def totalSize {Item : Type} (size : Item → Nat) : List Item → Nat
  | [] => 0
  | item :: items => size item + totalSize size items

/-- Replacing an item by a smaller one makes all together smaller. -/
theorem totalSize_modify_lt {Item : Type} (size : Item → Nat) (change : Item → Item) :
    ∀ {items : List Item} {index : Nat} {item : Item}, items[index]? = some item →
      size (change item) < size item →
      totalSize size (items.modify index change) < totalSize size items
  | [], _, _, found, _ => by simp at found
  | first :: rest, 0, item, found, smaller => by
    simp only [List.getElem?_cons_zero, Option.some.injEq] at found
    subst found
    simp only [List.modify_zero_cons, totalSize]
    omega
  | first :: rest, index + 1, item, found, smaller => by
    have foundBehind : rest[index]? = some item := by simpa using found
    have shorter := totalSize_modify_lt size change foundBehind smaller
    simp only [List.modify_succ_cons, totalSize]
    omega

namespace World

/-- The decisive steps that all parcels together still have before them. -/
def stepsLeft (world : World) : Nat :=
  totalSize (fun parcel : Parcel => parcel.state.stepsLeft) world.parcels

theorem stepsLeft_of_parcels {world other : World} (same : other.parcels = world.parcels) :
    other.stepsLeft = world.stepsLeft := by
  unfold stepsLeft
  rw [same]

/-- A change of the state of a parcel to a later one leaves fewer steps. -/
theorem stepsLeft_setState_lt {world : World} {parcel : ParcelId} {known : Parcel}
    (found : world.parcel? parcel = some known) {state : ParcelState}
    (later : state.stepsLeft < known.state.stepsLeft) :
    (world.setState parcel.index state).stepsLeft < world.stepsLeft :=
  totalSize_modify_lt (fun known : Parcel => known.state.stepsLeft)
    (fun known : Parcel => { known with state := state }) found later

/-! ### What the operations leave alone -/

theorem changeVehicle_parcels (vehicle : VehicleId) (change : Vehicle → Vehicle) :
    Keeps World.parcels (changeVehicle vehicle change) := by
  intro world
  unfold changeVehicle
  split <;> rfl

theorem log_parcels (kind : EventKind) (vehicle : VehicleId) (parcel : ParcelId) (time : Nat) :
    Keeps World.parcels (log kind vehicle parcel time) :=
  keeps_modify fun _ => rfl

theorem requireInCargo_keeps {View : Type} (view : World → View) (vehicle : VehicleId)
    (parcel : ParcelId) (action : ParcelAction) :
    Keeps view (requireInCargo vehicle parcel action) :=
  keeps_bind (keeps_inspect _) fun _ => keeps_require _ _

theorem finishPickup_parcels (vehicle : VehicleId) (parcel : ParcelId) (time : Nat) :
    Keeps World.parcels (finishPickup vehicle parcel time) :=
  keeps_bind (requireInCargo_keeps _ _ _ _) fun _ => log_parcels _ _ _ _

theorem startDelivery_parcels (vehicle : VehicleId) (parcel : ParcelId) (time : Nat) :
    Keeps World.parcels (startDelivery vehicle parcel time) :=
  keeps_bind (requireInCargo_keeps _ _ _ _) fun _ =>
    keeps_bind (keeps_inspect _) fun _ =>
      keeps_bind (keeps_inspect _) fun _ =>
        keeps_bind (keeps_require _ _) fun _ => log_parcels _ _ _ _

/-! ### What the operations take -/

theorem parcel_eq_ok_iff {world : World} {parcel : ParcelId} {known : Parcel} :
    world.parcel parcel = .ok known ↔ world.parcel? parcel = some known := by
  unfold World.parcel
  split <;> simp_all

theorem vehicle_eq_ok_iff {world : World} {vehicle : VehicleId} {known : Vehicle} :
    world.vehicle vehicle = .ok known ↔ world.vehicle? vehicle = some known := by
  unfold World.vehicle
  split <;> simp_all

theorem requireInCargo_eq_ok_iff {vehicle : VehicleId} {parcel : ParcelId}
    {action : ParcelAction} {world final : World} :
    requireInCargo vehicle parcel action world = (.ok (), final) ↔
      (∃ known, world.parcel? parcel = some known ∧ known.state = .inCargo vehicle) ∧
        world = final := by
  simp only [requireInCargo, bind_eq_ok_iff, inspect_eq_ok_iff, require_eq_ok_iff,
    parcel_eq_ok_iff]
  constructor
  · rintro ⟨known, reached, ⟨found, rfl⟩, aboard, rfl⟩
    exact ⟨⟨known, found, aboard⟩, rfl⟩
  · rintro ⟨⟨known, found, aboard⟩, rfl⟩
    exact ⟨known, world, ⟨found, rfl⟩, aboard, rfl⟩

theorem changeState_eq_ok_iff {parcel : ParcelId} {state : ParcelState} {world final : World} :
    changeState parcel state world = (.ok (), final) ↔
      (∃ known, world.parcel? parcel = some known) ∧ final = world.setState parcel.index state := by
  unfold changeState
  cases world.parcel? parcel <;> simp [eq_comm]

/-- Starting a pickup leaves fewer steps. -/
theorem stepsLeft_startPickup_lt {vehicle : VehicleId} {parcel : ParcelId} {time : Nat}
    {world final : World} (started : startPickup vehicle parcel time world = (.ok (), final)) :
    final.stepsLeft < world.stepsLeft := by
  obtain ⟨_, _, looked, started⟩ := bind_eq_ok_iff.1 started
  obtain ⟨-, rfl⟩ := inspect_eq_ok_iff.1 looked
  obtain ⟨known, _, looked, started⟩ := bind_eq_ok_iff.1 started
  obtain ⟨found, rfl⟩ := inspect_eq_ok_iff.1 looked
  obtain ⟨_, _, required, started⟩ := bind_eq_ok_iff.1 started
  obtain ⟨available, rfl⟩ := require_eq_ok_iff.1 required
  obtain ⟨_, _, required, started⟩ := bind_eq_ok_iff.1 started
  obtain ⟨-, rfl⟩ := require_eq_ok_iff.1 required
  obtain ⟨_, _, changed, started⟩ := bind_eq_ok_iff.1 started
  obtain ⟨-, rfl⟩ := changeState_eq_ok_iff.1 changed
  have kept := view_of_eq started
    (keeps_bind (changeVehicle_parcels _ _) fun _ => log_parcels _ _ _ _)
  rw [stepsLeft_of_parcels kept]
  refine stepsLeft_setState_lt (parcel_eq_ok_iff.1 found) ?_
  rw [available]
  exact Nat.lt_succ_self 1

/-- Finishing a delivery leaves fewer steps. -/
theorem stepsLeft_finishDelivery_lt {vehicle : VehicleId} {parcel : ParcelId} {time : Nat}
    {world final : World} (finished : finishDelivery vehicle parcel time world = (.ok (), final)) :
    final.stepsLeft < world.stepsLeft := by
  obtain ⟨_, _, required, finished⟩ := bind_eq_ok_iff.1 finished
  obtain ⟨⟨known, found, aboard⟩, rfl⟩ := requireInCargo_eq_ok_iff.1 required
  obtain ⟨_, _, changed, finished⟩ := bind_eq_ok_iff.1 finished
  obtain ⟨-, rfl⟩ := changeState_eq_ok_iff.1 changed
  have kept := view_of_eq finished
    (keeps_bind (changeVehicle_parcels _ _) fun _ => log_parcels _ _ _ _)
  rw [stepsLeft_of_parcels kept]
  refine stepsLeft_setState_lt found ?_
  rw [aboard]
  exact Nat.zero_lt_one

end World

end LiveFleet
