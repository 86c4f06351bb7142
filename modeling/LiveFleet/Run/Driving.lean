/-
This file drives a vehicle through a tick, round after round, and shows that
this ends. The measure of a round has three parts, of which the earlier ones
weigh more: the decisive steps that all parcels together still have before
them, the kind of service under way, and the length of the route. Every round
that is followed by another one makes the measure smaller, whatever is written
on the board in the meantime.
-/
import LiveFleet.Run.Courier
import LiveFleet.World.Progress

namespace LiveFleet

open Attempt

namespace Cab

variable {Board View : Type}

/-! ### What the steps leave alone -/

theorem onWorld_world {view : World → View} {change : World.Change} (kept : Keeps view change) :
    Keeps (fun cab : Cab Board => view cab.world) (onWorld change) :=
  keeps_within kept fun _ _ same => same

theorem onWorld_courier (change : World.Change) :
    Keeps (fun cab : Cab Board => cab.courier) (onWorld change) := by
  intro cab
  unfold onWorld within
  split <;> rfl

theorem lookUp_keeps {Value : Type} (view : Cab Board → View)
    (find : World → Except WorldError Value) : Keeps view (lookUp find) := keeps_inspect _

theorem popStop_parcels (parcel : ParcelId) :
    Keeps (fun cab : Cab Board => cab.world.parcels) (popStop parcel) :=
  keeps_bind keeps_get fun _ => keeps_bind (lookUp_keeps _ _) fun _ =>
    onWorld_world (World.changeVehicle_parcels _ _)

theorem popStop_courier (parcel : ParcelId) :
    Keeps (fun cab : Cab Board => cab.courier) (popStop parcel) :=
  keeps_bind keeps_get fun _ => keeps_bind (lookUp_keeps _ _) fun _ => onWorld_courier _

theorem committedRoute_keeps (publication : Publication) :
    Keeps (fun cab : Cab Board => (cab.courier, cab.world)) (committedRoute publication) := by
  intro cab
  unfold committedRoute
  dsimp only
  split
  · rfl
  · split <;> rfl

theorem adopt_parcels (read : ReadBoard Board) :
    Keeps (fun cab : Cab Board => cab.world.parcels) (adopt read) := by
  refine keeps_bind keeps_get fun cab => ?_
  split
  · exact keeps_pure _
  · refine keeps_bind (fun _ => rfl) fun latest => ?_
    split
    · exact keeps_pure _
    · split
      · exact keeps_pure _
      · refine keeps_bind (keeps_modify fun _ => rfl) fun _ => keeps_bind (fun cab => ?_) fun _ =>
          onWorld_world (World.changeVehicle_parcels _ _)
        exact congrArg (fun kept => kept.2.parcels) (committedRoute_keeps _ cab)

theorem adopt_service (read : ReadBoard Board) :
    Keeps (fun cab : Cab Board => cab.courier.service) (adopt read) := by
  refine keeps_bind keeps_get fun cab => ?_
  split
  · exact keeps_pure _
  · refine keeps_bind (fun _ => rfl) fun latest => ?_
    split
    · exact keeps_pure _
    · split
      · exact keeps_pure _
      · refine keeps_bind (keeps_modify fun _ => rfl) fun _ =>
          keeps_bind (fun cab => ?_) fun _ => ?_
        · exact congrArg (fun kept => kept.1.service) (committedRoute_keeps _ cab)
        · exact fun cab => congrArg Courier.service (onWorld_courier _ cab)

theorem travel_parcels (target : Point) (time finish : Nat) :
    Keeps (fun cab : Cab Board => cab.world.parcels) (travel target time finish) := by
  refine keeps_bind keeps_get fun cab => keeps_bind (lookUp_keeps _ _) fun vehicle => ?_
  split
  · exact keeps_pure _
  · split
    · exact keeps_pure _
    · exact keeps_bind (onWorld_world (World.changeVehicle_parcels _ _)) fun _ =>
        keeps_bind (keeps_ofExcept _ _) fun _ => keeps_pure _

theorem travel_courier (target : Point) (time finish : Nat) :
    Keeps (fun cab : Cab Board => cab.courier) (travel target time finish) := by
  refine keeps_bind keeps_get fun cab => keeps_bind (lookUp_keeps _ _) fun vehicle => ?_
  split
  · exact keeps_pure _
  · split
    · exact keeps_pure _
    · exact keeps_bind (onWorld_courier _) fun _ =>
        keeps_bind (keeps_ofExcept _ _) fun _ => keeps_pure _

/-! ### The measure -/

/-- What the service under way contributes: an unloading is about to deliver, and a loading is about
to leave the vehicle without a service. -/
def serviceRank : Option Service → Nat
  | none => 1
  | some ⟨_, .pickup, _⟩ => 2
  | some ⟨_, .delivery, _⟩ => 0

/-- The number of stops on the route of the vehicle. -/
def stopCount (cab : Cab Board) : Nat :=
  match cab.world.vehicle? cab.courier.vehicle with
  | some vehicle => vehicle.route.length
  | none => 0

/-- The measure of a tick of a vehicle. -/
def effort (cab : Cab Board) : Nat × Nat × Nat :=
  (cab.world.stepsLeft, serviceRank cab.courier.service, cab.stopCount)

/-- The order of the measure: an earlier part decides before a later one. -/
abbrev Less : Nat × Nat × Nat → Nat × Nat × Nat → Prop :=
  Prod.Lex (· < ·) (Prod.Lex (· < ·) (· < ·))

theorem less_of_steps {before after : Cab Board}
    (fewer : after.world.stepsLeft < before.world.stepsLeft) : Less after.effort before.effort :=
  Prod.Lex.left _ _ fewer

theorem less_of_rank {before after : Cab Board}
    (same : after.world.stepsLeft = before.world.stepsLeft)
    (lower : serviceRank after.courier.service < serviceRank before.courier.service) :
    Less after.effort before.effort := by
  unfold effort
  rw [same]
  exact Prod.Lex.right _ (Prod.Lex.left _ _ lower)

theorem less_of_stops {before after : Cab Board}
    (same : after.world.stepsLeft = before.world.stepsLeft)
    (sameCourier : after.courier = before.courier) (shorter : after.stopCount < before.stopCount) :
    Less after.effort before.effort := by
  unfold effort
  rw [same, sameCourier]
  exact Prod.Lex.right _ (Prod.Lex.right _ shorter)

/-! ### Every round but the last lowers the measure -/

/-- A change of the world that ends with an answer, seen from the world. -/
theorem onWorld_eq_ok {change : World.Change} {cab final : Cab Board}
    (changed : onWorld change cab = (.ok (), final)) :
    change cab.world = (.ok (), final.world) ∧ final.courier = cab.courier := by
  rw [onWorld, within_eq_ok_iff] at changed
  obtain ⟨world, changed, rfl⟩ := changed
  exact ⟨changed, rfl⟩

theorem lookUp_eq_ok {Value : Type} {find : World → Except WorldError Value}
    {cab final : Cab Board} {value : Value} (found : lookUp find cab = (.ok value, final)) :
    find cab.world = .ok value ∧ cab = final := by
  obtain ⟨widened, rfl⟩ := inspect_eq_ok_iff.1 found
  refine ⟨?_, rfl⟩
  cases outcome : find cab.world with
  | error _ =>
    rw [outcome] at widened
    cases widened
  | ok known =>
    rw [outcome] at widened
    exact congrArg Except.ok (Except.ok.inj widened)

theorem setService_eq_ok {service : Option Service} {cab final : Cab Board}
    (changed : setService service cab = (.ok (), final)) :
    final = { cab with courier := { cab.courier with service := service } } := by
  cases changed
  rfl

/-- Ending a service that the driver has lowers the measure. -/
theorem endService_less {read : ReadBoard Board} {service : Service} {time : Nat}
    {cab final : Cab Board} (underWay : cab.courier.service = some service)
    (ended : endService read service time cab = (.ok (), final)) :
    Less final.effort cab.effort := by
  rw [endService, get_bind_apply] at ended
  obtain ⟨_, finished, inWorld, ended⟩ := bind_eq_ok_iff.1 ended
  obtain ⟨inWorld, -⟩ := onWorld_eq_ok inWorld
  obtain ⟨_, cleared, setTo, ended⟩ := bind_eq_ok_iff.1 ended
  obtain rfl := setService_eq_ok setTo
  have parcels := view_of_eq ended (keeps_bind (popStop_parcels _) fun _ => adopt_parcels read)
  have idle : final.courier.service = none :=
    view_of_eq ended
      (keeps_bind (fun cab => congrArg Courier.service (popStop_courier _ cab))
        fun _ => adopt_service read)
  obtain ⟨parcel, kind, endsAt⟩ := service
  cases kind with
  | pickup =>
    refine less_of_rank (World.stepsLeft_of_parcels ?_) ?_
    · exact parcels.trans (view_of_eq inWorld (World.finishPickup_parcels _ _ _))
    · rw [idle, underWay]
      exact Nat.lt_succ_self 1
  | delivery =>
    refine less_of_steps ?_
    rw [World.stepsLeft_of_parcels parcels]
    exact World.stepsLeft_finishDelivery_lt inWorld

/-- Starting a service lowers the measure of a driver without one. -/
theorem startService_less {parcel : ParcelId} {order : TransportOrder} {kind : StopKind}
    {time : Nat} {before cab final : Cab Board}
    (steps : cab.world.stepsLeft = before.world.stepsLeft) (idle : before.courier.service = none)
    (started : startService parcel order kind time cab = (.ok (), final)) :
    Less final.effort before.effort := by
  rw [startService, get_bind_apply] at started
  obtain ⟨_, _, inWorld, started⟩ := bind_eq_ok_iff.1 started
  obtain ⟨inWorld, -⟩ := onWorld_eq_ok inWorld
  obtain ⟨_, _, timed, started⟩ := bind_eq_ok_iff.1 started
  obtain ⟨-, rfl⟩ := ofExcept_eq_ok_iff.1 timed
  rw [setService_eq_ok started]
  cases kind with
  | pickup =>
    refine less_of_steps ?_
    rw [← steps]
    exact World.stepsLeft_startPickup_lt inWorld
  | delivery =>
    refine less_of_rank ?_ ?_
    · rw [← steps]
      exact World.stepsLeft_of_parcels (view_of_eq inWorld (World.startDelivery_parcels _ _ _))
    · rw [idle]
      exact Nat.zero_lt_one

/-- Skipping the first stop of the route lowers the measure. -/
theorem popStop_less {stop : ParcelId} {rest : List ParcelId} {vehicle : Vehicle}
    {cab final : Cab Board} (found : cab.world.vehicle? cab.courier.vehicle = some vehicle)
    (route : vehicle.route = stop :: rest) (popped : popStop stop cab = (.ok (), final)) :
    Less final.effort cab.effort := by
  have parcels := view_of_eq popped (popStop_parcels _)
  have sameCourier := view_of_eq popped (popStop_courier _)
  refine less_of_stops (World.stepsLeft_of_parcels parcels) sameCourier ?_
  rw [popStop, get_bind_apply] at popped
  obtain ⟨looked, _, lookedUp, popped⟩ := bind_eq_ok_iff.1 popped
  obtain ⟨known, rfl⟩ := lookUp_eq_ok lookedUp
  rw [World.vehicle_eq_ok_iff, found] at known
  cases known
  obtain ⟨inWorld, -⟩ := onWorld_eq_ok popped
  unfold World.setRoute World.changeVehicle at inWorld
  rw [found] at inWorld
  simp only [Prod.mk.injEq, true_and] at inWorld
  unfold World.vehicle? at found
  unfold stopCount World.vehicle?
  rw [sameCourier, ← inWorld]
  unfold World.modifyVehicle
  simp only [List.getElem?_modify_eq, found, route, List.erase_cons_head, List.length_cons]
  exact Nat.lt_succ_self _

/-- Reaching and starting to serve a stop lowers the measure of a driver without a service. -/
theorem approach_less {stop : ParcelId} {parcel : Parcel} {kind : StopKind} {time next : Nat}
    {lapse : TimeLapse} {cab final : Cab Board} (idle : cab.courier.service = none)
    (approached : approach stop parcel kind time lapse cab = (.ok (some next), final)) :
    Less final.effort cab.effort := by
  rw [approach, get_bind_apply] at approached
  obtain ⟨_, directed, inWorld, approached⟩ := bind_eq_ok_iff.1 approached
  obtain ⟨inWorld, -⟩ := onWorld_eq_ok inWorld
  obtain ⟨⟨arrived, time⟩, there, travelled, approached⟩ := bind_eq_ok_iff.1 approached
  have parcels := (view_of_eq travelled (travel_parcels _ _ _)).trans
    (view_of_eq inWorld (World.changeVehicle_parcels _ _))
  dsimp only at approached
  split at approached
  · cases approached
  · split at approached
    · cases approached
    · obtain ⟨_, _, started, approached⟩ := bind_eq_ok_iff.1 approached
      cases approached
      exact startService_less (World.stepsLeft_of_parcels parcels) idle started

/-- A round that is followed by another one lowers the measure. -/
theorem round_less {read : ReadBoard Board} {lapse : TimeLapse} {mayReturn : Bool}
    {time next : Nat} {cab final : Cab Board}
    (gone : round read lapse mayReturn time cab = (.ok (some next), final)) :
    Less final.effort cab.effort := by
  rw [round, get_bind_apply] at gone
  cases underWay : cab.courier.service with
  | some service =>
    simp only [underWay] at gone
    split at gone
    · cases gone
    · obtain ⟨_, _, ended, gone⟩ := bind_eq_ok_iff.1 gone
      cases gone
      exact endService_less underWay ended
  | none =>
    simp only [underWay] at gone
    split at gone
    · cases gone
    · obtain ⟨vehicle, _, looked, gone⟩ := bind_eq_ok_iff.1 gone
      obtain ⟨found, rfl⟩ := lookUp_eq_ok looked
      cases route : vehicle.route with
      | nil =>
        simp only [route] at gone
        obtain ⟨_, _, -, gone⟩ := bind_eq_ok_iff.1 gone
        cases gone
      | cons stop rest =>
        simp only [route] at gone
        obtain ⟨parcel, _, looked, gone⟩ := bind_eq_ok_iff.1 gone
        obtain ⟨-, rfl⟩ := lookUp_eq_ok looked
        cases kind : stopKind? vehicle parcel stop with
        | some kind =>
          simp only [kind] at gone
          exact approach_less underWay gone
        | none =>
          simp only [kind] at gone
          obtain ⟨_, _, popped, gone⟩ := bind_eq_ok_iff.1 gone
          cases gone
          exact popStop_less (World.vehicle_eq_ok_iff.1 found) route popped

/-! ### Driving -/

/-- Drive and serve, round after round, until the tick is over for this vehicle. -/
def drive (read : ReadBoard Board) (lapse : TimeLapse) (mayReturn : Bool) (time : Nat)
    (cab : Cab Board) : Except (Failure WorldError) Unit × Cab Board :=
  match _ : round read lapse mayReturn time cab with
  | (.error failure, reached) => (.error failure, reached)
  | (.ok none, reached) => (.ok (), reached)
  | (.ok (some next), reached) => drive read lapse mayReturn next reached
termination_by cab.effort
decreasing_by exact round_less (by assumption)

/-- A tick of a vehicle: a newer schedule is adopted, and then the vehicle drives. -/
def tick (read : ReadBoard Board) (lapse : TimeLapse) (mayReturn : Bool) : Step Board Unit := do
  adopt read
  drive read lapse mayReturn lapse.start

end Cab

end LiveFleet
