/-
This file says what one round of driving can do. A driver with a service under way
waits, or ends the service and writes the event of its end. A driver without one
drives, and may then begin to serve a stop at which its vehicle stands, and writes
the event of that beginning. Nothing else that a driver does is an event, and only
its own vehicle moves, and only while it serves nothing. A service whose end lies
beyond the range of times has begun in the world, but its driver does not know of
it.
-/
import LiveFleet.Proofs.World.Course
import LiveFleet.Run.Driving

namespace LiveFleet

open Attempt

namespace Cab

variable {Board : Type}

/-! ### What the steps leave alone -/

/-- What a driver can do that matters to a parcel. -/
def status (cab : Cab Board) :
    (List Event × List Parcel × (VehicleId → Option Point)) × VehicleId × Option Service :=
  (cab.world.account, cab.courier.vehicle, cab.courier.service)

theorem onWorld_status {change : World.Change} (kept : Keeps World.account change) :
    Keeps (status : Cab Board → _) (onWorld change) := by
  intro cab
  have account := onWorld_world kept cab
  have courier := onWorld_courier change cab
  dsimp only at account courier
  unfold status
  rw [account, courier]

theorem popStop_status (parcel : ParcelId) : Keeps (status : Cab Board → _) (popStop parcel) :=
  keeps_bind keeps_get fun _ => keeps_bind (lookUp_keeps _ _) fun _ =>
    onWorld_status (World.setRoute_account _ _)

theorem adopt_status (read : ReadBoard Board) : Keeps (status : Cab Board → _) (adopt read) := by
  refine keeps_bind keeps_get fun cab => ?_
  split
  · exact keeps_pure _
  · refine keeps_bind (fun _ => rfl) fun latest => ?_
    split
    · exact keeps_pure _
    · split
      · exact keeps_pure _
      · refine keeps_bind (keeps_modify fun _ => rfl) fun _ => keeps_bind (fun cab => ?_) fun _ =>
          onWorld_status (World.setRoute_account _ _)
        have kept := committedRoute_keeps ‹Publication› cab
        obtain ⟨courier, world⟩ := Prod.mk.inj kept
        unfold status
        rw [courier, world]

/-- On its way a driver moves no vehicle but its own. -/
theorem travel_accountBut (target : Point) (time finish : Nat) (cab : Cab Board) :
    (travel target time finish cab).2.world.accountBut cab.courier.vehicle =
      cab.world.accountBut cab.courier.vehicle := by
  rw [travel, get_bind_apply]
  refine keeps_bind (lookUp_keeps (fun reached : Cab Board =>
    reached.world.accountBut cab.courier.vehicle) _) (fun vehicle => ?_) cab
  split
  · exact keeps_pure _
  · split
    · exact keeps_pure _
    · exact keeps_bind (onWorld_world (World.changeVehicle_accountBut _ _)) fun _ =>
        keeps_bind (keeps_ofExcept _ _) fun _ => keeps_pure _

/-- What a driver leaves alone on its way: itself, and all but where its own vehicle stands. -/
def outside (cab : Cab Board) : Courier × List Event × List Parcel × (VehicleId → Option Point) :=
  (cab.courier, cab.world.accountBut cab.courier.vehicle)

theorem onWorld_outside {change : World.Change} (kept : Keeps World.account change) :
    Keeps (outside : Cab Board → _) (onWorld change) := by
  intro cab
  have courier := onWorld_courier change cab
  have others := World.accountBut_of_account (onWorld_world kept cab) cab.courier.vehicle
  dsimp only at courier others
  unfold outside
  rw [courier, others]

theorem travel_outside (target : Point) (time finish : Nat) :
    Keeps (outside : Cab Board → _) (travel target time finish) := by
  intro cab
  have courier := travel_courier target time finish cab
  dsimp only at courier
  unfold outside
  rw [courier, travel_accountBut]

theorem rest_outside (mayReturn : Bool) (time : Nat) (lapse : TimeLapse) :
    Keeps (outside : Cab Board → _) (rest mayReturn time lapse) := by
  refine keeps_bind keeps_get fun cab =>
    keeps_bind (onWorld_outside (World.setDestination_account _ _)) fun _ => ?_
  split
  · exact keeps_bind (travel_outside _ _ _) fun _ => keeps_pure _
  · exact keeps_pure _

/-! ### What a round does -/

/-- How a round ends for the world and the driver. -/
inductive RoundEffect (cab : Cab Board) :
    Except (Failure WorldError) (Option Nat) → Cab Board → Prop where
  /-- No event. A driver with a service under way does not move. -/
  | drove {result : Except (Failure WorldError) (Option Nat)} {after : Cab Board}
      (vehicle : after.courier.vehicle = cab.courier.vehicle)
      (service : after.courier.service = cab.courier.service)
      (others : after.world.accountBut cab.courier.vehicle =
        cab.world.accountBut cab.courier.vehicle)
      (waits : cab.courier.service ≠ none → after.world.account = cab.world.account) :
      RoundEffect cab result after
  /-- A service begins, once the vehicle has arrived. -/
  | began {result : Except (Failure WorldError) (Option Nat)} {after : Cab Board} {middle : World}
      {parcel : ParcelId} {kind : StopKind} {time endsAt : Nat} (idle : cab.courier.service = none)
      (others : middle.accountBut cab.courier.vehicle = cab.world.accountBut cab.courier.vehicle)
      (ready : middle.IsIn parcel (kind.stateBefore cab.courier.vehicle))
      (arrived : middle.IsAt cab.courier.vehicle parcel kind)
      (marks : middle.Marks ⟨kind.startEvent, time, parcel, some cab.courier.vehicle⟩
        (.inCargo cab.courier.vehicle) after.world)
      (vehicle : after.courier.vehicle = cab.courier.vehicle)
      (service : after.courier.service = some ⟨parcel, kind, endsAt⟩) :
      RoundEffect cab result after
  /-- A service begins in the world, and its end lies beyond the range of times. -/
  | broke {after : Cab Board} {middle : World} {parcel : ParcelId} {kind : StopKind} {time : Nat}
      (idle : cab.courier.service = none)
      (others : middle.accountBut cab.courier.vehicle = cab.world.accountBut cab.courier.vehicle)
      (ready : middle.IsIn parcel (kind.stateBefore cab.courier.vehicle))
      (arrived : middle.IsAt cab.courier.vehicle parcel kind)
      (marks : middle.Marks ⟨kind.startEvent, time, parcel, some cab.courier.vehicle⟩
        (.inCargo cab.courier.vehicle) after.world)
      (courier : after.courier = cab.courier) :
      RoundEffect cab (.error (.crashed .addOverflow)) after
  /-- A service ends. -/
  | ended {result : Except (Failure WorldError) (Option Nat)} {after : Cab Board}
      {service : Service} {time : Nat} (underWay : cab.courier.service = some service)
      (marks : cab.world.Marks
        ⟨service.kind.endEvent, time, service.parcel, some cab.courier.vehicle⟩
        (service.kind.stateAfter cab.courier.vehicle) after.world)
      (vehicle : after.courier.vehicle = cab.courier.vehicle)
      (service : after.courier.service = none) : RoundEffect cab result after

/-- A driver that keeps its status has done nothing that matters. -/
theorem RoundEffect.of_status {cab after : Cab Board}
    (result : Except (Failure WorldError) (Option Nat)) (same : after.status = cab.status) :
    RoundEffect cab result after := by
  obtain ⟨account, rest⟩ := Prod.mk.inj same
  obtain ⟨vehicle, service⟩ := Prod.mk.inj rest
  exact .drove vehicle service (World.accountBut_of_account account _) fun _ => account

/-- An idle driver that only travels has done nothing that matters. -/
theorem RoundEffect.of_outside {cab after : Cab Board}
    (result : Except (Failure WorldError) (Option Nat)) (idle : cab.courier.service = none)
    (same : after.outside = cab.outside) : RoundEffect cab result after := by
  obtain ⟨courier, others⟩ := Prod.mk.inj same
  rw [courier] at others
  refine .drove ?_ ?_ others fun busy => absurd idle busy
  · rw [courier]
  · rw [courier]

/-! ### Every round does one of these -/

theorem onWorld_of_ok {change : World.Change} {cab : Cab Board} {after : World}
    (changed : change cab.world = (.ok (), after)) :
    onWorld change cab = (.ok (), { cab with world := after }) := by
  unfold onWorld within
  rw [changed]

theorem onWorld_of_refused {change : World.Change} {cab : Cab Board} {error : WorldError}
    (refused : change cab.world = (.error error, cab.world)) :
    onWorld change cab = (.error (.refused error), cab) := by
  unfold onWorld within
  rw [refused]

/-- To end a service is refused, or writes its event and leaves the driver without a service,
whatever becomes of its route. -/
theorem endService_effect (read : ReadBoard Board) {service : Service} {cab : Cab Board}
    (underWay : cab.courier.service = some service)
    (present : (cab.world.place? cab.courier.vehicle).isSome = true) (time : Nat)
    (result : Except (Failure WorldError) (Option Nat)) :
    RoundEffect cab result (endService read service time cab).2 := by
  rw [endService, get_bind_apply]
  rcases World.finish_cases service.kind present service.parcel time with
    ⟨error, refused⟩ | ⟨after, finished, marks⟩
  · rw [bind_of_failed (onWorld_of_refused refused)]
    exact .of_status _ rfl
  · rw [bind_of_ok (onWorld_of_ok finished)]
    have kept : Keeps (status : Cab Board → _) (popStop service.parcel >>= fun _ => adopt read) :=
      keeps_bind (popStop_status _) fun _ => adopt_status read
    have same := kept { cab with world := after, courier := { cab.courier with service := none } }
    obtain ⟨account, rest⟩ := Prod.mk.inj same
    obtain ⟨vehicle, cleared⟩ := Prod.mk.inj rest
    exact .ended underWay (marks.of_account account) vehicle cleared

/-- To start a service is refused, or writes its event and gives it to the driver, unless its end
lies beyond the range of times. -/
theorem startService_effect {cab reached : Cab Board} (idle : cab.courier.service = none)
    (same : reached.outside = cab.outside) (parcel : ParcelId) (order : TransportOrder)
    (kind : StopKind) (time : Nat) :
    RoundEffect cab
      ((startService parcel order kind time reached).1.map fun _ => some time)
      (startService parcel order kind time reached).2 := by
  obtain ⟨courier, others⟩ := Prod.mk.inj same
  rw [courier] at others
  rw [startService, get_bind_apply, courier]
  rcases World.start_cases kind cab.courier.vehicle parcel time reached.world with
    ⟨error, refused⟩ | ⟨after, started, ready, arrived, marks⟩
  · rw [bind_of_failed (onWorld_of_refused refused)]
    exact .of_outside _ idle same
  · rw [bind_of_ok (onWorld_of_ok started)]
    unfold Checked.add
    split
    · refine .began idle others ready arrived marks ?_ rfl
      show reached.courier.vehicle = cab.courier.vehicle
      rw [courier]
    · exact .broke idle others ready arrived marks courier

/-- On the way to a stop nothing happens, and once there its service starts. -/
theorem approach_effect {cab : Cab Board} (idle : cab.courier.service = none) (stop : ParcelId)
    (parcel : Parcel) (kind : StopKind) (time : Nat) (lapse : TimeLapse) :
    RoundEffect cab (approach stop parcel kind time lapse cab).1
      (approach stop parcel kind time lapse cab).2 := by
  rw [approach, get_bind_apply]
  have sent : Keeps (outside : Cab Board → _)
      (onWorld (World.setDestination cab.courier.vehicle (some stop))) :=
    onWorld_outside (World.setDestination_account _ _)
  refine bind_cases (fun error _ => .of_outside _ idle (sent cab)) fun _ _ => ?_
  have directed := sent cab
  generalize (onWorld (World.setDestination cab.courier.vehicle (some stop)) cab).2 = onTheWay
    at directed
  have same := (travel_outside (kind.place parcel.order) time lapse.finish onTheWay).trans directed
  refine bind_cases (fun error _ => .of_outside _ idle same) fun reached _ => ?_
  generalize (travel (kind.place parcel.order) time lapse.finish onTheWay).2 = there at same
  dsimp only
  split
  · exact .of_outside _ idle same
  · split
    · exact .of_outside _ idle same
    · rw [bind_pure_apply]
      exact startService_effect idle same stop parcel.order kind reached.2

/-- Whatever a driver does in a round, it has one of the effects. -/
theorem round_effect (read : ReadBoard Board) (lapse : TimeLapse) (mayReturn : Bool) (time : Nat)
    {cab : Cab Board}
    (present : cab.courier.service ≠ none →
      (cab.world.place? cab.courier.vehicle).isSome = true) :
    RoundEffect cab (round read lapse mayReturn time cab).1
      (round read lapse mayReturn time cab).2 := by
  rw [round, get_bind_apply]
  cases underWay : cab.courier.service with
  | some service =>
    dsimp only
    split
    · exact .of_status _ rfl
    · have stands : (cab.world.place? cab.courier.vehicle).isSome = true := by
        apply present
        simp [underWay]
      rw [bind_pure_apply]
      exact endService_effect read underWay stands _ _
  | none =>
    dsimp only
    split
    · exact .of_status _ rfl
    · refine bind_cases (fun error _ => .of_status _ rfl) fun vehicle _ => ?_
      cases vehicle.route with
      | nil =>
        dsimp only
        rw [bind_pure_apply]
        exact .of_outside _ underWay (rest_outside mayReturn time lapse cab)
      | cons stop tail =>
        refine bind_cases (fun error _ => .of_status _ rfl) fun parcel _ => ?_
        cases stopKind? vehicle parcel stop with
        | some kind => exact approach_effect underWay stop parcel kind time lapse
        | none =>
          dsimp only
          rw [bind_pure_apply]
          exact .of_status _ (popStop_status stop cab)

end Cab

end LiveFleet
