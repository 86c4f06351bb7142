/-
This file holds what a vehicle does in a tick. It follows its route stop by
stop: it drives towards the place of the next stop, and once there it starts
the service, which takes as long as the order says. A newer schedule is adopted
at the beginning of a tick and after each service, never during one, and only
if the entry of the vehicle fits; otherwise the vehicle keeps the stops of its
old route that it may still make. A stop whose parcel was claimed by another
vehicle, or delivered, is skipped. At a pickup place the vehicle waits for the
pickup window to open. With no stop left it waits where it is, and returns to
the depot once no parcel is to be announced any more.

A tick ends after finitely many rounds. A round that is not the last one claims
or delivers a parcel, ends a loading, starts an unloading, or skips a stop; no
parcel is claimed or delivered twice, and between two such events the others
are limited by the length of the route. This holds whatever schedules are
published in the meantime.
-/
import LiveFleet.Run.Consistency
import LiveFleet.Solver.Desk
import LiveFleet.Time.Lapse
import LiveFleet.World.Service

namespace LiveFleet

namespace StopKind

/-- Where a stop of an order is. -/
def place (order : TransportOrder) : StopKind → Point
  | pickup => order.pickupPlace
  | delivery => order.deliveryPlace

/-- How long a stop of an order takes. -/
def duration (order : TransportOrder) : StopKind → Nat
  | pickup => order.pickupDuration
  | delivery => order.deliveryDuration

/-- Start to serve a stop. -/
def start (vehicle : VehicleId) (parcel : ParcelId) (time : Nat) : StopKind → World.Change
  | pickup => World.startPickup vehicle parcel time
  | delivery => World.startDelivery vehicle parcel time

/-- Finish serving a stop. -/
def finish (vehicle : VehicleId) (parcel : ParcelId) (time : Nat) : StopKind → World.Change
  | pickup => World.finishPickup vehicle parcel time
  | delivery => World.finishDelivery vehicle parcel time

end StopKind

/-- A pickup or a delivery that is under way. -/
structure Service where
  parcel : ParcelId
  kind : StopKind
  endsAt : Nat
  deriving DecidableEq, Repr

/-- The driver of a vehicle: which version of the schedule was considered last, and which service is
under way. -/
structure Courier where
  vehicle : VehicleId
  adopted : Nat
  service : Option Service
  deriving DecidableEq, Repr

/-- A driver before the first tick. -/
def Courier.start (vehicle : VehicleId) : Courier := ⟨vehicle, 0, none⟩

/-- Everything that a driver sees and changes: itself, the world, the memory of rejected entries,
and the board on which schedules are published. -/
structure Cab (Board : Type) where
  courier : Courier
  world : World
  repairs : RepairLog
  board : Board

/-- How to look at a board. Others may write on it in the meantime, so a look is a step. -/
abbrev ReadBoard (Board : Type) := Board → Option Publication × Board

namespace Cab

variable {Board : Type}

/-- A step of a driver. -/
abbrev Step (Board Value : Type) := Attempt (Cab Board) (Failure WorldError) Value

/-- Change the world. -/
def onWorld (change : World.Change) : Step Board Unit :=
  Attempt.within Cab.world (fun world cab => { cab with world := world }) .refused change

/-- Look something up in the world. -/
def lookUp {Value : Type} (find : World → Except WorldError Value) : Step Board Value :=
  Attempt.inspect fun cab => (find cab.world).mapError .refused

/-- Begin or end a service. -/
def setService (service : Option Service) : Step Board Unit :=
  modify fun cab => { cab with courier := { cab.courier with service := service } }

/-- Look at the board. -/
def look (read : ReadBoard Board) : Step Board (Option Publication) :=
  modifyGet fun cab => ((read cab.board).1, { cab with board := (read cab.board).2 })

/-- Take note of the version that is being considered. -/
def setAdopted (version : Nat) : Step Board Unit :=
  modify fun cab => { cab with courier := { cab.courier with adopted := version } }

/-- The route that a driver commits to when a version is published: its entry if that fits, and
otherwise what is left of the old route. -/
def committedRoute (publication : Publication) : Step Board (List ParcelId) := fun cab =>
  let entry := publication.schedule.entry? cab.courier.vehicle
  match RepairLog.check cab.world cab.courier.vehicle entry publication.version cab.repairs with
  | (.ok (), repairs) => (.ok (entry.getD []), { cab with repairs := repairs })
  | (.error _, repairs) =>
    let cab := { cab with repairs := repairs }
    match cab.world.vehicle cab.courier.vehicle with
    | .ok vehicle => (.ok (cab.world.pruneRoute cab.courier.vehicle vehicle.route), cab)
    | .error error => (.error (.refused error), cab)

/-- Adopt the schedule that is on the board, if it is newer than the one considered last. No
schedule is adopted during a service. -/
def adopt (read : ReadBoard Board) : Step Board Unit := do
  let cab ← get
  if cab.courier.service.isSome then return
  match ← look read with
  | none => return
  | some publication =>
    if publication.version ≤ cab.courier.adopted then return
    setAdopted publication.version
    let route ← committedRoute publication
    onWorld (World.setRoute cab.courier.vehicle route)

/-- Remove the first stop for a parcel from the route. -/
def popStop (parcel : ParcelId) : Step Board Unit := do
  let cab ← get
  let vehicle ← lookUp fun world => world.vehicle cab.courier.vehicle
  onWorld (World.setRoute cab.courier.vehicle (vehicle.route.erase parcel))

/-- Drive towards a place from the given time until the lapse ends. The answer is whether the
vehicle is there, and at which time. A vehicle without speed does not move. -/
def travel (target : Point) (time finish : Nat) : Step Board (Bool × Nat) := do
  let cab ← get
  let vehicle ← lookUp fun world => world.vehicle cab.courier.vehicle
  if vehicle.position.samePlace target then return (true, time)
  if finish ≤ time || vehicle.profile.speed ≤ 0 then return (false, time)
  let reach := vehicle.profile.distanceIn (finish - time)
  let (place, travelled) := vehicle.position.stepTowards target reach
  onWorld (World.moveVehicle cab.courier.vehicle place)
  let spent := (travelled / vehicle.profile.speed * VehicleProfile.hour).ceil.toUInt64.toNat
  let arrival ← Attempt.ofExcept .crashed (Checked.add time spent)
  return (place.samePlace target, min arrival finish)

/-- End a service at the given time: the parcel is loaded or delivered, its stop is done, and a
newer schedule may be adopted. -/
def endService (read : ReadBoard Board) (service : Service) (time : Nat) : Step Board Unit := do
  let cab ← get
  onWorld (service.kind.finish cab.courier.vehicle service.parcel time)
  setService none
  popStop service.parcel
  adopt read

/-- Start to serve the next stop at the given time. -/
def startService (parcel : ParcelId) (order : TransportOrder) (kind : StopKind) (time : Nat) :
    Step Board Unit := do
  let cab ← get
  onWorld (kind.start cab.courier.vehicle parcel time)
  let endsAt ← Attempt.ofExcept .crashed (Checked.add time (kind.duration order))
  setService (some ⟨parcel, kind, endsAt⟩)

/-- What the next stop is for: a parcel aboard is delivered, one that nobody has claimed is picked
up, and any other one is not for this vehicle. -/
def stopKind? (vehicle : Vehicle) (parcel : Parcel) (stop : ParcelId) : Option StopKind :=
  if vehicle.carries stop then some .delivery
  else if parcel.state.isUnassigned then some .pickup
  else none

/-- Drive to the next stop and start to serve it. The answer is the time at which driving goes on,
and nothing if the tick is over for this vehicle. -/
def approach (stop : ParcelId) (parcel : Parcel) (kind : StopKind) (time : Nat)
    (lapse : TimeLapse) : Step Board (Option Nat) := do
  let cab ← get
  onWorld (World.setDestination cab.courier.vehicle (some stop))
  let (arrived, time) ← travel (kind.place parcel.order) time lapse.finish
  if !arrived then return none
  if kind = .pickup && parcel.state ≠ .available then return none
  startService stop parcel.order kind time
  return some time

/-- Wait, or return to the depot, with no stop left. -/
def rest (mayReturn : Bool) (time : Nat) (lapse : TimeLapse) : Step Board Unit := do
  let cab ← get
  onWorld (World.setDestination cab.courier.vehicle none)
  if mayReturn then
    let _ ← travel cab.world.depot time lapse.finish

/-- One round of driving, from the given time on. The answer is the time at which driving goes on,
and nothing if the tick is over for this vehicle. -/
def round (read : ReadBoard Board) (lapse : TimeLapse) (mayReturn : Bool) (time : Nat) :
    Step Board (Option Nat) := do
  let cab ← get
  match cab.courier.service with
  | some service =>
    if lapse.finish < service.endsAt then return none
    let time := max time service.endsAt
    endService read service time
    return some time
  | none =>
    if lapse.finish ≤ time then return none
    let vehicle ← lookUp fun world => world.vehicle cab.courier.vehicle
    match vehicle.route with
    | [] =>
      rest mayReturn time lapse
      return none
    | stop :: _ =>
      let parcel ← lookUp fun world => world.parcel stop
      match stopKind? vehicle parcel stop with
      | some kind => approach stop parcel kind time lapse
      | none =>
        popStop stop
        return some time

end Cab

end LiveFleet
