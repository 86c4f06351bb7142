/-
This file follows a driver through a tick by where its vehicle is said to be going.
A driver that sets out for a stop makes it the destination of its vehicle, and one
without a stop left clears the destination. While it serves a stop, that stop is the
destination and the first of the route. So at the end of its tick the destination is
the first stop of the route, whichever way the driver has come to the end, but for
one: a driver whose service ends together with the tick has passed the stop, and has
no time left to look where it goes next. The destination is then the stop that it
has just served.
-/
import LiveFleet.Proofs.Run.Deeds
import LiveFleet.Proofs.Run.Reach

namespace LiveFleet

open Attempt

/-! ### Destinations and routes -/

/-- Where a vehicle is said to be going, and the stops that it follows. -/
structure Heading where
  destination : Option ParcelId
  route : List ParcelId

/-- The destination is the first stop of the route, and there is none without a stop. -/
def Heading.IsTrue (heading : Heading) : Prop := heading.destination = heading.route.head?

/-- The destination and the first stop of the route are this one. -/
def Heading.IsFor (heading : Heading) (stop : ParcelId) : Prop :=
  heading.destination = some stop ∧ heading.route.head? = some stop

theorem Heading.IsFor.isTrue {heading : Heading} {stop : ParcelId} (isFor : heading.IsFor stop) :
    heading.IsTrue :=
  isFor.1.trans isFor.2.symm

/-- Where the vehicle is going, and its route. -/
def Vehicle.heading (vehicle : Vehicle) : Heading := ⟨vehicle.destination, vehicle.route⟩

namespace World

def heading? (world : World) (vehicle : VehicleId) : Option Heading :=
  (world.vehicle? vehicle).map Vehicle.heading

/-- The destination of a vehicle, if the vehicle exists. -/
def destination? (world : World) (vehicle : VehicleId) : Option (Option ParcelId) :=
  (world.vehicle? vehicle).map Vehicle.destination

theorem destination?_of_heading? {world : World} {vehicle : VehicleId} {heading : Heading}
    (found : world.heading? vehicle = some heading) :
    world.destination? vehicle = some heading.destination := by
  obtain ⟨known, present, rfl⟩ := Option.map_eq_some_iff.1 found
  exact congrArg (Option.map Vehicle.destination) present

theorem heading?_of_destination? {world : World} {vehicle : VehicleId}
    {destination : Option ParcelId} (found : world.destination? vehicle = some destination) :
    ∃ heading, world.heading? vehicle = some heading ∧ heading.destination = destination := by
  obtain ⟨known, present, rfl⟩ := Option.map_eq_some_iff.1 found
  exact ⟨known.heading, congrArg (Option.map Vehicle.heading) present, rfl⟩

/-- What a change of a vehicle does not touch stays as it is for all vehicles. -/
theorem changeVehicle_map {View : Type} {view : Vehicle → View} {change : Vehicle → Vehicle}
    (kept : ∀ known, view (change known) = view known) (vehicle : VehicleId) :
    Keeps (fun world other => (World.vehicle? world other).map view)
      (changeVehicle vehicle change) := by
  intro world
  unfold changeVehicle
  split
  · funext other
    show ((world.modifyVehicle vehicle.index change).vehicle? other).map view =
      (world.vehicle? other).map view
    rw [vehicle?_modifyVehicle]
    split
    · cases world.vehicle? other with
      | none => rfl
      | some known => exact congrArg some (kept known)
    · rfl
  · rfl

theorem changeVehicle_heading {change : Vehicle → Vehicle}
    (kept : ∀ known, (change known).heading = known.heading) (vehicle : VehicleId) :
    Keeps heading? (changeVehicle vehicle change) := changeVehicle_map kept vehicle

theorem setRoute_destination (vehicle : VehicleId) (route : List ParcelId) :
    Keeps destination? (setRoute vehicle route) := by
  refine changeVehicle_map ?_ vehicle
  exact fun _ => rfl

/-- To set the destination of a vehicle that exists leaves its route alone. -/
theorem setDestination_heading {world : World} {vehicle : VehicleId} {heading : Heading}
    (found : world.heading? vehicle = some heading) (destination : Option ParcelId) :
    ∃ after, setDestination vehicle destination world = (.ok (), after) ∧
      after.heading? vehicle = some ⟨destination, heading.route⟩ := by
  obtain ⟨known, present, rfl⟩ := Option.map_eq_some_iff.1 found
  refine ⟨_, changeVehicle_eq_ok_iff.2 ⟨⟨known, present⟩, rfl⟩, ?_⟩
  rw [heading?, vehicle?_modifyVehicle, if_pos rfl, present]
  rfl

/-! ### Services do not concern the headings -/

theorem changeState_heading (parcel : ParcelId) (state : ParcelState) :
    Keeps heading? (changeState parcel state) := by
  intro world
  unfold changeState
  split <;> rfl

theorem log_heading (kind : EventKind) (vehicle : VehicleId) (parcel : ParcelId) (time : Nat) :
    Keeps heading? (log kind vehicle parcel time) :=
  keeps_modify fun _ => rfl

/-- The headings of the other vehicles survive what a driver changes. -/
theorem survives_headings (vehicle : VehicleId) (headings : VehicleId → Option Heading) :
    Survives vehicle fun world => ∀ other, other ≠ vehicle → world.heading? other = headings other where
  changeVehicle := by
    intro change world same other differs
    refine Eq.trans ?_ (same other differs)
    unfold World.changeVehicle
    split
    · show ((world.modifyVehicle vehicle.index change).vehicle? other).map _ = _
      rw [vehicle?_modifyVehicle, if_neg differs]
      rfl
    · rfl
  changeState := fun parcel state world same other differs =>
    (congrFun (changeState_heading parcel state world) other).trans (same other differs)
  record := fun _ _ same => same

/-- What a vehicle carries is none of its heading. -/
theorem settle_heading (vehicle : VehicleId) (parcel : ParcelId) (state : ParcelState)
    {change : Vehicle → Vehicle} (kept : ∀ known, (change known).heading = known.heading)
    (kind : EventKind) (time : Nat) :
    Keeps heading? (changeState parcel state >>= fun _ => changeVehicle vehicle change >>= fun _ =>
      log kind vehicle parcel time) :=
  keeps_bind (changeState_heading _ _) fun _ =>
    keeps_bind (changeVehicle_heading kept _) fun _ => log_heading _ _ _ _

theorem start_heading (kind : StopKind) (vehicle : VehicleId) (parcel : ParcelId) (time : Nat) :
    Keeps heading? (kind.start vehicle parcel time) := by
  cases kind with
  | pickup =>
    refine keeps_bind (keeps_inspect _) fun _ => keeps_bind (keeps_inspect _) fun _ =>
      keeps_bind (keeps_require _ _) fun _ => keeps_bind (keeps_require _ _) fun _ =>
        settle_heading _ _ _ ?_ _ _
    exact fun _ => rfl
  | delivery =>
    exact keeps_bind (requireInCargo_keeps _ _ _ _) fun _ => keeps_bind (keeps_inspect _) fun _ =>
      keeps_bind (keeps_inspect _) fun _ => keeps_bind (keeps_require _ _) fun _ =>
        log_heading _ _ _ _

theorem finish_heading (kind : StopKind) (vehicle : VehicleId) (parcel : ParcelId) (time : Nat) :
    Keeps heading? (kind.finish vehicle parcel time) := by
  cases kind with
  | pickup =>
    exact keeps_bind (requireInCargo_keeps _ _ _ _) fun _ => log_heading _ _ _ _
  | delivery =>
    refine keeps_bind (requireInCargo_keeps _ _ _ _) fun _ => settle_heading _ _ _ ?_ _ _
    exact fun _ => rfl

end World

namespace Cab

variable {Board : Type}

/-! ### What a driver is bound for -/

/-- The driver, and the headings of all vehicles. -/
def bearing (cab : Cab Board) : Courier × (VehicleId → Option Heading) :=
  (cab.courier, cab.world.heading?)

/-- The heading of the vehicle that the driver drives. -/
def heading? (cab : Cab Board) : Option Heading := cab.world.heading? cab.courier.vehicle

theorem onWorld_bearing {change : World.Change} (kept : Keeps World.heading? change) :
    Keeps (bearing : Cab Board → _) (onWorld change) := by
  intro cab
  have courier := onWorld_courier change cab
  have headings := onWorld_world kept cab
  dsimp only at courier headings
  unfold bearing
  rw [courier, headings]

/-- A driver that is on its way does not change where it goes. -/
theorem travel_bearing (target : Point) (time finish : Nat) :
    Keeps (bearing : Cab Board → _) (travel target time finish) := by
  refine keeps_bind keeps_get fun cab => keeps_bind (lookUp_keeps _ _) fun vehicle => ?_
  split
  · exact keeps_pure _
  · split
    · exact keeps_pure _
    · refine keeps_bind (onWorld_bearing (World.changeVehicle_heading ?_ _)) fun _ =>
        keeps_bind (keeps_ofExcept _ _) fun _ => keeps_pure _
      exact fun _ => rfl

theorem popStop_destination (parcel : ParcelId) :
    Keeps (fun cab : Cab Board => cab.world.destination?) (popStop parcel) :=
  keeps_bind keeps_get fun _ => keeps_bind (lookUp_keeps _ _) fun _ =>
    onWorld_world (World.setRoute_destination _ _)

theorem adopt_destination (read : ReadBoard Board) :
    Keeps (fun cab : Cab Board => cab.world.destination?) (adopt read) := by
  refine keeps_bind keeps_get fun cab => ?_
  split
  · exact keeps_pure _
  · refine keeps_bind (fun _ => rfl) fun latest => ?_
    split
    · exact keeps_pure _
    · split
      · exact keeps_pure _
      · refine keeps_bind (keeps_modify fun _ => rfl) fun _ => keeps_bind (fun cab => ?_) fun _ =>
          onWorld_world (World.setRoute_destination _ _)
        exact congrArg (fun kept => kept.2.destination?) (committedRoute_keeps _ cab)

/-- The vehicle exists, and while it serves a stop it is said to be going there. -/
def IsSteady (cab : Cab Board) : Prop :=
  ∃ heading, cab.heading? = some heading ∧
    ∀ service, cab.courier.service = some service → heading.IsFor service.parcel

/-- The driver has ended a service at this moment, and its vehicle is still said to be going to the
stop that it has served. -/
def Overran (moment : Nat) (cab : Cab Board) : Prop :=
  cab.courier.service = none ∧ ∃ (heading : Heading) (parcel : ParcelId) (kind : StopKind),
    cab.heading? = some heading ∧ heading.destination = some parcel ∧
      ⟨kind.endEvent, moment, parcel, some cab.courier.vehicle⟩ ∈ cab.world.events

/-- At the end of its tick the vehicle goes to the first stop of its route, unless its driver has
ended a service at this moment. -/
def IsSettled (moment : Nat) (cab : Cab Board) : Prop :=
  (∃ heading, cab.heading? = some heading ∧ heading.IsTrue) ∨ cab.Overran moment

/-- The tick may go on for a driver at this time: it is not over, or a service has ended with it. -/
structure IsBound (finish time : Nat) (cab : Cab Board) : Prop where
  steady : cab.IsSteady
  inTime : time ≤ finish
  late : cab.courier.service = none → time = finish → cab.Overran finish

/-- How a round may end: it has failed, the tick is over for this driver, or it goes on. -/
def Heads (finish : Nat) (result : Except (Failure WorldError) (Option Nat)) (cab : Cab Board) :
    Prop :=
  match result with
  | .error _ => cab.IsSteady
  | .ok none => cab.IsSteady ∧ cab.IsSettled finish
  | .ok (some next) => cab.IsBound finish next

variable {read : ReadBoard Board} {cab reached : Cab Board} {heading : Heading} {finish time : Nat}

/-- A driver that serves nothing is only asked for its vehicle. -/
theorem isSteady_of_idle (idle : cab.courier.service = none) (found : cab.heading? = some heading) :
    cab.IsSteady := by
  refine ⟨heading, found, fun service underWay => ?_⟩
  rw [idle] at underWay
  cases underWay

theorem isSettled_of_isTrue (found : cab.heading? = some heading) (isTrue : heading.IsTrue) :
    cab.IsSettled finish := .inl ⟨heading, found, isTrue⟩

/-- A driver with the same bearing has the same heading. -/
theorem heading?_of_bearing (same : reached.bearing = cab.bearing) :
    reached.courier = cab.courier ∧ reached.heading? = cab.heading? := by
  obtain ⟨courier, headings⟩ := Prod.mk.inj same
  refine ⟨courier, ?_⟩
  rw [heading?, heading?, courier, headings]

theorem IsSteady.of_heading (steady : cab.IsSteady) (courier : reached.courier = cab.courier)
    (headed : reached.heading? = cab.heading?) : reached.IsSteady := by
  unfold IsSteady
  rw [courier, headed]
  exact steady

theorem IsSteady.of_bearing (steady : cab.IsSteady) (same : reached.bearing = cab.bearing) :
    reached.IsSteady :=
  steady.of_heading (heading?_of_bearing same).1 (heading?_of_bearing same).2

/-- A driver stays settled while nothing is struck from the log. -/
theorem IsSettled.of_heading (settled : cab.IsSettled time) (courier : reached.courier = cab.courier)
    (headed : reached.heading? = cab.heading?)
    (recorded : ∀ event ∈ cab.world.events, event ∈ reached.world.events) :
    reached.IsSettled time := by
  unfold IsSettled Overran
  rw [courier, headed]
  rcases settled with onCourse | ⟨idle, heading, parcel, kind, found, served, written⟩
  · exact .inl onCourse
  · exact .inr ⟨idle, heading, parcel, kind, found, served, recorded _ written⟩

/-- A driver arrives before the end of the lapse. -/
theorem travel_inTime {target : Point} {arrived : Bool} {next : Nat} (inTime : time ≤ finish)
    (travelled : travel target time finish cab = (.ok (arrived, next), reached)) :
    next ≤ finish := by
  rw [travel, get_bind_apply] at travelled
  obtain ⟨vehicle, _, -, travelled⟩ := bind_eq_ok_iff.1 travelled
  split at travelled
  · cases travelled
    exact inTime
  · split at travelled
    · cases travelled
      exact inTime
    · obtain ⟨_, _, -, travelled⟩ := bind_eq_ok_iff.1 travelled
      obtain ⟨arrival, _, -, travelled⟩ := bind_eq_ok_iff.1 travelled
      cases travelled
      exact Nat.min_le_right _ _

/-! ### One round -/

/-- A driver that heads for its first stop, or for none without a stop left, is settled. -/
theorem heads_of_isTrue (isTrue : heading.IsTrue) (found : cab.heading? = some heading)
    (steady : cab.IsSteady) (result : Except (Failure WorldError) Unit) :
    Heads finish (result.map fun _ => none) cab := by
  cases result with
  | error => exact steady
  | ok => exact ⟨steady, isSettled_of_isTrue found isTrue⟩

/-- A driver without a stop left clears the destination. -/
theorem rest_heads (idle : cab.courier.service = none) (found : cab.heading? = some heading)
    (noStop : heading.route = []) (mayReturn : Bool) (time : Nat) (lapse : TimeLapse) :
    Heads lapse.finish ((rest mayReturn time lapse cab).1.map fun _ => none)
      (rest mayReturn time lapse cab).2 := by
  obtain ⟨world, cleared, headed⟩ := World.setDestination_heading found none
  let halted : Cab Board := { cab with world := world }
  have stopped : Keeps (bearing : Cab Board → _)
      (if mayReturn then do let _ ← travel cab.world.depot time lapse.finish else pure ()) := by
    split
    · exact keeps_bind (travel_bearing _ _ _) fun _ => keeps_pure _
    · exact keeps_pure _
  rw [rest, get_bind_apply, bind_of_ok (onWorld_of_ok cleared)]
  obtain ⟨courier, sameHeading⟩ := heading?_of_bearing (stopped halted)
  have foundThen : (_ : Cab Board).heading? = some _ := sameHeading.trans headed
  refine heads_of_isTrue ?_ foundThen (isSteady_of_idle ?_ foundThen) _
  · rw [noStop]
    rfl
  · rw [courier]
    exact idle

/-- To start a service leaves the driver bound for its stop. -/
theorem startService_heads (idle : cab.courier.service = none)
    (found : cab.heading? = some heading) {stop : ParcelId} (isFor : heading.IsFor stop)
    (order : TransportOrder) (kind : StopKind) (inTime : time ≤ finish) :
    Heads finish ((startService stop order kind time cab).1.map fun _ => some time)
      (startService stop order kind time cab).2 := by
  have same := onWorld_bearing (World.start_heading kind cab.courier.vehicle stop time) cab
  have steady := isSteady_of_idle idle found
  rw [startService, get_bind_apply, bind_apply]
  generalize onWorld (kind.start cab.courier.vehicle stop time) cab = outcome at same
  rcases outcome with ⟨failure | _, started⟩
  · exact steady.of_bearing same
  · obtain ⟨courier, sameHeading⟩ := heading?_of_bearing same
    dsimp only
    rw [bind_apply]
    cases timed : Checked.add time (kind.duration order) with
    | error crash => exact steady.of_bearing same
    | ok endsAt =>
      have foundThen : started.heading? = some heading := sameHeading.trans found
      refine ⟨⟨heading, foundThen, fun service underWay => ?_⟩, inTime, fun none => ?_⟩
      · cases underWay
        exact isFor
      · cases none

/-- On the way to its first stop a driver heads for it, and once there it is bound for it. -/
theorem approach_heads (idle : cab.courier.service = none) (found : cab.heading? = some heading)
    {stop : ParcelId} (next : heading.route.head? = some stop) (parcel : Parcel) (kind : StopKind)
    {lapse : TimeLapse} (inTime : time ≤ lapse.finish) :
    Heads lapse.finish (approach stop parcel kind time lapse cab).1
      (approach stop parcel kind time lapse cab).2 := by
  obtain ⟨world, directed, headed⟩ := World.setDestination_heading found (some stop)
  let onTheWay : Cab Board := { cab with world := world }
  have isFor : Heading.IsFor ⟨some stop, heading.route⟩ stop := ⟨rfl, next⟩
  rw [approach, get_bind_apply, bind_of_ok (onWorld_of_ok directed)]
  have same := travel_bearing (kind.place parcel.order) time lapse.finish onTheWay
  have arrives : ∀ arrived moment there, travel (kind.place parcel.order) time lapse.finish onTheWay =
      (.ok (arrived, moment), there) → moment ≤ lapse.finish :=
    fun _ _ _ travelled => travel_inTime inTime travelled
  rw [bind_apply]
  generalize travel (kind.place parcel.order) time lapse.finish onTheWay = outcome at same arrives
  obtain ⟨result, there⟩ := outcome
  obtain ⟨courier, sameHeading⟩ := heading?_of_bearing same
  have foundThen : there.heading? = some ⟨some stop, heading.route⟩ := sameHeading.trans headed
  have idleThen : there.courier.service = none := by
    rw [courier]
    exact idle
  have steady := isSteady_of_idle idleThen foundThen
  rcases result with failure | ⟨arrived, moment⟩
  · exact steady
  · dsimp only
    split
    · exact ⟨steady, isSettled_of_isTrue foundThen isFor.isTrue⟩
    · split
      · exact ⟨steady, isSettled_of_isTrue foundThen isFor.isTrue⟩
      · rw [bind_pure_apply]
        exact startService_heads idleThen foundThen isFor parcel.order kind (arrives _ _ _ rfl)

/-- A driver that ends a service at the end of the lapse has overrun its stop. -/
theorem isBound_of_ended {stop : ParcelId} {kind : StopKind} (idle : cab.courier.service = none)
    (kept : cab.world.destination? cab.courier.vehicle = some (some stop))
    (ended : ⟨kind.endEvent, time, stop, some cab.courier.vehicle⟩ ∈ cab.world.events)
    (inTime : time ≤ finish) : cab.IsBound finish time where
  steady := by
    obtain ⟨heading, found, -⟩ := World.heading?_of_destination? kept
    exact isSteady_of_idle idle found
  inTime := inTime
  late := by
    rintro - rfl
    obtain ⟨heading, found, served⟩ := World.heading?_of_destination? kept
    exact ⟨idle, heading, stop, kind, found, served, ended⟩

/-- To end a service clears it, and leaves the destination alone. -/
theorem endService_heads (steady : cab.IsSteady) {service : Service}
    (underWay : cab.courier.service = some service) (read : ReadBoard Board)
    (inTime : time ≤ finish) :
    Heads finish ((endService read service time cab).1.map fun _ => some time)
      (endService read service time cab).2 := by
  obtain ⟨heading, found, serving⟩ := steady
  have present : (cab.world.place? cab.courier.vehicle).isSome = true := by
    obtain ⟨carrier, present, -⟩ := Option.map_eq_some_iff.1 found
    rw [World.place?, present]
    rfl
  rw [endService, get_bind_apply]
  rcases World.finish_cases service.kind present service.parcel time with
    ⟨error, refused⟩ | ⟨world, finished, marks⟩
  · rw [bind_of_failed (onWorld_of_refused refused)]
    exact ⟨heading, found, serving⟩
  · rw [bind_of_ok (onWorld_of_ok finished)]
    let idle : Cab Board :=
      { cab with world := world, courier := { cab.courier with service := none } }
    have headings := view_of_eq finished (World.finish_heading _ _ _ _)
    have destination : idle.world.destination? cab.courier.vehicle = some (some service.parcel) := by
      have foundThen : world.heading? cab.courier.vehicle = some heading := by
        rw [headings]
        exact found
      rw [← (serving service underWay).1]
      exact World.destination?_of_heading? foundThen
    have kept : Keeps (status : Cab Board → _) (popStop service.parcel >>= fun _ => adopt read) :=
      keeps_bind (popStop_status _) fun _ => adopt_status read
    have keptToo : Keeps (fun cab : Cab Board => cab.world.destination?)
        (popStop service.parcel >>= fun _ => adopt read) :=
      keeps_bind (popStop_destination _) fun _ => adopt_destination read
    have same := kept idle
    have sameToo := keptToo idle
    show Heads finish (((popStop service.parcel >>= fun _ => adopt read) idle).1.map _)
      ((popStop service.parcel >>= fun _ => adopt read) idle).2
    generalize (popStop service.parcel >>= fun _ => adopt read) idle = outcome at same sameToo
    obtain ⟨result, after⟩ := outcome
    obtain ⟨account, rest⟩ := Prod.mk.inj same
    obtain ⟨vehicle, cleared⟩ := Prod.mk.inj rest
    have vehicle : after.courier.vehicle = cab.courier.vehicle := vehicle
    have stays : after.world.destination? after.courier.vehicle = some (some service.parcel) := by
      rw [vehicle]
      exact (congrFun sameToo _).trans destination
    have logged : ⟨service.kind.endEvent, time, service.parcel, some after.courier.vehicle⟩ ∈
        after.world.events := by
      rw [(marks.of_account account).events, vehicle]
      exact List.mem_append_right _ (List.mem_singleton_self _)
    have bound := isBound_of_ended cleared stays logged inTime
    cases result with
    | error => exact bound.steady
    | ok => exact bound

/-- To skip a stop concerns neither the destination nor the service of a driver. -/
theorem popStop_heads (idle : cab.courier.service = none) (found : cab.heading? = some heading)
    (stop : ParcelId) (inTime : time < finish) :
    Heads finish ((popStop stop cab).1.map fun _ => some time) (popStop stop cab).2 := by
  have courier : (popStop stop cab).2.courier = cab.courier := popStop_courier stop cab
  have kept : (popStop stop cab).2.world.destination? = cab.world.destination? :=
    popStop_destination stop cab
  generalize popStop stop cab = outcome at courier kept
  obtain ⟨result, after⟩ := outcome
  have steady : after.IsSteady := by
    have stays : after.world.destination? after.courier.vehicle = some heading.destination := by
      rw [kept, courier]
      exact World.destination?_of_heading? found
    obtain ⟨headed, foundThen, -⟩ := World.heading?_of_destination? stays
    refine isSteady_of_idle ?_ foundThen
    rw [courier]
    exact idle
  cases result with
  | error => exact steady
  | ok => exact ⟨steady, Nat.le_of_lt inTime, fun _ atEnd => absurd atEnd (Nat.ne_of_lt inTime)⟩

/-- Whatever a driver does in a round, its vehicle goes where it is said to be going when the tick is
over for it. -/
theorem round_heads (read : ReadBoard Board) (lapse : TimeLapse) (mayReturn : Bool)
    (bound : cab.IsBound lapse.finish time) :
    Heads lapse.finish (round read lapse mayReturn time cab).1
      (round read lapse mayReturn time cab).2 := by
  obtain ⟨steady, inTime, late⟩ := bound
  obtain ⟨heading, found, serving⟩ := steady
  rw [round, get_bind_apply]
  cases underWay : cab.courier.service with
  | some service =>
    dsimp only
    split
    · exact ⟨⟨heading, found, serving⟩,
        isSettled_of_isTrue found (serving service underWay).isTrue⟩
    · rename_i ends
      rw [bind_pure_apply]
      exact endService_heads ⟨heading, found, serving⟩ underWay read
        (Nat.max_le.2 ⟨inTime, Nat.le_of_not_lt ends⟩)
  | none =>
    have steady := isSteady_of_idle underWay found
    dsimp only
    split
    · rename_i passed
      exact ⟨steady, .inr (late underWay (Nat.le_antisymm inTime passed))⟩
    · rename_i going
      have before : time < lapse.finish := Nat.lt_of_not_le going
      refine bind_cases (fun error _ => steady) fun vehicle looked => ?_
      have looked : lookUp (fun world => world.vehicle cab.courier.vehicle) cab =
          (.ok vehicle, cab) := Prod.ext looked rfl
      have known := World.vehicle_eq_ok_iff.1 (lookUp_eq_ok looked).1
      obtain ⟨carrier, present, rfl⟩ := Option.map_eq_some_iff.1 found
      rw [present] at known
      cases known
      cases route : vehicle.route with
      | nil =>
        dsimp only
        rw [bind_pure_apply]
        exact rest_heads underWay found route mayReturn time lapse
      | cons stop tail =>
        refine bind_cases (fun error _ => steady) fun parcel _ => ?_
        have next : vehicle.heading.route.head? = some stop := congrArg List.head? route
        cases stopKind? vehicle parcel stop with
        | some kind => exact approach_heads underWay found next parcel kind inTime
        | none =>
          dsimp only
          rw [bind_pure_apply]
          exact popStop_heads underWay found stop before

/-! ### A tick of a driver -/

/-- A driver that looks at the board is steady afterwards. -/
theorem adopt_steady (steady : cab.IsSteady) (read : ReadBoard Board) :
    (adopt read cab).2.IsSteady := by
  cases underWay : cab.courier.service with
  | some service =>
    rw [adopt, get_bind_apply, underWay]
    exact steady
  | none =>
    obtain ⟨heading, found, -⟩ := steady
    obtain ⟨vehicle, idle⟩ := Prod.mk.inj (Prod.mk.inj (adopt_status read cab)).2
    have kept : (adopt read cab).2.world.destination? = cab.world.destination? :=
      adopt_destination read cab
    have stays : (adopt read cab).2.world.destination? (adopt read cab).2.courier.vehicle =
        some heading.destination := by
      rw [kept, vehicle]
      exact World.destination?_of_heading? found
    obtain ⟨headed, foundThen, -⟩ := World.heading?_of_destination? stays
    exact isSteady_of_idle (idle.trans underWay) foundThen

theorem drive_heads (read : ReadBoard Board) (lapse : TimeLapse) (mayReturn : Bool)
    (bound : cab.IsBound lapse.finish time) :
    (drive read lapse mayReturn time cab).2.IsSteady ∧
      ((drive read lapse mayReturn time cab).1 = .ok () →
        (drive read lapse mayReturn time cab).2.IsSettled lapse.finish) := by
  induction time, cab using Cab.drive.induct read lapse mayReturn with
  | case1 time cab failure reached gone =>
    have heads := round_heads read lapse mayReturn bound
    rw [gone] at heads
    rw [drive_of_failed gone]
    refine ⟨heads, fun went => ?_⟩
    cases went
  | case2 time cab reached gone =>
    have heads := round_heads read lapse mayReturn bound
    rw [gone] at heads
    rw [drive_of_over gone]
    exact ⟨heads.1, fun _ => heads.2⟩
  | case3 time cab next reached gone inductionHypothesis =>
    have heads := round_heads read lapse mayReturn bound
    rw [gone] at heads
    rw [drive_of_next gone]
    exact inductionHypothesis heads

/-- At the end of a tick that takes time, a driver that has not failed is settled. -/
theorem tick_heads (steady : cab.IsSteady) (read : ReadBoard Board) {lapse : TimeLapse}
    (takesTime : lapse.start < lapse.finish) (mayReturn : Bool) :
    (tick read lapse mayReturn cab).2.IsSteady ∧
      ((tick read lapse mayReturn cab).1 = .ok () →
        (tick read lapse mayReturn cab).2.IsSettled lapse.finish) := by
  have adopted := adopt_steady steady read
  rw [tick_apply]
  generalize adopt read cab = outcome at adopted
  rcases outcome with ⟨failure | _, ready⟩
  · refine ⟨adopted, fun went => ?_⟩
    cases went
  · exact drive_heads read lapse mayReturn ⟨adopted, Nat.le_of_lt takesTime,
      fun _ atEnd => absurd atEnd (Nat.ne_of_lt takesTime)⟩

/-! ### The other vehicles -/

/-- In its tick a driver leaves the headings of all other vehicles alone. -/
theorem tick_leavesAlone (read : ReadBoard Board) (lapse : TimeLapse) (mayReturn : Bool)
    (cab : Cab Board) :
    (tick read lapse mayReturn cab).2.IsWithin cab.courier.vehicle fun world =>
      ∀ other, other ≠ cab.courier.vehicle → world.heading? other = cab.world.heading? other :=
  tick_within (World.survives_headings _ _) read lapse mayReturn cab ⟨rfl, fun _ _ => rfl⟩

end Cab

end LiveFleet
