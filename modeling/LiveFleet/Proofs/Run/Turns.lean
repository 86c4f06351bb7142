/-
This file says everything that one round of a ready driver can be, with its result
and its time. Either the driver waits for the end of its service, or ends it and
looks at the board; or the tick is over; or it drives and does not arrive in time;
or it skips its next stop, or begins to serve it. Two rounds crash: one in which the
end of the service that begins leaves the range of times, and one in which the time
of a journey does. What follows about times and routes is read off these cases.
-/
import LiveFleet.Proofs.Run.Heading
import LiveFleet.Proofs.Run.Readiness

namespace LiveFleet

open Attempt

/-! ### Journeys -/

namespace Vehicle

/-- The milliseconds that the vehicle needs for the part of the way to a place that it covers in a
given time. -/
def travelTime (vehicle : Vehicle) (target : Point) (duration : Nat) : Nat :=
  ((vehicle.position.stepTowards target (vehicle.profile.distanceIn duration)).2 /
    vehicle.profile.speed * VehicleProfile.hour).ceil.toUInt64.toNat

/-- The vehicle sets out for a place before the lapse ends, and its arrival is beyond the range of
times. -/
structure Strays (vehicle : Vehicle) (target : Point) (time finish : Nat) : Prop where
  apart : vehicle.position.samePlace target = false
  early : time < finish
  moves : ¬ vehicle.profile.speed ≤ 0
  beyond : Checked.range ≤ time + vehicle.travelTime target (finish - time)

end Vehicle

theorem Checked.add_eq_error {left right : Nat} {crash : Crash}
    (failed : Checked.add left right = .error crash) :
    crash = .addOverflow ∧ Checked.range ≤ left + right := by
  unfold Checked.add at failed
  split at failed
  · cases failed
  · rename_i beyond
    cases failed
    exact ⟨rfl, Nat.le_of_not_lt beyond⟩

namespace Cab

variable {Board : Type} {read : ReadBoard Board} {lapse : TimeLapse} {time : Nat}
  {cab after : Cab Board}

/-- A journey crashes only because its vehicle strays. -/
theorem strays_of_travel {load : Load} (found : cab.load? = some load) {target : Point}
    {finish : Nat} {failure : Failure WorldError}
    (failed : travel target time finish cab = (.error failure, after)) :
    failure = .crashed .addOverflow ∧
      ∃ carrier, cab.world.vehicle? cab.courier.vehicle = some carrier ∧
        carrier.Strays target time finish := by
  obtain ⟨carrier, present, -⟩ := Option.map_eq_some_iff.1 found
  refine ⟨travel_overflowsAtWorst found target time finish failure ?_, carrier, present, ?_⟩
  · rw [failed]
  rw [travel, get_bind_apply,
    bind_of_ok (lookUp_of_ok (World.vehicle_eq_ok_iff.2 present))] at failed
  split at failed
  · cases failed
  · rename_i apart
    split at failed
    · cases failed
    · rename_i moving
      rw [Bool.or_eq_true, not_or, decide_eq_true_eq, decide_eq_true_eq, Nat.not_le] at moving
      have moved := changeVehicle_granted found fun known : Vehicle => { known with
        position := (carrier.position.stepTowards target
          (carrier.profile.distanceIn (finish - time))).1 }
      rcases bind_eq_error_iff.1 failed with refused | ⟨_, there, -, failed⟩
      · have refused := congrArg Prod.fst refused
        cases refused.symm.trans moved
      · rcases bind_eq_error_iff.1 failed with overflow | ⟨_, _, -, failed⟩
        · obtain ⟨⟨crash, added, -⟩, -⟩ := ofExcept_eq_error_iff.1 overflow
          exact ⟨Bool.eq_false_iff.2 apart, moving.1, moving.2, (Checked.add_eq_error added).2⟩
        · cases failed

/-! ### Rounds -/

/-- Where a driver without a service sets out for: the place of the first stop of its route, if that
stop is for its vehicle, and the depot if no stop is left. -/
inductive SetsOutFor (cab : Cab Board) (carrier : Vehicle) : Point → Prop where
  | stop {stop : ParcelId} {rest : List ParcelId} {known : Parcel} {kind : StopKind}
      (route : carrier.route = stop :: rest) (listed : cab.world.parcel? stop = some known)
      (decided : stopKind? carrier known stop = some kind) :
      SetsOutFor cab carrier (kind.place known.order)
  | depot (route : carrier.route = []) : SetsOutFor cab carrier cab.world.depot

/-- A stop is for a delivery exactly if the vehicle carries the parcel. -/
theorem mem_contents_iff_of_stopKind? {carrier : Vehicle} {parcel : Parcel} {stop : ParcelId}
    {kind : StopKind} (decided : stopKind? carrier parcel stop = some kind) :
    stop ∈ carrier.contents ↔ kind = .delivery := by
  constructor
  · intro aboard
    rw [stopKind?, if_pos (by simpa [Vehicle.carries] using aboard)] at decided
    exact (Option.some.inj decided).symm
  · rintro rfl
    exact mem_contents_of_stopKind? decided

/-- A driver without a service finds that it can serve its next stop, and gets there in time: the
parcel is as it must be for this kind of service, and is aboard exactly if it is to be delivered. -/
structure Opens (lapse : TimeLapse) (time : Nat) (cab : Cab Board) (stop : ParcelId)
    (known : Parcel) (kind : StopKind) (moment : Nat) : Prop where
  idle : cab.courier.service = none
  next : ∃ load rest, cab.load? = some load ∧ load.stops = stop :: rest ∧
    (stop ∈ load.aboard ↔ kind = .delivery)
  listed : cab.world.ledger.parcel? stop = some known
  ready : known.state = kind.stateBefore cab.courier.vehicle
  later : time ≤ moment
  inTime : moment ≤ lapse.finish

/-- What a round that begins at the given time can be: its result, and what it leaves. -/
inductive Turn (read : ReadBoard Board) (lapse : TimeLapse) (time : Nat) (cab : Cab Board) :
    Except (Failure WorldError) (Option Nat) → Cab Board → Prop where
  /-- The service under way outlasts the tick. -/
  | waits {service : Service} (underWay : cab.courier.service = some service)
      (outlasts : lapse.finish < service.endsAt) : Turn read lapse time cab (.ok none) cab
  /-- The service under way ends, its stop is done, and the driver looks at the board. -/
  | ended {service : Service} {middle after : Cab Board}
      (underWay : cab.courier.service = some service) (inTime : service.endsAt ≤ lapse.finish)
      (aboard : cab.world.ledger.Has service.parcel (.inCargo cab.courier.vehicle))
      (ledger : middle.world.ledger =
        (cab.world.ledger.ended cab.courier.vehicle service.parcel (max time service.endsAt)
          service.kind).reload cab.courier.vehicle (·.pass service.parcel))
      (courier : middle.courier = { cab.courier with service := none })
      (adoption : Adoption read middle after) :
      Turn read lapse time cab (.ok (some (max time service.endsAt))) after
  /-- There is no time left. -/
  | ranOut (idle : cab.courier.service = none) (late : lapse.finish ≤ time) :
      Turn read lapse time cab (.ok none) cab
  /-- The driver drives, waits or rests until the tick is over. -/
  | drove {after : Cab Board} (idle : cab.courier.service = none) (early : time < lapse.finish)
      (same : after.books = cab.books) : Turn read lapse time cab (.ok none) after
  /-- The next stop is not for this vehicle: somebody else has claimed the parcel. -/
  | skipped {after : Cab Board} {load : Load} {stop : ParcelId} {rest : List ParcelId}
      {known : Parcel} (idle : cab.courier.service = none) (found : cab.load? = some load)
      (next : load.stops = stop :: rest) (absent : stop ∉ load.aboard)
      (listed : cab.world.ledger.parcel? stop = some known)
      (claimed : known.state.isUnassigned = false)
      (ledger : after.world.ledger = cab.world.ledger.reload cab.courier.vehicle (·.pass stop))
      (courier : after.courier = cab.courier) : Turn read lapse time cab (.ok (some time)) after
  /-- A service begins. -/
  | began {after : Cab Board} {stop : ParcelId} {known : Parcel} {kind : StopKind} {moment : Nat}
      (opens : Opens lapse time cab stop known kind moment)
      (ledger : after.world.ledger =
        cab.world.ledger.begun cab.courier.vehicle stop moment kind)
      (fits : moment + kind.duration known.order < Checked.range)
      (courier : after.courier = { cab.courier with
        service := some ⟨stop, kind, moment + kind.duration known.order⟩ }) :
      Turn read lapse time cab (.ok (some moment)) after
  /-- A service begins of which its driver does not know, because its end leaves the range. -/
  | lost {after : Cab Board} {stop : ParcelId} {known : Parcel} {kind : StopKind} {moment : Nat}
      (opens : Opens lapse time cab stop known kind moment)
      (ledger : after.world.ledger =
        cab.world.ledger.begun cab.courier.vehicle stop moment kind)
      (beyond : Checked.range ≤ moment + kind.duration known.order)
      (courier : after.courier = cab.courier) :
      Turn read lapse time cab (.error (.crashed .addOverflow)) after
  /-- The time of a journey leaves the range. -/
  | strayed {after : Cab Board} {carrier : Vehicle} {target : Point}
      (idle : cab.courier.service = none)
      (present : cab.world.vehicle? cab.courier.vehicle = some carrier)
      (bound : cab.SetsOutFor carrier target)
      (strays : carrier.Strays target time lapse.finish) (same : after.books = cab.books) :
      Turn read lapse time cab (.error (.crashed .addOverflow)) after

/-- A driver that stands at its next stop, which is as it must be, begins to serve it. -/
theorem startService_turn {there : Cab Board} (same : there.books = cab.books) {stop : ParcelId}
    {known : Parcel} {kind : StopKind} {moment : Nat}
    (opens : Opens lapse time cab stop known kind moment)
    (arrived : ∃ place, there.world.place? cab.courier.vehicle = some place ∧
      place.samePlace (kind.place known.order) = true) :
    Turn read lapse time cab
      (((startService stop known.order kind moment there).1).map fun _ => some moment)
      (startService stop known.order kind moment there).2 := by
  obtain ⟨ledger, rest⟩ := Prod.mk.inj same
  obtain ⟨courier, -⟩ := Prod.mk.inj rest
  obtain ⟨place, stands, matching⟩ := arrived
  have parcels : there.world.parcel? stop = some known :=
    (congrFun (congrArg Ledger.parcel? ledger) stop).trans opens.listed
  have isAt : there.world.IsAt cab.courier.vehicle stop kind :=
    ⟨known, place, parcels, stands, matching⟩
  obtain ⟨world, started⟩ : ∃ world,
      kind.start cab.courier.vehicle stop moment there.world = (.ok (), world) :=
    World.start_granted ⟨known, parcels, opens.ready⟩ isAt
  have begun := (World.start_ledger started).2
  rw [ledger] at begun
  rw [startService, get_bind_apply, courier, bind_of_ok (onWorld_of_ok started)]
  cases added : Checked.add moment (kind.duration known.order) with
  | ok endsAt =>
    obtain ⟨rfl, fits⟩ := Checked.add_eq_ok_iff.1 added
    refine .began opens begun fits ?_
    rw [← courier]
    rfl
  | error crash =>
    obtain ⟨rfl, beyond⟩ := Checked.add_eq_error added
    exact .lost opens begun beyond courier

/-- A vehicle that exists may be sent anywhere. -/
theorem setDestination_granted {carrier : Vehicle}
    (present : cab.world.vehicle? cab.courier.vehicle = some carrier)
    (destination : Option ParcelId) :
    ∃ sent, onWorld (World.setDestination cab.courier.vehicle destination) cab = (.ok (), sent) ∧
      sent.books = cab.books ∧
      sent.world.vehicle? sent.courier.vehicle =
        some { carrier with destination := destination } := by
  have changed : World.setDestination cab.courier.vehicle destination cab.world = (.ok (), _) :=
    World.changeVehicle_eq_ok_iff.2 ⟨⟨carrier, present⟩, rfl⟩
  have kept := (onWorld_books (setDestination_ledger cab.courier.vehicle destination) :
    Keeps (books : Cab Board → _) _) cab
  rw [onWorld_of_ok changed] at kept ⊢
  refine ⟨_, rfl, kept, ?_⟩
  rw [World.vehicle?_modifyVehicle, if_pos rfl, present]
  rfl

/-- A journey of a vehicle that has been sent somewhere crashes only because the vehicle strays. -/
theorem travel_strayed {carrier : Vehicle} {sent : Cab Board} {destination : Option ParcelId}
    (present : cab.world.vehicle? cab.courier.vehicle = some carrier)
    (idle : cab.courier.service = none) (same : sent.books = cab.books)
    (sentOut : sent.world.vehicle? sent.courier.vehicle =
      some { carrier with destination := destination }) {target : Point}
    (bound : cab.SetsOutFor carrier target) {failure : Failure WorldError}
    (failed : travel target time lapse.finish sent = (.error failure, after)) :
    Turn read lapse time cab (.error failure) after := by
  have found : sent.load? = some _ := congrArg (Option.map Vehicle.load) sentOut
  obtain ⟨rfl, other, presentThen, strays⟩ := strays_of_travel found failed
  rw [sentOut] at presentThen
  cases presentThen
  have kept := travel_books target time lapse.finish sent
  rw [failed] at kept
  -- Where a vehicle is said to be going does not matter to its journey.
  exact .strayed idle present bound ⟨strays.apart, strays.early, strays.moves, strays.beyond⟩
    (kept.trans same)

/-- A driver on its way to its next stop does not arrive in time, or waits there for a window to
open, or begins to serve. -/
theorem approach_turn {carrier : Vehicle}
    (present : cab.world.vehicle? cab.courier.vehicle = some carrier) {stop : ParcelId}
    {rest : List ParcelId} {known : Parcel} {kind : StopKind} (idle : cab.courier.service = none)
    (early : time < lapse.finish) (route : carrier.route = stop :: rest)
    (listed : cab.world.ledger.parcel? stop = some known)
    (decided : stopKind? carrier known stop = some kind)
    (may : kind = .delivery → known.state = .inCargo cab.courier.vehicle) :
    Turn read lapse time cab (approach stop known kind time lapse cab).1
      (approach stop known kind time lapse cab).2 := by
  obtain ⟨sent, sends, same, sentOut⟩ := setDestination_granted present (some stop)
  have own : sent.courier = cab.courier := congrArg (fun books => books.2.1) same
  rw [approach, get_bind_apply, bind_of_ok sends]
  cases went : travel (kind.place known.order) time lapse.finish sent with
  | mk result there =>
    have kept := travel_books (kind.place known.order) time lapse.finish sent
    rw [went] at kept
    cases result with
    | error failure =>
      rw [bind_of_failed went]
      exact travel_strayed present idle same sentOut (.stop route listed decided) went
    | ok answer =>
      obtain ⟨isThere, moment⟩ := answer
      rw [bind_of_ok went]
      cases isThere with
      | false => exact .drove idle early (kept.trans same)
      | true =>
        dsimp only
        split
        · exact .drove idle early (kept.trans same)
        · split
          · exact .drove idle early (kept.trans same)
          · rename_i opened
            have ready : known.state = kind.stateBefore cab.courier.vehicle := by
              cases kind with
              | pickup =>
                show known.state = .available
                simpa using opened
              | delivery => exact may rfl
            have next : ∃ load rest, cab.load? = some load ∧ load.stops = stop :: rest ∧
                (stop ∈ load.aboard ↔ kind = .delivery) :=
              ⟨carrier.load, rest, World.ledger_load?_of_vehicle? present, route,
                mem_contents_iff_of_stopKind? decided⟩
            have arrived := travel_arrived went
            rw [own] at arrived
            rw [bind_pure_apply]
            exact startService_turn (kept.trans same) ⟨idle, next, listed, ready,
              travel_onward went, travel_inTime (Nat.le_of_lt early) went⟩ arrived

/-- A driver without a stop left rests, or returns to the depot. -/
theorem rest_turn {carrier : Vehicle}
    (present : cab.world.vehicle? cab.courier.vehicle = some carrier)
    (route : carrier.route = []) (idle : cab.courier.service = none) (early : time < lapse.finish)
    (mayReturn : Bool) :
    Turn read lapse time cab ((rest mayReturn time lapse cab).1.map fun _ => none)
      (rest mayReturn time lapse cab).2 := by
  obtain ⟨sent, sends, same, sentOut⟩ := setDestination_granted present none
  rw [rest, get_bind_apply, bind_of_ok sends]
  cases mayReturn with
  | false => exact .drove idle early same
  | true =>
    rw [if_pos rfl, bind_pure_apply]
    have kept := travel_books cab.world.depot time lapse.finish sent
    cases went : travel cab.world.depot time lapse.finish sent with
    | mk result there =>
      rw [went] at kept
      cases result with
      | error failure => exact travel_strayed present idle same sentOut (.depot route) went
      | ok _ => exact .drove idle early (kept.trans same)

/-- A round of a driver that is ready is one of these, whatever is on the board. -/
theorem round_turn (ready : cab.IsReady) (read : ReadBoard Board) (lapse : TimeLapse)
    (mayReturn : Bool) (time : Nat) :
    Turn read lapse time cab (round read lapse mayReturn time cab).1
      (round read lapse mayReturn time cab).2 := by
  obtain ⟨load, found⟩ := ready.load
  obtain ⟨carrier, present, rfl⟩ := Option.map_eq_some_iff.1 found
  rw [round, get_bind_apply]
  cases underWay : cab.courier.service with
  | some service =>
    dsimp only
    split
    · rename_i outlasts
      exact .waits underWay outlasts
    · rename_i inTime
      have aboard := ready.ready.serving service underWay
      obtain ⟨world, finished⟩ : ∃ world, service.kind.finish cab.courier.vehicle service.parcel
          (max time service.endsAt) cab.world = (.ok (), world) :=
        World.finish_granted found aboard
      obtain ⟨middle, left, ended, foundMiddle, ledger, courier, -⟩ :=
        endService_of_finished read found finished
      rw [bind_pure_apply, ended, adopt_granted read foundMiddle]
      exact .ended underWay (Nat.le_of_not_lt inTime) aboard ledger courier
        (adopt_adoption read foundMiddle)
  | none =>
    dsimp only
    split
    · rename_i late
      exact .ranOut underWay late
    · rename_i notLate
      have early : time < lapse.finish := Nat.lt_of_not_le notLate
      rw [bind_of_ok (lookUp_of_ok (World.vehicle_eq_ok_iff.2 present))]
      cases route : carrier.route with
      | nil =>
        dsimp only
        rw [bind_pure_apply]
        exact rest_turn present route underWay early mayReturn
      | cons stop tail =>
        have onRoute : stop ∈ carrier.load.stops := by
          show stop ∈ carrier.route
          rw [route]
          exact List.mem_cons_self
        obtain ⟨known, listed⟩ :=
          Option.isSome_iff_exists.1 (ready.ready.listed _ found stop onRoute)
        have looked : cab.world.parcel? stop = some known := listed
        dsimp only
        rw [bind_of_ok (lookUp_of_ok (World.parcel_eq_ok_iff.2 looked))]
        cases decided : stopKind? carrier known stop with
        | none =>
          obtain ⟨absent, claimed⟩ := of_stopKind?_none decided
          obtain ⟨world, popped, passes⟩ := popStop_ledger found stop
          dsimp only
          rw [bind_pure_apply, popped]
          exact .skipped underWay found route absent listed claimed passes rfl
        | some kind =>
          refine approach_turn present underWay early route listed decided ?_
          -- Only what the vehicle carries is to be delivered, and it is in the cargo.
          rintro rfl
          obtain ⟨same, foundSame, state⟩ :=
            ready.laden.aboard _ _ found stop (mem_contents_of_stopKind? decided)
          rw [listed] at foundSame
          cases foundSame
          exact state

end Cab

end LiveFleet
