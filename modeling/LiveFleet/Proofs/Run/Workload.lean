/-
This file bounds the number of rounds that a driver drives in one call. No time need
pass in a round, so the bound counts stops: a stop takes two rounds, one in which
its service begins and one in which it ends, or a single one if it is skipped. A
service under way at the start may be for a parcel that is on the route no more, and
its end takes a round without passing a stop. A newer schedule replaces the route
when a service ends, and if the board stays as it is this happens once. So the call
ends within two rounds for every stop of the route and of the entry on the board,
and two more, whatever is true of the world: parcels, places and speeds do not
matter.
-/
import LiveFleet.Proofs.Run.Commitments
import LiveFleet.Proofs.World.Operations
import Mathlib.Logic.Function.Iterate

namespace LiveFleet

open Attempt

/-! ### Boards that stay as they are -/

/-- Whoever looks at the board, time after time, finds the same on it. -/
def Shows {Board : Type} (read : ReadBoard Board) (board : Board) (shown : Option Publication) :
    Prop :=
  ∀ looks : Nat, (read ((fun seen => (read seen).2)^[looks] board)).1 = shown

namespace Shows

variable {Board : Type} {read : ReadBoard Board} {board : Board} {shown : Option Publication}

theorem now (shows : Shows read board shown) : (read board).1 = shown := shows 0

theorem later (shows : Shows read board shown) : Shows read (read board).2 shown :=
  fun looks => shows (looks + 1)

/-- A board that is the same after a look shows what it shows. -/
theorem of_same (same : (read board).2 = board) : Shows read board (read board).1 := by
  intro looks
  rw [Function.iterate_fixed same]

end Shows

/-- The stops that a vehicle finds in its entry on the board. -/
def entryOn (vehicle : VehicleId) (shown : Option Publication) : List ParcelId :=
  (shown.bind fun publication => publication.schedule.entry? vehicle).getD []

/-- The stops that a driver may still adopt from the board: none if the version has been
considered. -/
def Courier.offered (courier : Courier) (shown : Option Publication) : List ParcelId :=
  (shown.bind fun publication =>
    if publication.version ≤ courier.adopted then none
    else publication.schedule.entry? courier.vehicle).getD []

namespace Courier

variable {courier : Courier} {publication : Publication}

theorem offered_of_considered (considered : publication.version ≤ courier.adopted) :
    courier.offered (some publication) = [] := by
  rw [offered, Option.bind_some, if_pos considered]
  rfl

theorem offered_of_newer (newer : courier.adopted < publication.version) :
    courier.offered (some publication) = entryOn courier.vehicle (some publication) := by
  rw [offered, Option.bind_some, if_neg (Nat.not_le_of_lt newer)]
  rfl

theorem length_offered_le (courier : Courier) (shown : Option Publication) :
    (courier.offered shown).length ≤ (entryOn courier.vehicle shown).length := by
  cases shown with
  | none => exact Nat.le_refl _
  | some publication =>
    rcases Nat.lt_or_ge courier.adopted publication.version with newer | considered
    · exact Nat.le_of_eq (congrArg List.length (offered_of_newer newer))
    · rw [offered_of_considered considered]
      exact Nat.zero_le _

end Courier

namespace Cab

variable {Board : Type} {read : ReadBoard Board} {lapse : TimeLapse} {mayReturn : Bool}
  {time next : Nat} {cab middle after : Cab Board} {shown : Option Publication}

/-! ### Rounds that are followed by another one -/

/-- What a round does to the route if another one follows it. -/
inductive GoesOn (read : ReadBoard Board) (cab : Cab Board) : Cab Board → Prop where
  /-- A service ends, its stop is passed if it is on the route, and the driver looks at the
  board. -/
  | ended {service : Service} {stops : List ParcelId} {middle after : Cab Board}
      (underWay : cab.courier.service = some service) (route : cab.route? = some stops)
      (passed : middle.route? = some (stops.erase service.parcel))
      (courier : middle.courier = { cab.courier with service := none })
      (board : middle.board = cab.board) (adoption : Adoption read middle after) :
      GoesOn read cab after
  /-- The next stop is skipped. -/
  | skipped {after : Cab Board} {stop : ParcelId} {rest : List ParcelId}
      (idle : cab.courier.service = none) (route : cab.route? = some (stop :: rest))
      (passed : after.route? = some rest) (courier : after.courier = cab.courier) :
      GoesOn read cab after
  /-- The service of the next stop begins. -/
  | began {after : Cab Board} {stop : ParcelId} {rest : List ParcelId} {kind : StopKind}
      {endsAt : Nat} (idle : cab.courier.service = none)
      (route : cab.route? = some (stop :: rest)) (same : after.route? = some (stop :: rest))
      (courier : after.courier = { cab.courier with service := some ⟨stop, kind, endsAt⟩ }) :
      GoesOn read cab after

theorem route?_of_vehicle? {carrier : Vehicle}
    (present : cab.world.vehicle? cab.courier.vehicle = some carrier) :
    cab.route? = some carrier.route :=
  congrArg (Option.map Load.stops) (World.ledger_load?_of_vehicle? present)

/-- A vehicle that has passed a stop exists. -/
theorem load_of_popStop {stop : ParcelId} (popped : popStop stop cab = (.ok (), after)) :
    ∃ load, cab.load? = some load := by
  rw [popStop, get_bind_apply] at popped
  obtain ⟨carrier, _, looked, -⟩ := bind_eq_ok_iff.1 popped
  obtain ⟨known, rfl⟩ := lookUp_eq_ok looked
  exact ⟨_, World.ledger_load?_of_vehicle? (World.vehicle_eq_ok_iff.1 known)⟩

/-- The world lets a service end that does end, and its vehicle exists. -/
theorem of_endService {service : Service}
    (ended : endService read service time cab = (.ok (), after)) :
    (∃ world, service.kind.finish cab.courier.vehicle service.parcel time cab.world =
        (.ok (), world)) ∧
      ∃ load, cab.load? = some load := by
  rw [endService, get_bind_apply] at ended
  obtain ⟨_, finished, inWorld, ended⟩ := bind_eq_ok_iff.1 ended
  obtain ⟨changed, courier⟩ := onWorld_eq_ok inWorld
  obtain ⟨_, cleared, setTo, ended⟩ := bind_eq_ok_iff.1 ended
  obtain rfl := setService_eq_ok setTo
  obtain ⟨_, _, popped, -⟩ := bind_eq_ok_iff.1 ended
  refine ⟨⟨_, changed⟩, Option.isSome_iff_exists.1 ?_⟩
  obtain ⟨load, found⟩ := load_of_popStop popped
  have present : (finished.world.ledger.load? finished.courier.vehicle).isSome = true :=
    Option.isSome_of_eq_some found
  rwa [courier, (World.finish_ledger changed).2, Ledger.isSome_load?_ended] at present

theorem endService_goesOn {service : Service} (underWay : cab.courier.service = some service)
    (ended : endService read service time cab = (.ok (), after)) : GoesOn read cab after := by
  obtain ⟨⟨world, finished⟩, load, found⟩ := of_endService ended
  obtain ⟨middle, left, adopts, foundMiddle, ledger, courier, -, board⟩ :=
    endService_of_finished read found finished
  have adoption := adopt_adoption read foundMiddle
  rw [← adopts, ended] at adoption
  have route : cab.route? = some load.stops := congrArg (Option.map Load.stops) found
  -- What ends with a service is no matter of the stops, and then one of them is passed.
  obtain ⟨unloaded, foundThen, stops⟩ := Option.map_eq_some_iff.1 (Ledger.stops?_ended.trans route)
  refine .ended underWay route ?_ courier board adoption
  rw [route?, ledger, courier, Ledger.stops?_reload, foundThen, Option.map_some, Load.pass, stops]

theorem startService_goesOn {there : Cab Board} (same : there.books = cab.books)
    (idle : cab.courier.service = none) {stop : ParcelId} {rest : List ParcelId}
    (route : cab.route? = some (stop :: rest)) {order : TransportOrder} {kind : StopKind}
    (started : startService stop order kind time there = (.ok (), after)) :
    GoesOn read cab after := by
  obtain ⟨ledger, same⟩ := Prod.mk.inj same
  obtain ⟨courier, -⟩ := Prod.mk.inj same
  rw [startService, get_bind_apply] at started
  obtain ⟨_, begun, inWorld, started⟩ := bind_eq_ok_iff.1 started
  obtain ⟨changed, courierThen⟩ := onWorld_eq_ok inWorld
  obtain ⟨endsAt, _, timed, started⟩ := bind_eq_ok_iff.1 started
  obtain ⟨-, rfl⟩ := ofExcept_eq_ok_iff.1 timed
  obtain rfl := setService_eq_ok started
  rw [courier] at changed courierThen
  rw [courierThen]
  have sameRoute : begun.world.ledger.stops? cab.courier.vehicle = some (stop :: rest) := by
    rw [(World.start_ledger changed).2, ledger, Ledger.stops?_begun]
    exact route
  exact .began idle route sameRoute rfl

theorem approach_goesOn (idle : cab.courier.service = none) {stop : ParcelId}
    {rest : List ParcelId} (route : cab.route? = some (stop :: rest)) {parcel : Parcel}
    {kind : StopKind}
    (approached : approach stop parcel kind time lapse cab = (.ok (some next), after)) :
    GoesOn read cab after := by
  rw [approach, get_bind_apply] at approached
  obtain ⟨_, directed, inWorld, approached⟩ := bind_eq_ok_iff.1 approached
  obtain ⟨⟨arrived, moment⟩, there, travelled, approached⟩ := bind_eq_ok_iff.1 approached
  have same : there.books = cab.books :=
    (view_of_eq travelled (travel_books _ _ _)).trans
      (view_of_eq inWorld (onWorld_books (setDestination_ledger _ _)))
  dsimp only at approached
  split at approached
  · cases approached
  · split at approached
    · cases approached
    · obtain ⟨_, _, started, approached⟩ := bind_eq_ok_iff.1 approached
      cases approached
      exact startService_goesOn same idle route started

theorem popStop_goesOn (idle : cab.courier.service = none) {stop : ParcelId}
    {rest : List ParcelId} (route : cab.route? = some (stop :: rest))
    (popped : popStop stop cab = (.ok (), after)) : GoesOn read cab after := by
  obtain ⟨load, found⟩ := load_of_popStop popped
  obtain ⟨world, passes, ledger⟩ := popStop_ledger found stop
  cases popped.symm.trans passes
  refine .skipped idle route ?_ rfl
  show world.ledger.stops? cab.courier.vehicle = _
  rw [ledger]
  exact Ledger.stops?_pass route

/-- Nothing is asked of the world here: what a driver cannot do ends its call, and what it can do is
one of these. -/
theorem round_goesOn (gone : round read lapse mayReturn time cab = (.ok (some next), after)) :
    GoesOn read cab after := by
  rw [round, get_bind_apply] at gone
  cases underWay : cab.courier.service with
  | some service =>
    simp only [underWay] at gone
    split at gone
    · cases gone
    · obtain ⟨_, _, ended, gone⟩ := bind_eq_ok_iff.1 gone
      cases gone
      exact endService_goesOn underWay ended
  | none =>
    simp only [underWay] at gone
    split at gone
    · cases gone
    · obtain ⟨carrier, _, looked, gone⟩ := bind_eq_ok_iff.1 gone
      obtain ⟨found, rfl⟩ := lookUp_eq_ok looked
      have route := route?_of_vehicle? (World.vehicle_eq_ok_iff.1 found)
      cases stops : carrier.route with
      | nil =>
        simp only [stops] at gone
        obtain ⟨_, _, -, gone⟩ := bind_eq_ok_iff.1 gone
        cases gone
      | cons stop rest =>
        simp only [stops] at gone
        rw [stops] at route
        obtain ⟨parcel, _, looked, gone⟩ := bind_eq_ok_iff.1 gone
        obtain ⟨-, rfl⟩ := lookUp_eq_ok looked
        cases kind : stopKind? carrier parcel stop with
        | some kind =>
          simp only [kind] at gone
          exact approach_goesOn underWay route gone
        | none =>
          simp only [kind] at gone
          obtain ⟨_, _, popped, gone⟩ := bind_eq_ok_iff.1 gone
          cases gone
          exact popStop_goesOn underWay route popped

/-! ### The rounds that are still to come -/

/-- What the service under way adds to the two rounds for every stop. The service of a stop on the
route has taken one of the two, and the end of another one brings its driver to no stop. -/
def surplus (service : Option Service) (stops : List ParcelId) : Nat :=
  match service with
  | none => 1
  | some service => if service.parcel ∈ stops then 0 else 2

/-- A bound on the rounds that are still to come, for a driver that finds this on the board. -/
def roundsAhead (shown : Option Publication) (cab : Cab Board) : Nat :=
  let stops := cab.route?.getD []
  2 * (stops.length + (cab.courier.offered shown).length) + surplus cab.courier.service stops

theorem roundsAhead_of_route? {stops : List ParcelId} (route : cab.route? = some stops) :
    cab.roundsAhead shown =
      2 * (stops.length + (cab.courier.offered shown).length) +
        surplus cab.courier.service stops := by
  rw [roundsAhead, route]
  rfl

/-- The round in which the call ends is one of them. -/
theorem roundsAhead_pos (shown : Option Publication) (cab : Cab Board) :
    0 < cab.roundsAhead shown := by
  unfold roundsAhead surplus
  dsimp only
  split
  · exact Nat.succ_pos _
  · split
    · rename_i listed
      have := List.length_pos_of_mem listed
      omega
    · omega

/-- A look at the board does not add rounds: an entry that is adopted is offered no more. -/
theorem Adoption.roundsAhead_le (adoption : Adoption read cab after)
    (shows : (read cab.board).1 = shown) {stops : List ParcelId} (route : cab.route? = some stops) :
    after.roundsAhead shown ≤ cab.roundsAhead shown := by
  obtain ⟨load, found, rfl⟩ := Option.map_eq_some_iff.1 route
  rcases adoption.commits found with ⟨courier, world⟩ | ⟨chosen, commits⟩
  · refine Nat.le_of_eq ?_
    rw [roundsAhead, roundsAhead, route?, route?, courier, world]
  · obtain ⟨publication, seen, newer, courier, choice⟩ := commits.choice
    obtain rfl := seen.symm.trans shows
    have offeredThen : after.courier.offered (some publication) = [] := by
      rw [courier]
      exact Courier.offered_of_considered (Nat.le_refl publication.version)
    have idleThen : after.courier.service = none := by
      rw [courier]
      exact commits.idle
    rw [roundsAhead_of_route? commits.written, roundsAhead_of_route? route, offeredThen, idleThen,
      commits.idle, Courier.offered_of_newer newer]
    have fewer : chosen.length ≤
        load.stops.length + (entryOn cab.courier.vehicle (some publication)).length := by
      rcases choice with listed | ⟨same, foundSame, rfl⟩
      · rw [entryOn, Option.bind_some, listed]
        exact Nat.le_add_left _ _
      · obtain rfl := Option.some.inj (foundSame.symm.trans found)
        exact Nat.le_add_right_of_le (List.length_filter_le _ _)
    show 2 * (chosen.length + 0) + 1 ≤ _ + 1
    omega

/-- Ending a service, skipping a stop and beginning a service take one round each. -/
theorem GoesOn.roundsAhead_lt (goesOn : GoesOn read cab after)
    (shows : (read cab.board).1 = shown) : after.roundsAhead shown < cab.roundsAhead shown := by
  cases goesOn with
  | @ended service stops middle _ underWay route passed courier board adoption =>
    rw [← board] at shows
    refine Nat.lt_of_le_of_lt (adoption.roundsAhead_le shows passed) ?_
    rw [roundsAhead_of_route? passed, roundsAhead_of_route? route, courier, underWay]
    show 2 * (_ + (cab.courier.offered shown).length) + 1 <
      _ + if service.parcel ∈ stops then 0 else 2
    split
    · rename_i listed
      have shorter := List.length_erase_of_mem listed
      have := List.length_pos_of_mem listed
      omega
    · rename_i absent
      rw [List.erase_of_not_mem absent]
      omega
  | skipped idle route passed courier =>
    rw [roundsAhead_of_route? passed, roundsAhead_of_route? route, courier, idle, List.length_cons]
    show _ + 1 < _ + 1
    omega
  | @began _ stop rest _ _ idle route same courier =>
    rw [roundsAhead_of_route? same, roundsAhead_of_route? route, courier, idle]
    show _ + (if stop ∈ stop :: rest then 0 else 2) < _ + 1
    rw [if_pos List.mem_cons_self]
    exact Nat.lt_succ_self _

/-! ### The rounds of a call -/

/-- Drive as in a call, but for no more than the given number of rounds. There is no answer if these
are not enough. -/
def driveWithin (read : ReadBoard Board) (lapse : TimeLapse) (mayReturn : Bool) :
    Nat → Nat → Cab Board → Option (Except (Failure WorldError) Unit × Cab Board)
  | 0, _, _ => none
  | rounds + 1, time, cab =>
    match round read lapse mayReturn time cab with
    | (.error failure, reached) => some (.error failure, reached)
    | (.ok none, reached) => some (.ok (), reached)
    | (.ok (some next), reached) => driveWithin read lapse mayReturn rounds next reached

/-- As many rounds as are to come are enough, and lead to where the driver drives without a
bound. -/
theorem driveWithin_of_roundsAhead_le {rounds : Nat} (shows : Shows read cab.board shown)
    (enough : cab.roundsAhead shown ≤ rounds) :
    driveWithin read lapse mayReturn rounds time cab =
      some (drive read lapse mayReturn time cab) := by
  induction rounds generalizing time cab with
  | zero => exact absurd (roundsAhead_pos shown cab) (Nat.not_lt_of_le enough)
  | succ rounds inductionHypothesis =>
    rw [driveWithin]
    cases gone : round read lapse mayReturn time cab with
    | mk result reached =>
      match result with
      | .error failure => rw [drive_of_failed gone]
      | .ok none => rw [drive_of_over gone]
      | .ok (some next) =>
        rw [drive_of_next gone]
        have showsThen : Shows read reached.board shown := by
          have looking (board : Board) (shows : Shows read board shown) :
            Shows read (read board).2 shown := shows.later
          have looked := round_board looking lapse mayReturn time cab shows
          rwa [gone] at looked
        have fewer := (round_goesOn gone).roundsAhead_lt shows.now
        exact inductionHypothesis showsThen (by omega)

theorem stopCount_eq (cab : Cab Board) : cab.stopCount = (cab.route?.getD []).length := by
  unfold stopCount
  cases found : cab.world.vehicle? cab.courier.vehicle with
  | none =>
    have missing : cab.route? = none :=
      congrArg (fun vehicle => (vehicle.map Vehicle.load).map Load.stops) found
    rw [missing]
    rfl
  | some carrier =>
    rw [route?_of_vehicle? found]
    rfl

theorem surplus_le (service : Option Service) (stops : List ParcelId) :
    surplus service stops ≤ 2 := by
  unfold surplus
  split
  · exact Nat.le_succ 1
  · split <;> omega

theorem roundsAhead_le (shown : Option Publication) (cab : Cab Board) :
    cab.roundsAhead shown ≤
      2 * (cab.stopCount + (entryOn cab.courier.vehicle shown).length) + 2 := by
  have offered := cab.courier.length_offered_le shown
  have surplus := surplus_le cab.courier.service (cab.route?.getD [])
  rw [stopCount_eq, roundsAhead]
  omega

/-- Whatever the world and the driver are like, at whatever time the call begins: if the board stays
as it is, two rounds for every stop of the route and of the entry on the board, and two more, are
enough for the call to end as it does. -/
theorem drives_end_soon (read : ReadBoard Board) (lapse : TimeLapse) (mayReturn : Bool) (time : Nat)
    (cab : Cab Board) (shown : Option Publication) (shows : Shows read cab.board shown) :
    driveWithin read lapse mayReturn
        (2 * (cab.stopCount + (entryOn cab.courier.vehicle shown).length) + 2) time cab =
      some (drive read lapse mayReturn time cab) :=
  driveWithin_of_roundsAhead_le shows (roundsAhead_le shown cab)

/-- A driver that has no stop on its route while it loads the first of two parcels, and for which
three stops are on the board. -/
def reloading : Cab (Option Publication) where
  courier := ⟨⟨0⟩, 0, some ⟨⟨0⟩, .pickup, 1⟩⟩
  world := World.loading
  repairs := .clear
  board := some ⟨1, ⟨[[⟨0⟩, ⟨1⟩, ⟨1⟩]]⟩⟩

/-- The route is three stops longer after the first round, and eight rounds are enough. -/
theorem drives_end_soon_reloading :
    let read : ReadBoard (Option Publication) := fun shown => (shown, shown)
    let lapse : TimeLapse := ⟨0, 0, 10⟩
    Shows read reloading.board reloading.board ∧ reloading.stopCount = 0 ∧
      (round read lapse false 0 reloading).2.stopCount = 3 ∧
      driveWithin read lapse false 1 0 reloading = none ∧
      driveWithin read lapse false 8 0 reloading = some (drive read lapse false 0 reloading) := by
  intro read lapse
  have shows : Shows read reloading.board reloading.board := Shows.of_same rfl
  exact ⟨shows, by decide, by decide, rfl,
    drives_end_soon read lapse false 0 reloading reloading.board shows⟩

end Cab

end LiveFleet
