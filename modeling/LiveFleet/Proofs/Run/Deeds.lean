/-
This file says what a driver does to the books. A round either leaves them alone,
skips a stop that is not for this vehicle, begins a service or ends one; a look at
the board leaves them alone or replaces the route of the vehicle. All that is kept
true in a run by the drivers is shown from these cases and the operations on the
books, without another look at the driving itself.
-/
import LiveFleet.Proofs.Run.Rounds
import LiveFleet.Proofs.Run.Upkeep
import LiveFleet.Proofs.World.Ledger

namespace LiveFleet

open Attempt

/-! ### What a vehicle may serve -/

namespace Ledger

/-- The parcel is known and may be a stop of the vehicle. -/
def allows (ledger : Ledger) (vehicle : VehicleId) (parcel : ParcelId) : Bool :=
  (ledger.parcel? parcel).any fun known => known.state.isAssignable vehicle

theorem allows_iff {ledger : Ledger} {vehicle : VehicleId} {parcel : ParcelId} :
    ledger.allows vehicle parcel = true ↔
      ∃ known, ledger.parcel? parcel = some known ∧ known.state.isAssignable vehicle = true := by
  rw [allows, Option.any_eq_true]

/-- A vehicle may serve what it carries. -/
theorem Has.allows {ledger : Ledger} {vehicle : VehicleId} {parcel : ParcelId}
    (aboard : ledger.Has parcel (.inCargo vehicle)) : ledger.allows vehicle parcel = true := by
  obtain ⟨known, found, state⟩ := aboard
  refine allows_iff.2 ⟨known, found, ?_⟩
  rw [state]
  exact decide_eq_true rfl

/-- Every vehicle may serve what nobody has claimed. -/
theorem Unclaimed.allows {ledger : Ledger} {parcel : ParcelId} (unclaimed : ledger.Unclaimed parcel)
    (vehicle : VehicleId) : ledger.allows vehicle parcel = true := by
  obtain ⟨known, found, unassigned⟩ := unclaimed
  refine allows_iff.2 ⟨known, found, ?_⟩
  generalize known.state = state at unassigned
  cases state with
  | announced | available => rfl
  | inCargo | delivered => cases unassigned

/-- Only what a change does to the load of the vehicle matters. -/
theorem reload_congr {ledger : Ledger} {vehicle : VehicleId} {load : Load}
    {change other : Load → Load} (found : ledger.load? vehicle = some load)
    (same : change load = other load) :
    ledger.reload vehicle change = ledger.reload vehicle other := by
  unfold reload
  congr 1
  funext third
  by_cases own : third = vehicle
  · rw [if_pos own, if_pos own, own, found, Option.map_some, Option.map_some, same]
  · rw [if_neg own, if_neg own]

end Ledger

/-- The load on the stops that pass a test. -/
def Load.prune (load : Load) (test : ParcelId → Bool) : Load :=
  { load with stops := load.stops.filter test }

theorem World.stopProblem?_eq_none_iff {world : World} {vehicle : VehicleId} {parcel : ParcelId} :
    world.stopProblem? vehicle parcel = none ↔ world.ledger.allows vehicle parcel = true := by
  rw [Ledger.allows_iff, stopProblem?]
  show _ ↔ ∃ known, world.parcel? parcel = some known ∧ _
  cases world.parcel? parcel with
  | none => simp
  | some known => simp

/-- An entry fits if the vehicle may serve all its stops and nothing aboard is left out. -/
theorem World.entryProblem?_eq_none_iff {world : World} {vehicle : VehicleId}
    {entry : Option (List ParcelId)} {load : Load}
    (found : world.ledger.load? vehicle = some load) :
    world.entryProblem? vehicle entry = none ↔ ∃ stops, entry = some stops ∧
      (∀ stop ∈ stops, world.ledger.allows vehicle stop = true) ∧
        ∀ parcel ∈ load.aboard, parcel ∈ stops := by
  obtain ⟨carrier, present, rfl⟩ := Option.map_eq_some_iff.1 found
  cases entry with
  | none => simp [entryProblem?]
  | some stops =>
    have passes : stops.findSome? (world.stopProblem? vehicle) = none ↔
        ∀ stop ∈ stops, world.ledger.allows vehicle stop = true := by
      rw [List.findSome?_eq_none_iff]
      simp only [stopProblem?_eq_none_iff]
    have complete : (world.omittedCargo? vehicle stops).map Inconsistency.cargoOmitted = none ↔
        ∀ parcel ∈ carrier.load.aboard, parcel ∈ stops := by
      rw [Option.map_eq_none_iff, omittedCargo?, present]
      simp [Vehicle.load]
    simp only [Option.some.injEq, exists_eq_left']
    rw [← passes, ← complete, entryProblem?]
    cases stops.findSome? (world.stopProblem? vehicle) <;> simp

namespace Cab

variable {Board : Type} {read : ReadBoard Board} {cab after : Cab Board}

/-- The load of the vehicle that the driver drives. -/
def load? (cab : Cab Board) : Option Load := cab.world.ledger.load? cab.courier.vehicle

/-! ### Looking at the board -/

/-- What a look at the board leads to. -/
inductive Adoption (read : ReadBoard Board) (cab : Cab Board) : Cab Board → Prop where
  /-- A driver with a service under way does not look. -/
  | busy (underWay : cab.courier.service ≠ none) : Adoption read cab cab
  /-- There is nothing newer on the board. -/
  | current (idle : cab.courier.service = none)
      (older : ∀ publication, (read cab.board).1 = some publication →
        publication.version ≤ cab.courier.adopted) :
      Adoption read cab { cab with board := (read cab.board).2 }
  /-- The entry fits, and becomes the route. -/
  | accepted {after : Cab Board} {publication : Publication} {stops : List ParcelId}
      (idle : cab.courier.service = none) (shown : (read cab.board).1 = some publication)
      (newer : cab.courier.adopted < publication.version)
      (listed : publication.schedule.entry? cab.courier.vehicle = some stops)
      (allowed : ∀ stop ∈ stops, cab.world.ledger.allows cab.courier.vehicle stop = true)
      (complete : ∀ load, cab.load? = some load → ∀ parcel ∈ load.aboard, parcel ∈ stops)
      (ledger : after.world.ledger = cab.world.ledger.reload cab.courier.vehicle (·.follow stops))
      (courier : after.courier = { cab.courier with adopted := publication.version })
      (repairs : after.repairs = cab.repairs) (board : after.board = (read cab.board).2) :
      Adoption read cab after
  /-- The entry does not fit. The route is pruned, and the version is flagged. -/
  | rejected {after : Cab Board} {publication : Publication}
      (idle : cab.courier.service = none) (shown : (read cab.board).1 = some publication)
      (newer : cab.courier.adopted < publication.version)
      (ledger : after.world.ledger = cab.world.ledger.reload cab.courier.vehicle
        (·.prune (cab.world.ledger.allows cab.courier.vehicle)))
      (courier : after.courier = { cab.courier with adopted := publication.version })
      (repairs : after.repairs = cab.repairs.flag publication.version)
      (board : after.board = (read cab.board).2) : Adoption read cab after

/-- The route that a driver commits to is its entry, if that fits, and is what is left of the old
route otherwise. -/
theorem committedRoute_cases {load : Load} (found : cab.load? = some load)
    (publication : Publication) :
    (∃ stops, publication.schedule.entry? cab.courier.vehicle = some stops ∧
        (∀ stop ∈ stops, cab.world.ledger.allows cab.courier.vehicle stop = true) ∧
        (∀ parcel ∈ load.aboard, parcel ∈ stops) ∧
        committedRoute publication cab = (.ok stops, cab)) ∨
      committedRoute publication cab =
        (.ok (load.stops.filter (cab.world.ledger.allows cab.courier.vehicle)),
          { cab with repairs := cab.repairs.flag publication.version }) := by
  obtain ⟨carrier, present, rfl⟩ := Option.map_eq_some_iff.1 found
  unfold committedRoute RepairLog.check
  dsimp only
  cases problem : cab.world.entryProblem? cab.courier.vehicle
      (publication.schedule.entry? cab.courier.vehicle) with
  | none =>
    obtain ⟨stops, listed, allowed, complete⟩ := (World.entryProblem?_eq_none_iff found).1 problem
    refine .inl ⟨stops, listed, allowed, complete, ?_⟩
    rw [listed]
    rfl
  | some reason =>
    have known : cab.world.vehicle cab.courier.vehicle = .ok carrier :=
      World.vehicle_eq_ok_iff.2 present
    dsimp only
    rw [known]
    exact .inr rfl

theorem setRoute_ledger {cab : Cab Board} {load : Load} (found : cab.load? = some load)
    (stops : List ParcelId) :
    ∃ world, onWorld (World.setRoute cab.courier.vehicle stops) cab =
        (.ok (), { cab with world := world }) ∧
      world.ledger = cab.world.ledger.reload cab.courier.vehicle (·.follow stops) := by
  obtain ⟨carrier, present, rfl⟩ := Option.map_eq_some_iff.1 found
  refine ⟨_, onWorld_of_ok (World.changeVehicle_eq_ok_iff.2 ⟨⟨carrier, present⟩, rfl⟩), ?_⟩
  exact World.ledger_modifyVehicle _ _ fun _ => rfl

/-- To commit to a route is to follow the entry, or to prune the old route and flag the version. -/
theorem commit_cases {load : Load} (found : cab.load? = some load) (publication : Publication) :
    (∃ stops world, publication.schedule.entry? cab.courier.vehicle = some stops ∧
        (∀ stop ∈ stops, cab.world.ledger.allows cab.courier.vehicle stop = true) ∧
        (∀ parcel ∈ load.aboard, parcel ∈ stops) ∧
        (committedRoute publication >>= fun route =>
          onWorld (World.setRoute cab.courier.vehicle route)) cab =
            (.ok (), { cab with world := world }) ∧
        world.ledger = cab.world.ledger.reload cab.courier.vehicle (·.follow stops)) ∨
      ∃ world,
        (committedRoute publication >>= fun route =>
          onWorld (World.setRoute cab.courier.vehicle route)) cab =
            (.ok (),
              { cab with world := world, repairs := cab.repairs.flag publication.version }) ∧
        world.ledger = cab.world.ledger.reload cab.courier.vehicle
          (·.prune (cab.world.ledger.allows cab.courier.vehicle)) := by
  rcases committedRoute_cases found publication with
    ⟨stops, listed, allowed, complete, committed⟩ | committed
  · obtain ⟨world, changed, ledger⟩ := setRoute_ledger found stops
    exact .inl ⟨stops, world, listed, allowed, complete, (bind_of_ok committed).trans changed,
      ledger⟩
  · let flagged : Cab Board := { cab with repairs := cab.repairs.flag publication.version }
    have foundThen : flagged.load? = some load := found
    obtain ⟨world, changed, ledger⟩ := setRoute_ledger foundThen
      (load.stops.filter (cab.world.ledger.allows cab.courier.vehicle))
    refine .inr ⟨world, (bind_of_ok committed).trans changed, ledger.trans ?_⟩
    exact Ledger.reload_congr found rfl

theorem adopt_adoption (read : ReadBoard Board) {load : Load} (found : cab.load? = some load) :
    Adoption read cab (adopt read cab).2 := by
  rw [adopt, get_bind_apply]
  cases underWay : cab.courier.service with
  | some service => exact .busy (by rw [underWay]; exact Option.some_ne_none _)
  | none =>
    have looked : look read cab =
        (.ok (read cab.board).1, { cab with board := (read cab.board).2 }) := rfl
    rw [if_neg (by simp), bind_of_ok looked]
    cases shown : (read cab.board).1 with
    | none =>
      refine .current underWay fun publication same => ?_
      rw [shown] at same
      cases same
    | some publication =>
      dsimp only
      split
      · rename_i older
        refine .current underWay fun other same => ?_
        rw [shown] at same
        cases same
        exact older
      · rename_i notOlder
        have newer : cab.courier.adopted < publication.version := Nat.lt_of_not_le notOlder
        let looking : Cab Board :=
          { cab with
            courier := { cab.courier with adopted := publication.version }
            board := (read cab.board).2 }
        have foundThen : looking.load? = some load := found
        show Adoption read cab ((committedRoute publication >>= fun route =>
          onWorld (World.setRoute looking.courier.vehicle route)) looking).2
        rcases commit_cases foundThen publication with
          ⟨stops, world, listed, allowed, complete, committed, ledger⟩ | ⟨world, committed, ledger⟩
        · rw [committed]
          refine .accepted underWay shown newer listed allowed ?_ ledger rfl rfl rfl
          intro other same
          rw [found] at same
          cases same
          exact complete
        · rw [committed]
          exact .rejected underWay shown newer ledger rfl rfl rfl

/-! ### A round -/

/-- What a round that begins at the given time does to the books, up to the next look at the
board. -/
inductive Deed (time : Nat) (cab : Cab Board) : Cab Board → Prop where
  | drove {after : Cab Board} (ledger : after.world.ledger = cab.world.ledger)
      (courier : after.courier = cab.courier) (repairs : after.repairs = cab.repairs)
      (board : after.board = cab.board) : Deed time cab after
  /-- A stop that is not for this vehicle is skipped. -/
  | skipped {after : Cab Board} {load : Load} {stop : ParcelId} {known : Parcel}
      (idle : cab.courier.service = none) (found : cab.load? = some load) (absent : stop ∉ load.aboard)
      (listed : cab.world.ledger.parcel? stop = some known)
      (claimed : known.state.isUnassigned = false)
      (ledger : after.world.ledger = cab.world.ledger.reload cab.courier.vehicle (·.pass stop))
      (courier : after.courier = cab.courier) (repairs : after.repairs = cab.repairs)
      (board : after.board = cab.board) : Deed time cab after
  /-- A service begins. Its driver does not know of it if its end leaves the range of times. -/
  | began {after : Cab Board} {load : Load} {stop : ParcelId} {kind : StopKind}
      {moment : Nat} (idle : cab.courier.service = none) (found : cab.load? = some load)
      (next : stop ∈ load.stops)
      (ready : cab.world.ledger.Has stop (kind.stateBefore cab.courier.vehicle))
      (later : time ≤ moment)
      (ledger : after.world.ledger =
        cab.world.ledger.begun cab.courier.vehicle stop moment kind)
      (courier : (∃ endsAt, after.courier =
          { cab.courier with service := some ⟨stop, kind, endsAt⟩ }) ∨
        after.courier = cab.courier)
      (repairs : after.repairs = cab.repairs) (board : after.board = cab.board) :
      Deed time cab after
  /-- A service ends, and its stop is done. -/
  | ended {after : Cab Board} {service : Service} {moment : Nat}
      (underWay : cab.courier.service = some service)
      (aboard : cab.world.ledger.Has service.parcel (.inCargo cab.courier.vehicle))
      (later : time ≤ moment)
      (ledger : after.world.ledger =
        (cab.world.ledger.ended cab.courier.vehicle service.parcel moment service.kind).reload
          cab.courier.vehicle (·.pass service.parcel))
      (courier : after.courier = { cab.courier with service := none })
      (repairs : after.repairs = cab.repairs) (board : after.board = cab.board) :
      Deed time cab after

/-- What the books and the driver say. -/
def books (cab : Cab Board) : Ledger × Courier × RepairLog × Board :=
  (cab.world.ledger, cab.courier, cab.repairs, cab.board)

theorem Deed.of_books {time : Nat} (same : after.books = cab.books) : Deed time cab after := by
  obtain ⟨ledger, rest⟩ := Prod.mk.inj same
  obtain ⟨courier, rest⟩ := Prod.mk.inj rest
  obtain ⟨repairs, board⟩ := Prod.mk.inj rest
  exact .drove ledger courier repairs board

theorem onWorld_books {change : World.Change} (kept : Keeps World.ledger change) :
    Keeps (books : Cab Board → _) (onWorld change) := by
  intro cab
  have same := kept cab.world
  unfold onWorld within
  generalize change cab.world = outcome at same
  rcases outcome with ⟨_ | _, world⟩ <;>
    exact congrArg (fun ledger => (ledger, cab.courier, cab.repairs, cab.board)) same

theorem setDestination_ledger (vehicle : VehicleId) (destination : Option ParcelId) :
    Keeps World.ledger (World.setDestination vehicle destination) := by
  refine World.changeVehicle_ledger ?_ vehicle
  exact fun _ => rfl

theorem travel_books (target : Point) (time finish : Nat) :
    Keeps (books : Cab Board → _) (travel target time finish) := by
  refine keeps_bind keeps_get fun cab => keeps_bind (lookUp_keeps _ _) fun vehicle => ?_
  split
  · exact keeps_pure _
  · split
    · exact keeps_pure _
    · refine keeps_bind (onWorld_books (World.changeVehicle_ledger ?_ _)) fun _ =>
        keeps_bind (keeps_ofExcept _ _) fun _ => keeps_pure _
      exact fun _ => rfl

theorem rest_books (mayReturn : Bool) (time : Nat) (lapse : TimeLapse) :
    Keeps (books : Cab Board → _) (rest mayReturn time lapse) := by
  refine keeps_bind keeps_get fun cab =>
    keeps_bind (onWorld_books (setDestination_ledger _ _)) fun _ => ?_
  split
  · exact keeps_bind (travel_books _ _ _) fun _ => keeps_pure _
  · exact keeps_pure _

/-- A vehicle that exists passes a stop. -/
theorem popStop_ledger {load : Load} (found : cab.load? = some load) (parcel : ParcelId) :
    ∃ world, popStop parcel cab = (.ok (), { cab with world := world }) ∧
      world.ledger = cab.world.ledger.reload cab.courier.vehicle (·.pass parcel) := by
  obtain ⟨carrier, present, rfl⟩ := Option.map_eq_some_iff.1 found
  have looked : lookUp (fun world => world.vehicle cab.courier.vehicle) cab =
      (.ok carrier, cab) := by
    have known : cab.world.vehicle cab.courier.vehicle = .ok carrier :=
      World.vehicle_eq_ok_iff.2 present
    refine Prod.ext ?_ rfl
    show (cab.world.vehicle cab.courier.vehicle).mapError _ = _
    rw [known]
    rfl
  obtain ⟨world, changed, ledger⟩ := setRoute_ledger found (carrier.route.erase parcel)
  refine ⟨world, (bind_of_ok looked).trans changed, ledger.trans ?_⟩
  exact Ledger.reload_congr found rfl

/-- A deed, and perhaps a look at the board after it. -/
def Goes (read : ReadBoard Board) (time : Nat) (cab after : Cab Board) : Prop :=
  ∃ middle, Deed time cab middle ∧ (after = middle ∨ Adoption read middle after)

theorem Deed.goes {time : Nat} (deed : Deed time cab after) : Goes read time cab after :=
  ⟨after, deed, .inl rfl⟩

/-- A service that the world lets end is over, and its stop is done, before the next look at the
board. -/
theorem endService_of_finished (read : ReadBoard Board) {load : Load} (found : cab.load? = some load)
    {service : Service} {moment : Nat} {world : World}
    (finished : service.kind.finish cab.courier.vehicle service.parcel moment cab.world =
      (.ok (), world)) :
    ∃ middle left, endService read service moment cab = adopt read middle ∧
      middle.load? = some left ∧
      middle.world.ledger =
        (cab.world.ledger.ended cab.courier.vehicle service.parcel moment service.kind).reload
          cab.courier.vehicle (·.pass service.parcel) ∧
      middle.courier = { cab.courier with service := none } ∧ middle.repairs = cab.repairs ∧
      middle.board = cab.board := by
  obtain ⟨-, ledger⟩ := World.finish_ledger finished
  let idle : Cab Board :=
    { cab with world := world, courier := { cab.courier with service := none } }
  obtain ⟨left, foundIdle⟩ : ∃ left, idle.load? = some left := by
    refine Option.isSome_iff_exists.1 ?_
    show (world.ledger.load? cab.courier.vehicle).isSome = true
    rw [ledger, Ledger.isSome_load?_ended]
    exact Option.isSome_of_eq_some found
  obtain ⟨passed, popped, passes⟩ := popStop_ledger foundIdle service.parcel
  refine ⟨{ idle with world := passed }, left.pass service.parcel, ?_, ?_, ?_, rfl, rfl, rfl⟩
  · rw [endService, get_bind_apply, bind_of_ok (onWorld_of_ok finished)]
    show (popStop service.parcel >>= fun _ => adopt read) idle = _
    rw [bind_of_ok popped]
  · show passed.ledger.load? cab.courier.vehicle = _
    rw [passes]
    exact Ledger.load?_reload_self foundIdle
  · rw [← ledger]
    exact passes

/-- To end a service is refused, or is done before the next look at the board. -/
theorem endService_deed (read : ReadBoard Board) {load : Load} (found : cab.load? = some load)
    {service : Service} (underWay : cab.courier.service = some service) {time moment : Nat}
    (later : time ≤ moment) : Goes read time cab (endService read service moment cab).2 := by
  have present : (cab.world.place? cab.courier.vehicle).isSome = true := by
    obtain ⟨carrier, present, -⟩ := Option.map_eq_some_iff.1 found
    rw [World.place?, present]
    rfl
  rcases World.finish_cases service.kind present service.parcel moment with
    ⟨error, refused⟩ | ⟨world, finished, -⟩
  · rw [endService, get_bind_apply, bind_of_failed (onWorld_of_refused refused)]
    exact Deed.goes (.of_books rfl)
  · obtain ⟨middle, left, ended, foundMiddle, ledger, courier, repairs, board⟩ :=
      endService_of_finished read found finished
    rw [ended]
    exact ⟨middle, .ended underWay (World.finish_ledger finished).1 later ledger courier repairs board,
      .inr (adopt_adoption read foundMiddle)⟩

theorem startService_deed {reached : Cab Board} (idle : cab.courier.service = none) {load : Load}
    (found : cab.load? = some load) (same : reached.books = cab.books) {stop : ParcelId}
    (next : stop ∈ load.stops) (order : TransportOrder) (kind : StopKind) {time moment : Nat}
    (later : time ≤ moment) :
    Deed time cab (startService stop order kind moment reached).2 := by
  obtain ⟨ledger, rest⟩ := Prod.mk.inj same
  obtain ⟨courier, rest⟩ := Prod.mk.inj rest
  obtain ⟨repairs, board⟩ := Prod.mk.inj rest
  rw [startService, get_bind_apply, courier]
  rcases World.start_cases kind cab.courier.vehicle stop moment reached.world with
    ⟨error, refused⟩ | ⟨world, started, -, -, -⟩
  · rw [bind_of_failed (onWorld_of_refused refused)]
    exact .of_books same
  · obtain ⟨ready, begun⟩ := World.start_ledger started
    rw [ledger] at ready begun
    rw [bind_of_ok (onWorld_of_ok started)]
    unfold Checked.add
    split
    · exact .began idle found next ready later begun (.inl ⟨_, by rw [← courier]; rfl⟩) repairs
        board
    · exact .began idle found next ready later begun (.inr courier) repairs board

theorem approach_deed (idle : cab.courier.service = none) {load : Load}
    (found : cab.load? = some load) {stop : ParcelId} (next : stop ∈ load.stops)
    (parcel : Parcel) (kind : StopKind) (time : Nat) (lapse : TimeLapse) :
    Deed time cab (approach stop parcel kind time lapse cab).2 := by
  rw [approach, get_bind_apply]
  have sent : Keeps (books : Cab Board → _)
      (onWorld (World.setDestination cab.courier.vehicle (some stop))) :=
    onWorld_books (setDestination_ledger _ _)
  refine bind_reached (fun _ _ => .of_books (sent cab)) fun _ _ => ?_
  have directed := sent cab
  generalize (onWorld (World.setDestination cab.courier.vehicle (some stop)) cab).2 = onTheWay
    at directed
  have same := (travel_books (kind.place parcel.order) time lapse.finish onTheWay).trans directed
  refine bind_reached (fun _ _ => .of_books same) fun reached went => ?_
  have later : time ≤ reached.2 := travel_onward (Prod.ext went rfl)
  generalize (travel (kind.place parcel.order) time lapse.finish onTheWay).2 = there at same
  dsimp only
  split
  · exact .of_books same
  · split
    · exact .of_books same
    · rw [bind_pure_apply]
      exact startService_deed idle found same next parcel.order kind later

theorem skip_deed (idle : cab.courier.service = none) {load : Load}
    (found : cab.load? = some load) {stop : ParcelId} {known : Parcel}
    (absent : stop ∉ load.aboard) (listed : cab.world.ledger.parcel? stop = some known)
    (claimed : known.state.isUnassigned = false) (time : Nat) :
    Deed time cab (popStop stop cab).2 := by
  obtain ⟨world, popped, passes⟩ := popStop_ledger found stop
  rw [popped]
  exact .skipped idle found absent listed claimed passes rfl rfl rfl

/-- Only what the vehicle carries is to be delivered. -/
theorem mem_contents_of_stopKind? {carrier : Vehicle} {parcel : Parcel} {stop : ParcelId}
    (decided : stopKind? carrier parcel stop = some .delivery) : stop ∈ carrier.contents := by
  unfold stopKind? at decided
  split at decided
  · rename_i carried
    simpa [Vehicle.carries] using carried
  · split at decided <;> cases decided

/-- A stop that is not for the vehicle is one whose parcel somebody else has claimed. -/
theorem of_stopKind?_none {carrier : Vehicle} {parcel : Parcel} {stop : ParcelId}
    (decided : stopKind? carrier parcel stop = none) :
    stop ∉ carrier.contents ∧ parcel.state.isUnassigned = false := by
  unfold stopKind? at decided
  split at decided
  · cases decided
  · rename_i absent
    split at decided
    · cases decided
    · rename_i claimed
      refine ⟨?_, by simpa using claimed⟩
      simpa [Vehicle.carries] using absent

/-- Whatever a driver with a vehicle does in a round is a deed, and perhaps a look at the board after
it. -/
theorem round_deed (read : ReadBoard Board) {load : Load} (found : cab.load? = some load)
    (lapse : TimeLapse) (mayReturn : Bool) (time : Nat) :
    Goes read time cab (round read lapse mayReturn time cab).2 := by
  obtain ⟨carrier, present, rfl⟩ := Option.map_eq_some_iff.1 found
  rw [round, get_bind_apply]
  cases underWay : cab.courier.service with
  | some service =>
    dsimp only
    split
    · exact Deed.goes (.of_books rfl)
    · rw [bind_pure_apply]
      exact endService_deed read found underWay (Nat.le_max_left _ _)
  | none =>
    dsimp only
    split
    · exact Deed.goes (.of_books rfl)
    · refine bind_reached (fun _ _ => Deed.goes (.of_books rfl)) fun vehicle looked => ?_
      have looked : lookUp (fun world => world.vehicle cab.courier.vehicle) cab =
          (.ok vehicle, cab) := Prod.ext looked rfl
      have known := World.vehicle_eq_ok_iff.1 (lookUp_eq_ok looked).1
      rw [present] at known
      cases known
      cases route : carrier.route with
      | nil =>
        dsimp only
        rw [bind_pure_apply]
        exact Deed.goes (.of_books (rest_books mayReturn time lapse cab))
      | cons stop tail =>
        refine bind_reached (fun _ _ => Deed.goes (.of_books rfl)) fun parcel looked => ?_
        have looked : lookUp (fun world => world.parcel stop) cab = (.ok parcel, cab) :=
          Prod.ext looked rfl
        have listed := World.parcel_eq_ok_iff.1 (lookUp_eq_ok looked).1
        cases decided : stopKind? carrier parcel stop with
        | some kind =>
          refine Deed.goes (approach_deed underWay found ?_ parcel kind time lapse)
          show stop ∈ carrier.route
          rw [route]
          exact List.mem_cons_self
        | none =>
          dsimp only
          rw [bind_pure_apply]
          obtain ⟨absent, claimed⟩ := of_stopKind?_none decided
          exact Deed.goes (skip_deed underWay found absent listed claimed time)

end Cab

/-! ### Drivers and vehicles -/

/-- After a driver has changed, it is found at its place, and all others at theirs. -/
theorem Courier.set_cases {couriers : List Courier} {index other : Nat} {changed driver : Courier}
    (there : (couriers.set index changed)[other]? = some driver) :
    (index = other ∧ driver = changed) ∨ (index ≠ other ∧ couriers[other]? = some driver) := by
  by_cases own : index = other
  · subst own
    obtain ⟨inside, -⟩ := List.getElem?_eq_some_iff.1 there
    rw [List.length_set] at inside
    rw [List.getElem?_set_self inside] at there
    exact .inl ⟨rfl, (Option.some.inj there).symm⟩
  · rw [List.getElem?_set_ne own] at there
    exact .inr ⟨own, there⟩

/-- The drivers stand in the order of their vehicles, and every driver has one. -/
structure Crewed (ledger : Ledger) (couriers : List Courier) : Prop where
  named : ∀ (index : Nat) (courier : Courier), couriers[index]? = some courier →
    courier.vehicle = ⟨index⟩
  paired : ∀ index, (ledger.load? ⟨index⟩).isSome = true ↔ index < couriers.length

namespace Crewed

variable {ledger after : Ledger} {couriers : List Courier} {index : Nat} {courier changed : Courier}

/-- The load of a driver. -/
theorem load (crewed : Crewed ledger couriers) (found : couriers[index]? = some courier) :
    ∃ load, ledger.load? courier.vehicle = some load := by
  obtain ⟨inside, -⟩ := List.getElem?_eq_some_iff.1 found
  rw [crewed.named index courier found]
  exact Option.isSome_iff_exists.1 ((crewed.paired index).2 inside)

/-- Different drivers have different vehicles. -/
theorem apart (crewed : Crewed ledger couriers) (found : couriers[index]? = some courier)
    {other : Nat} {driver : Courier} (there : couriers[other]? = some driver)
    (differs : index ≠ other) : driver.vehicle ≠ courier.vehicle := by
  rw [crewed.named other driver there, crewed.named index courier found]
  intro same
  cases same
  exact differs rfl

theorem set (crewed : Crewed ledger couriers) (found : couriers[index]? = some courier)
    (vehicle : changed.vehicle = courier.vehicle)
    (same : ∀ other, (after.load? other).isSome = (ledger.load? other).isSome) :
    Crewed after (couriers.set index changed) := by
  refine ⟨fun other driver foundOther => ?_, fun other => ?_⟩
  · rcases Courier.set_cases foundOther with ⟨rfl, rfl⟩ | ⟨-, foundOther⟩
    · rw [vehicle, crewed.named index courier found]
    · exact crewed.named other driver foundOther
  · rw [same, List.length_set]
    exact crewed.paired other

end Crewed

namespace Cab

variable {Board : Type} {read : ReadBoard Board} {cab after : Cab Board} {couriers : List Courier}
  {index : Nat}

/-- A driver leads every parcel on, and makes none known. -/
theorem Deed.advances {time : Nat} (deed : Deed time cab after) :
    cab.world.ledger.Advances after.world.ledger := by
  cases deed with
  | drove ledger | skipped _ _ _ _ _ ledger =>
    rw [ledger]
    exact .of_same rfl
  | began _ _ _ ready _ ledger =>
    rw [ledger]
    exact Ledger.advances_begun ready
  | ended _ aboard _ ledger =>
    rw [ledger]
    exact Ledger.advances_ended aboard

/-- To look at the board is no event, and does nothing to a parcel. -/
theorem Adoption.parcels (adoption : Adoption read cab after) :
    after.world.ledger.events = cab.world.ledger.events ∧
      after.world.ledger.parcel? = cab.world.ledger.parcel? := by
  cases adoption with
  | busy | current => exact ⟨rfl, rfl⟩
  | accepted _ _ _ _ _ _ ledger | rejected _ _ _ ledger =>
    rw [ledger]
    exact ⟨rfl, rfl⟩

theorem Deed.board {time : Nat} (deed : Deed time cab after) : after.board = cab.board := by
  cases deed with
  | drove _ _ _ board | skipped _ _ _ _ _ _ _ _ board | began _ _ _ _ _ _ _ _ board
  | ended _ _ _ _ _ _ board => exact board

theorem Deed.crewed {time : Nat} (deed : Deed time cab after)
    (crewed : Crewed cab.world.ledger couriers) (found : couriers[index]? = some cab.courier) :
    Crewed after.world.ledger (couriers.set index after.courier) := by
  cases deed with
  | drove ledger courier =>
    rw [ledger, courier]
    exact crewed.set found rfl fun _ => rfl
  | skipped _ _ _ _ _ ledger courier =>
    rw [ledger, courier]
    exact crewed.set found rfl Ledger.isSome_load?_reload
  | began _ _ _ _ _ ledger courier =>
    rw [ledger]
    refine crewed.set found ?_ (Ledger.isSome_load?_begun _ _)
    rcases courier with ⟨_, begun⟩ | same
    · rw [begun]
    · rw [same]
  | ended _ _ _ ledger courier =>
    rw [ledger, courier]
    refine crewed.set found rfl fun other => ?_
    rw [Ledger.isSome_load?_reload, Ledger.isSome_load?_ended]

theorem Adoption.crewed (adoption : Adoption read cab after)
    (crewed : Crewed cab.world.ledger couriers) (found : couriers[index]? = some cab.courier) :
    Crewed after.world.ledger (couriers.set index after.courier) := by
  cases adoption with
  | busy | current => exact crewed.set found rfl fun _ => rfl
  | accepted _ _ _ _ _ _ ledger courier | rejected _ _ _ ledger courier =>
    rw [ledger, courier]
    exact crewed.set found rfl Ledger.isSome_load?_reload

end Cab

namespace Fleet

variable {Surroundings : Type} {worker : Worker Surroundings}

/-- Every driver of the fleet has its vehicle. -/
def IsCrewed (fleet : Fleet Surroundings) : Prop := Crewed fleet.scene.world.ledger fleet.couriers

/-- New parcels and open windows do not concern the drivers. -/
theorem IsCrewed.of_world {fleet : Fleet Surroundings} {world : World} (crewed : fleet.IsCrewed)
    (same : world.vehicles = fleet.scene.world.vehicles) : Crewed world.ledger fleet.couriers := by
  have loads : world.ledger.load? = fleet.scene.world.ledger.load? := by
    funext vehicle
    exact congrArg (fun vehicles => (vehicles[vehicle.index]?).map Vehicle.load) same
  refine ⟨crewed.named, fun index => ?_⟩
  rw [loads]
  exact crewed.paired index

/-- The books of a fresh run know nothing but empty vehicles. -/
theorem initial_ledger (scenario : Scenario) (pace : Pace) (surroundings : Surroundings) :
    (Simulation.initialFleet scenario pace surroundings).scene.world.ledger =
      ⟨[], fun _ => none, fun vehicle =>
        if vehicle.index < scenario.vehicles.length then some ⟨[], []⟩ else none⟩ := by
  show (Simulation.initialWorld scenario).ledger = _
  rw [Simulation.initialWorld_eq]
  unfold World.ledger
  congr 1
  funext vehicle
  unfold World.load? World.vehicle?
  rw [List.getElem?_mapIdx]
  by_cases inside : vehicle.index < scenario.vehicles.length
  · rw [if_pos inside, List.getElem?_eq_getElem inside]
    rfl
  · rw [if_neg inside, List.getElem?_eq_none (Nat.le_of_not_lt inside)]
    rfl

theorem isCrewed_initial (scenario : Scenario) (pace : Pace) (surroundings : Surroundings) :
    (Simulation.initialFleet scenario pace surroundings).IsCrewed := by
  refine ⟨fun index courier found => ?_, fun index => ?_⟩
  · rw [Simulation.initialFleet_courier found]
    rfl
  · rw [initial_ledger]
    simp [Simulation.initialFleet]

/-- A look at the published schedule after which everything is as before. -/
def glance : ReadBoard (Desk × Surroundings) := fun board => (board.1.published, board)

/-- To look at the board is to let the worker take a turn, and then to glance at it. A driver that is
busy does neither. -/
theorem adoption_glance {fleet : Fleet Surroundings} {courier : Courier}
    {cab : Cab (Desk × Surroundings)}
    (adoption : Cab.Adoption (readBoard worker) (fleet.cab courier) cab) :
    Cab.Adoption glance (fleet.cab courier) cab ∨
      Cab.Adoption glance ((turn worker fleet).2.cab courier) cab := by
  cases adoption with
  | busy underWay => exact .inl (.busy underWay)
  | current idle older => exact .inr (.current idle older)
  | accepted idle shown newer listed allowed complete ledger courier repairs board =>
    exact .inr (.accepted idle shown newer listed allowed complete ledger courier repairs board)
  | rejected idle shown newer ledger courier repairs board =>
    exact .inr (.rejected idle shown newer ledger courier repairs board)

/-- A driver keeps what the turns of the worker, its own glances at the board and its deeds keep. -/
theorem maintains_driving {Holds : Fleet Surroundings → Prop}
    (crewed : ∀ fleet, Holds fleet → fleet.IsCrewed) (turning : Maintains Holds (turn worker))
    {index : Nat} {lapse : TimeLapse}
    (adopts : ∀ (fleet : Fleet Surroundings) courier cab, fleet.couriers[index]? = some courier →
      Cab.Adoption glance (fleet.cab courier) cab → Holds fleet → Holds (putBack index cab fleet))
    (deeds : ∀ (fleet : Fleet Surroundings) courier time cab,
      fleet.couriers[index]? = some courier → lapse.start ≤ time →
        Cab.Deed time (fleet.cab courier) cab → Holds fleet → Holds (putBack index cab fleet)) :
    Maintains Holds (driveOne worker index lapse) := by
  have looks : ∀ (fleet : Fleet Surroundings) courier cab,
      fleet.couriers[index]? = some courier →
        Cab.Adoption (readBoard worker) (fleet.cab courier) cab → Holds fleet →
          Holds (putBack index cab fleet) := by
    intro fleet courier cab found adoption holds
    rcases adoption_glance adoption with busy | glanced
    · exact adopts fleet courier cab found busy holds
    · exact adopts (turn worker fleet).2 courier cab found glanced (turning fleet holds)
  refine maintains_driveOne (fun fleet courier mayReturn time found later holds => ?_)
    fun fleet courier found holds => ?_
  · obtain ⟨load, loaded⟩ := (crewed fleet holds).load found
    have loaded : (fleet.cab courier).load? = some load := loaded
    obtain ⟨middle, deed, rest⟩ :=
      Cab.round_deed (readBoard worker) loaded lapse mayReturn time
    have kept := deeds fleet courier time middle found later deed holds
    unfold Fleet.round
    dsimp only
    rcases rest with same | adoption
    · rw [same]
      exact kept
    · have again := looks (putBack index middle fleet) middle.courier _
        (couriers_putBack found middle) adoption kept
      rw [putBack_putBack] at again
      exact again
  · obtain ⟨load, loaded⟩ := (crewed fleet holds).load found
    exact looks fleet courier _ found (Cab.adopt_adoption (readBoard worker) loaded) holds

end Fleet

end LiveFleet
