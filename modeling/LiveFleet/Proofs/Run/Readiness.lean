/-
This file proves that no driver is ever refused anything by the world. Each of the
operations that a driver asks for is refused under some condition, and a driver
rules all of them out by what it knows: its vehicle exists, the stops of its route
are known parcels, what it carries is in its cargo, and so is the parcel that it is
serving. A driver keeps all of this for itself and for the others, whatever entries
are on the board. Where a vehicle stands is known only from the test that has ended
the drive, which is the test that the world makes again; so nothing depends on how
places are computed, or whether they are numbers at all.
-/
import LiveFleet.Proofs.Run.Cargo

namespace LiveFleet

open Attempt

/-! ### Attempts that only an overflow ends -/

/-- The outcome is an answer, or a sum has left the range. -/
def OverflowsAtWorst {Reason Value : Type} (result : Except (Failure Reason) Value) : Prop :=
  ∀ failure, result = .error failure → failure = .crashed .addOverflow

namespace OverflowsAtWorst

variable {Reason State Value Next : Type}

theorem of_ok {result : Except (Failure Reason) Value} {value : Value}
    (answered : result = .ok value) : OverflowsAtWorst result := by
  intro failure failed
  rw [answered] at failed
  cases failed

theorem bind {first : Attempt State (Failure Reason) Value}
    {rest : Value → Attempt State (Failure Reason) Next} {state : State}
    (firstGoes : OverflowsAtWorst (first state).1)
    (restGoes : ∀ value, (first state).1 = .ok value →
      OverflowsAtWorst (rest value (first state).2).1) :
    OverflowsAtWorst ((first >>= rest) state).1 := by
  rw [bind_apply]
  generalize first state = outcome at firstGoes restGoes
  rcases outcome with ⟨error | value, reached⟩
  · intro failure same
    cases same
    exact firstGoes error rfl
  · exact restGoes value rfl

end OverflowsAtWorst

/-- The only sum that is too large is the crash that the sum reports. -/
theorem overflowsAtWorst_add {State Reason : Type} (left right : Nat) (state : State) :
    OverflowsAtWorst ((Attempt.ofExcept Failure.crashed (Checked.add left right) :
      Attempt State (Failure Reason) Nat) state).1 := by
  unfold Checked.add
  split
  · exact .of_ok rfl
  · intro failure failed
    cases failed
    rfl

/-! ### What the world grants -/

namespace World

variable {world : World} {vehicle : VehicleId} {parcel : ParcelId} {time : Nat}

/-- A parcel in the right state may be served by the vehicle that stands at its stop. -/
theorem start_granted {kind : StopKind}
    (ready : world.ledger.Has parcel (kind.stateBefore vehicle))
    (there : world.IsAt vehicle parcel kind) :
    ∃ after, kind.start vehicle parcel time world = (.ok (), after) := by
  obtain ⟨known, place, found, stands, same⟩ := there
  obtain ⟨carrier, present, rfl⟩ := Option.map_eq_some_iff.1 stands
  obtain ⟨again, foundAgain, state⟩ := ready
  have foundAgain : world.parcel? parcel = some again := foundAgain
  rw [found] at foundAgain
  cases foundAgain
  have seen : inspect (fun world => world.vehicle vehicle) world = (.ok carrier, world) :=
    inspect_eq_ok_iff.2 ⟨vehicle_eq_ok_iff.2 present, rfl⟩
  have looked : inspect (fun world => world.parcel parcel) world = (.ok known, world) :=
    inspect_eq_ok_iff.2 ⟨parcel_eq_ok_iff.2 found, rfl⟩
  cases kind with
  | pickup =>
    obtain ⟨after, settled, -⟩ := settle_marks found present
      (fun known => { known with contents := known.contents ++ [parcel] }) (fun _ => rfl)
      (.inCargo vehicle) .startPickup time
    exact ⟨after, (bind_of_ok seen).trans ((bind_of_ok looked).trans
      ((bind_of_ok (require_of state _)).trans ((bind_of_ok (require_of same _)).trans settled)))⟩
  | delivery =>
    have allowed : requireInCargo vehicle parcel .deliver world = (.ok (), world) :=
      requireInCargo_eq_ok_iff.2 ⟨⟨known, found, state⟩, rfl⟩
    exact ⟨_, (bind_of_ok allowed).trans ((bind_of_ok seen).trans
      ((bind_of_ok looked).trans (bind_of_ok (require_of same _))))⟩

/-- A vehicle that has a parcel may end its service. -/
theorem finish_granted {kind : StopKind} {load : Load}
    (present : world.ledger.load? vehicle = some load)
    (aboard : world.ledger.Has parcel (.inCargo vehicle)) :
    ∃ after, kind.finish vehicle parcel time world = (.ok (), after) := by
  have allowed : ∀ action, requireInCargo vehicle parcel action world = (.ok (), world) :=
    fun action => requireInCargo_eq_ok_iff.2 ⟨aboard, rfl⟩
  cases kind with
  | pickup => exact ⟨_, bind_of_ok (allowed .load)⟩
  | delivery =>
    obtain ⟨known, found, -⟩ := aboard
    obtain ⟨carrier, foundVehicle, -⟩ := Option.map_eq_some_iff.1 present
    obtain ⟨after, settled, -⟩ := settle_marks found foundVehicle
      (fun known => { known with contents := known.contents.filter (· ≠ parcel) }) (fun _ => rfl)
      .delivered .endDelivery time
    exact ⟨after, (bind_of_ok (allowed .deliver)).trans settled⟩

end World

/-! ### What a driver knows -/

/-- The vehicle of the driver exists, the stops of its route are known parcels, and the parcel that
the driver is serving is in its cargo. -/
structure Ready (ledger : Ledger) (courier : Courier) : Prop where
  present : (ledger.load? courier.vehicle).isSome = true
  listed : ∀ load, ledger.load? courier.vehicle = some load →
    ∀ stop ∈ load.stops, (ledger.parcel? stop).isSome = true
  serving : ∀ service, courier.service = some service →
    ledger.Has service.parcel (.inCargo courier.vehicle)

namespace Ledger

variable {ledger : Ledger} {vehicle : VehicleId} {parcel : ParcelId}

theorem isSome_parcel?_of_allows (allowed : ledger.allows vehicle parcel = true) :
    (ledger.parcel? parcel).isSome = true := by
  obtain ⟨known, found, -⟩ := allows_iff.1 allowed
  exact Option.isSome_of_eq_some found

/-- A window that opens does not concern a parcel in a cargo. -/
theorem Has.opened (aboard : ledger.Has parcel (.inCargo vehicle)) (time : Nat) :
    (ledger.opened time).Has parcel (.inCargo vehicle) := by
  obtain ⟨known, found, state⟩ := aboard
  have closed : World.opensBy time known = false := by
    rw [World.opensBy, state]
    rfl
  exact ⟨known, by simp [Ledger.opened, found, closed], state⟩

end Ledger

namespace Ready

variable {ledger : Ledger} {courier : Courier} {vehicle : VehicleId} {parcel : ParcelId}

/-- The vehicle gets other stops, all of them known. -/
theorem reload (ready : Ready ledger courier) {change : Load → Load}
    (known : ∀ load, ledger.load? vehicle = some load → ∀ stop ∈ (change load).stops,
      (ledger.parcel? stop).isSome = true) : Ready (ledger.reload vehicle change) courier where
  present := by
    rw [Ledger.isSome_load?_reload]
    exact ready.present
  listed := by
    intro later found stop listed
    rcases Ledger.load?_reload_cases found with ⟨own, load, foundBefore, rfl⟩ | ⟨-, foundBefore⟩
    · exact known load foundBefore stop listed
    · exact ready.listed later foundBefore stop listed
  serving := ready.serving

theorem begun (ready : Ready ledger courier) {kind : StopKind} (time : Nat)
    (may : ledger.Has parcel (kind.stateBefore vehicle)) :
    Ready (ledger.begun vehicle parcel time kind) courier where
  present := by
    rw [Ledger.isSome_load?_begun]
    exact ready.present
  listed := by
    intro later found stop listed
    refine (Ledger.advances_begun may).isSome_parcel? ?_
    cases kind with
    | delivery => exact ready.listed later found stop listed
    | pickup =>
      rcases Ledger.load?_reload_cases found with ⟨own, load, foundBefore, rfl⟩ | ⟨-, foundBefore⟩
      · have foundOwn : ledger.load? courier.vehicle = some load := by
          rw [own]
          exact foundBefore
        exact ready.listed load foundOwn stop listed
      · exact ready.listed later foundBefore stop listed
  serving := by
    intro service underWay
    have aboard := ready.serving service underWay
    cases kind with
    | delivery => exact aboard
    | pickup =>
      -- A parcel in a cargo is not the one that is available.
      refine Ledger.Has.setState_other aboard fun same => ?_
      rw [same] at aboard
      cases aboard.unique may

theorem ended (ready : Ready ledger courier) {kind : StopKind} (time : Nat)
    (aboard : ledger.Has parcel (.inCargo vehicle))
    (aside : courier.service = none ∨ courier.vehicle ≠ vehicle) :
    Ready (ledger.ended vehicle parcel time kind) courier where
  present := by
    rw [Ledger.isSome_load?_ended]
    exact ready.present
  listed := by
    intro later found stop listed
    refine (Ledger.advances_ended aboard).isSome_parcel? ?_
    cases kind with
    | pickup => exact ready.listed later found stop listed
    | delivery =>
      rcases Ledger.load?_reload_cases found with ⟨own, load, foundBefore, rfl⟩ | ⟨-, foundBefore⟩
      · have foundOwn : ledger.load? courier.vehicle = some load := by
          rw [own]
          exact foundBefore
        exact ready.listed load foundOwn stop listed
      · exact ready.listed later foundBefore stop listed
  serving := by
    intro service underWay
    have mine := ready.serving service underWay
    cases kind with
    | pickup => exact mine
    | delivery =>
      -- A parcel is in the cargo of one vehicle.
      refine Ledger.Has.setState_other mine fun same => ?_
      rw [same] at mine
      rcases aside with idle | differs
      · rw [idle] at underWay
        cases underWay
      · exact differs (ParcelState.inCargo.inj (mine.unique aboard))

theorem entered (ready : Ready ledger courier) {new : Parcel}
    (unknown : ledger.parcel? new.id = none) : Ready (ledger.enter new) courier where
  present := ready.present
  listed := fun load found stop listed =>
    Ledger.isSome_parcel?_enter unknown (ready.listed load found stop listed)
  serving := by
    intro service underWay
    obtain ⟨known, found, state⟩ := ready.serving service underWay
    have differs := Ledger.ne_of_known unknown (Option.isSome_of_eq_some found)
    exact ⟨known, (Ledger.parcel?_enter_other differs).trans found, state⟩

theorem opened (ready : Ready ledger courier) (time : Nat) :
    Ready (ledger.opened time) courier where
  present := ready.present
  listed := by
    intro load found stop listed
    rw [Ledger.isSome_parcel?_opened]
    exact ready.listed load found stop listed
  serving := fun service underWay => (ready.serving service underWay).opened time

theorem announced {world : World} (ready : Ready world.ledger courier) (order : TransportOrder)
    (time : Nat) : Ready (world.announce order time).2.ledger courier := by
  have entered := ready.entered (world.nextParcel_unknown order time)
  rw [World.ledger_announce]
  exact ⟨entered.present, entered.listed, entered.serving⟩

theorem refreshed {world : World} (ready : Ready world.ledger courier) (time : Nat) :
    Ready (world.refresh time).2.ledger courier := by
  rw [World.ledger_refresh]
  exact ready.opened time

/-- A driver may take note of any version. -/
theorem adopting (ready : Ready ledger courier) (version : Nat) :
    Ready ledger { courier with adopted := version } := ⟨ready.present, ready.listed, ready.serving⟩

theorem idle (ready : Ready ledger courier) : Ready ledger { courier with service := none } where
  present := ready.present
  listed := ready.listed
  serving := by
    intro service underWay
    cases underWay

/-- The driver itself has ended its service. -/
theorem ended_idle (ready : Ready ledger courier) (time : Nat) (kind : StopKind)
    (aboard : ledger.Has parcel (.inCargo courier.vehicle)) :
    Ready (ledger.ended courier.vehicle parcel time kind) { courier with service := none } :=
  ready.idle.ended time aboard (.inl rfl)

theorem serves (ready : Ready ledger courier) {service : Service}
    (aboard : ledger.Has service.parcel (.inCargo courier.vehicle)) :
    Ready ledger { courier with service := some service } where
  present := ready.present
  listed := ready.listed
  serving := by
    intro same underWay
    cases underWay
    exact aboard

section Drivers

variable {Board : Type} {read : ReadBoard Board} {cab after : Cab Board} {driver : Courier}

/-- A driver that looks at the board leaves every driver ready. -/
theorem adoption_ledger (adoption : Cab.Adoption read cab after)
    (own : Ready cab.world.ledger cab.courier) (ready : Ready cab.world.ledger driver) :
    Ready after.world.ledger driver := by
  cases adoption with
  | busy | current => exact ready
  | accepted _ _ _ _ allowed _ ledger =>
    rw [ledger]
    exact ready.reload fun _ _ stop listed =>
      Ledger.isSome_parcel?_of_allows (allowed stop listed)
  | rejected _ _ _ ledger =>
    rw [ledger]
    exact ready.reload fun load found stop listed =>
      own.listed load found stop (List.mem_filter.1 listed).1

theorem adoption_own (adoption : Cab.Adoption read cab after)
    (ready : Ready cab.world.ledger cab.courier) : Ready after.world.ledger after.courier := by
  have kept := ready.adoption_ledger adoption ready
  cases adoption with
  | busy | current => exact kept
  | accepted _ _ _ _ _ _ _ courier | rejected _ _ _ _ courier =>
    rw [courier]
    exact kept.adopting _

/-- The stops behind the first one for a parcel were stops before. -/
theorem listed_pass (ready : Ready ledger courier) (passed : ParcelId) :
    ∀ load, ledger.load? courier.vehicle = some load → ∀ stop ∈ (load.pass passed).stops,
      (ledger.parcel? stop).isSome = true := by
  intro load found stop listed
  exact ready.listed load found stop (List.mem_of_mem_erase listed)

/-- What a driver does leaves every other driver ready. -/
theorem deed_other {time : Nat} (deed : Cab.Deed time cab after)
    (own : Ready cab.world.ledger cab.courier) (ready : Ready cab.world.ledger driver)
    (apart : driver.vehicle ≠ cab.courier.vehicle) : Ready after.world.ledger driver := by
  cases deed with
  | drove ledger =>
    rw [ledger]
    exact ready
  | @skipped _ stop _ _ _ _ _ _ ledger =>
    rw [ledger]
    exact ready.reload (own.listed_pass stop)
  | began _ _ _ may _ ledger =>
    rw [ledger]
    exact ready.begun _ may
  | @ended service moment _ aboard _ ledger =>
    rw [ledger]
    have ownEnded := own.ended_idle moment service.kind aboard
    exact (ready.ended moment aboard (.inr apart)).reload (ownEnded.listed_pass service.parcel)

/-- What a driver does leaves it ready. -/
theorem deed_own {time : Nat} (deed : Cab.Deed time cab after)
    (ready : Ready cab.world.ledger cab.courier) : Ready after.world.ledger after.courier := by
  cases deed with
  | drove ledger courier =>
    rw [ledger, courier]
    exact ready
  | @skipped _ stop _ _ _ _ _ _ ledger courier =>
    rw [ledger, courier]
    exact ready.reload (ready.listed_pass stop)
  | @began _ stop kind moment _ _ _ may _ ledger courier =>
    rw [ledger]
    have going := ready.begun moment may
    rcases courier with ⟨endsAt, serving⟩ | same
    · rw [serving]
      refine going.serves ?_
      cases kind with
      | pickup => exact may.setState_self
      | delivery => exact may
    · rw [same]
      exact going
  | @ended service moment _ aboard _ ledger courier =>
    rw [ledger, courier]
    have idle := ready.ended_idle moment service.kind aboard
    exact idle.reload (idle.listed_pass service.parcel)

end Drivers

end Ready

/-! ### A driver that is ready -/

namespace Cab

variable {Board : Type} {read : ReadBoard Board} {cab : Cab Board}

/-- The driver is ready, and the books agree about what is aboard. -/
structure IsReady (cab : Cab Board) : Prop where
  laden : Laden cab.world.ledger
  ready : Ready cab.world.ledger cab.courier

theorem IsReady.load (ready : cab.IsReady) : ∃ load, cab.load? = some load :=
  Option.isSome_iff_exists.1 ready.ready.present

theorem IsReady.adoption {after : Cab Board} (ready : cab.IsReady)
    (adoption : Adoption read cab after) : after.IsReady :=
  ⟨ready.laden.adoption adoption, ready.ready.adoption_own adoption⟩

theorem IsReady.deed {after : Cab Board} {time : Nat} (ready : cab.IsReady)
    (deed : Deed time cab after) : after.IsReady :=
  ⟨ready.laden.deed deed, ready.ready.deed_own deed⟩

theorem IsReady.goes {after : Cab Board} {time : Nat} (ready : cab.IsReady)
    (goes : Goes read time cab after) : after.IsReady := by
  obtain ⟨middle, deed, same | adoption⟩ := goes
  · rw [same]
    exact ready.deed deed
  · exact (ready.deed deed).adoption adoption

/-- A driver with a vehicle adopts whatever is on the board. -/
theorem adopt_granted (read : ReadBoard Board) {load : Load} (found : cab.load? = some load) :
    (adopt read cab).1 = .ok () := by
  rw [adopt, get_bind_apply]
  cases underWay : cab.courier.service with
  | some service => rfl
  | none =>
    have looked : look read cab =
        (.ok (read cab.board).1, { cab with board := (read cab.board).2 }) := rfl
    rw [if_neg (by simp), bind_of_ok looked]
    cases shown : (read cab.board).1 with
    | none => rfl
    | some publication =>
      dsimp only
      split
      · rfl
      · let looking : Cab Board :=
          { cab with
            courier := { cab.courier with adopted := publication.version }
            board := (read cab.board).2 }
        have foundThen : looking.load? = some load := found
        show ((committedRoute publication >>= fun route =>
          onWorld (World.setRoute looking.courier.vehicle route)) looking).1 = _
        rcases commit_cases foundThen publication with
          ⟨stops, world, -, -, -, committed, -⟩ | ⟨world, committed, -⟩
        · rw [committed]
        · rw [committed]

theorem popStop_granted {load : Load} (found : cab.load? = some load) (parcel : ParcelId) :
    ∃ world, popStop parcel cab = (.ok (), { cab with world := world }) := by
  obtain ⟨world, popped, -⟩ := popStop_ledger found parcel
  exact ⟨world, popped⟩

theorem lookUp_of_ok {Value : Type} {find : World → Except WorldError Value} {value : Value}
    (found : find cab.world = .ok value) : lookUp find cab = (.ok value, cab) := by
  refine inspect_eq_ok_iff.2 ⟨?_, rfl⟩
  rw [found]
  rfl

theorem changeVehicle_granted {load : Load} (found : cab.load? = some load)
    (change : Vehicle → Vehicle) :
    (onWorld (World.changeVehicle cab.courier.vehicle change) cab).1 = .ok () := by
  obtain ⟨carrier, present, -⟩ := Option.map_eq_some_iff.1 found
  have changed : World.changeVehicle cab.courier.vehicle change cab.world = (.ok (), _) :=
    World.changeVehicle_eq_ok_iff.2 ⟨⟨carrier, present⟩, rfl⟩
  exact congrArg Prod.fst (onWorld_of_ok changed)

/-- A driver that is serving a parcel may end the service, and then go on with what is published. -/
theorem endService_granted (ready : cab.IsReady) (read : ReadBoard Board) {service : Service}
    (underWay : cab.courier.service = some service) (time : Nat) :
    (endService read service time cab).1 = .ok () := by
  obtain ⟨load, found⟩ := ready.load
  obtain ⟨world, finished⟩ : ∃ world,
      service.kind.finish cab.courier.vehicle service.parcel time cab.world = (.ok (), world) :=
    World.finish_granted found (ready.ready.serving service underWay)
  obtain ⟨middle, left, ended, foundMiddle, -⟩ := endService_of_finished read found finished
  rw [ended]
  exact adopt_granted read foundMiddle

/-- A vehicle that exists may drive anywhere. -/
theorem travel_overflowsAtWorst {load : Load} (found : cab.load? = some load) (target : Point)
    (time finish : Nat) : OverflowsAtWorst (travel target time finish cab).1 := by
  obtain ⟨carrier, present, -⟩ := Option.map_eq_some_iff.1 found
  rw [travel, get_bind_apply, bind_of_ok (lookUp_of_ok (World.vehicle_eq_ok_iff.2 present))]
  split
  · exact .of_ok rfl
  · split
    · exact .of_ok rfl
    · refine .bind (.of_ok (changeVehicle_granted found _)) fun _ _ => ?_
      exact .bind (overflowsAtWorst_add _ _ _) fun _ _ => .of_ok rfl

/-- A drive that has arrived has put the vehicle at its target. -/
theorem travel_arrived {target : Point} {time finish next : Nat} {after : Cab Board}
    (travelled : travel target time finish cab = (.ok (true, next), after)) :
    ∃ place, after.world.place? cab.courier.vehicle = some place ∧
      place.samePlace target = true := by
  rw [travel, get_bind_apply] at travelled
  obtain ⟨vehicle, _, looked, travelled⟩ := bind_eq_ok_iff.1 travelled
  obtain ⟨found, rfl⟩ := lookUp_eq_ok looked
  have present := World.vehicle_eq_ok_iff.1 found
  split at travelled
  · rename_i there
    cases travelled
    exact ⟨vehicle.position, congrArg (Option.map Vehicle.position) present, there⟩
  · split at travelled
    · cases travelled
    · dsimp only at travelled
      obtain ⟨_, moved, inWorld, travelled⟩ := bind_eq_ok_iff.1 travelled
      obtain ⟨changed, -⟩ := onWorld_eq_ok inWorld
      obtain ⟨-, world⟩ := World.changeVehicle_eq_ok_iff.1 changed
      obtain ⟨arrival, _, timed, travelled⟩ := bind_eq_ok_iff.1 travelled
      obtain ⟨-, rfl⟩ := ofExcept_eq_ok_iff.1 timed
      obtain ⟨answer, rfl⟩ := Prod.mk.inj travelled
      obtain ⟨arrived, -⟩ := Prod.mk.inj (Except.ok.inj answer)
      refine ⟨_, ?_, arrived⟩
      rw [World.place?, world, World.vehicle?_modifyVehicle, if_pos rfl, present]
      rfl

theorem load?_of_books {after : Cab Board} (same : after.books = cab.books) :
    after.load? = cab.load? := by
  obtain ⟨ledger, rest⟩ := Prod.mk.inj same
  obtain ⟨courier, -⟩ := Prod.mk.inj rest
  rw [load?, ledger, courier]
  rfl

/-- A driver that stands at a stop starts to serve it, if the parcel has stayed what it was found to
be. -/
theorem startService_overflowsAtWorst {there : Cab Board} (same : there.books = cab.books)
    {stop : ParcelId} {parcel : Parcel} (listed : cab.world.parcel? stop = some parcel)
    {kind : StopKind} (may : parcel.state = kind.stateBefore cab.courier.vehicle)
    (arrived : ∃ place, there.world.place? cab.courier.vehicle = some place ∧
      place.samePlace (kind.place parcel.order) = true) (order : TransportOrder) (time : Nat) :
    OverflowsAtWorst (startService stop order kind time there).1 := by
  obtain ⟨ledger, rest⟩ := Prod.mk.inj same
  obtain ⟨courier, -⟩ := Prod.mk.inj rest
  obtain ⟨place, stands, matching⟩ := arrived
  have parcels : there.world.parcel? stop = some parcel :=
    (congrFun (congrArg Ledger.parcel? ledger) stop).trans listed
  have isAt : there.world.IsAt cab.courier.vehicle stop kind :=
    ⟨parcel, place, parcels, stands, matching⟩
  obtain ⟨world, started⟩ : ∃ world,
      kind.start cab.courier.vehicle stop time there.world = (.ok (), world) :=
    World.start_granted ⟨parcel, parcels, may⟩ isAt
  rw [startService, get_bind_apply, courier, bind_of_ok (onWorld_of_ok started)]
  exact .bind (overflowsAtWorst_add _ _ _) fun _ _ => .of_ok rfl

/-- A driver that has found its next stop to be one that it may serve gets there and serves it. -/
theorem approach_overflowsAtWorst {load : Load} (found : cab.load? = some load) {stop : ParcelId}
    {parcel : Parcel} (listed : cab.world.parcel? stop = some parcel) {kind : StopKind}
    (may : kind = .delivery → parcel.state = .inCargo cab.courier.vehicle) (time : Nat)
    (lapse : TimeLapse) : OverflowsAtWorst (approach stop parcel kind time lapse cab).1 := by
  have sent : Keeps (books : Cab Board → _)
      (onWorld (World.setDestination cab.courier.vehicle (some stop))) :=
    onWorld_books (setDestination_ledger _ _)
  rw [approach, get_bind_apply]
  refine .bind (.of_ok (changeVehicle_granted found _)) fun _ _ => ?_
  have directed := sent cab
  generalize (onWorld (World.setDestination cab.courier.vehicle (some stop)) cab).2 = onTheWay
    at directed
  have foundThen := (load?_of_books directed).trans found
  refine .bind (travel_overflowsAtWorst foundThen _ _ _) fun reached went => ?_
  have same := (travel_books (kind.place parcel.order) time lapse.finish onTheWay).trans directed
  obtain ⟨isThere, next⟩ := reached
  have travelled : travel (kind.place parcel.order) time lapse.finish onTheWay =
      (.ok (isThere, next), _) := Prod.ext went rfl
  dsimp only
  cases isThere with
  | false => exact .of_ok rfl
  | true =>
    have arrived := travel_arrived travelled
    have own : onTheWay.courier.vehicle = cab.courier.vehicle :=
      congrArg (fun books => books.2.1.vehicle) directed
    rw [own] at arrived
    split
    · exact .of_ok rfl
    · split
      · exact .of_ok rfl
      · rename_i opened
        have state : parcel.state = kind.stateBefore cab.courier.vehicle := by
          cases kind with
          | pickup =>
            show parcel.state = .available
            simpa using opened
          | delivery => exact may rfl
        exact .bind (startService_overflowsAtWorst same listed state arrived _ _) fun _ _ =>
          .of_ok rfl

theorem rest_overflowsAtWorst {load : Load} (found : cab.load? = some load) (mayReturn : Bool)
    (time : Nat) (lapse : TimeLapse) : OverflowsAtWorst (rest mayReturn time lapse cab).1 := by
  have sent : Keeps (books : Cab Board → _)
      (onWorld (World.setDestination cab.courier.vehicle none)) :=
    onWorld_books (setDestination_ledger _ _)
  rw [rest, get_bind_apply]
  refine .bind (.of_ok (changeVehicle_granted found _)) fun _ _ => ?_
  have foundThen := (load?_of_books (sent cab)).trans found
  split
  · exact .bind (travel_overflowsAtWorst foundThen _ _ _) fun _ _ => .of_ok rfl
  · exact .of_ok rfl

/-- No round of a driver that is ready is refused. -/
theorem round_overflowsAtWorst (ready : cab.IsReady) (read : ReadBoard Board) (lapse : TimeLapse)
    (mayReturn : Bool) (time : Nat) :
    OverflowsAtWorst (round read lapse mayReturn time cab).1 := by
  obtain ⟨load, found⟩ := ready.load
  obtain ⟨carrier, present, rfl⟩ := Option.map_eq_some_iff.1 found
  rw [round, get_bind_apply]
  cases underWay : cab.courier.service with
  | some service =>
    dsimp only
    split
    · exact .of_ok rfl
    · exact .bind (.of_ok (endService_granted ready read underWay _)) fun _ _ => .of_ok rfl
  | none =>
    dsimp only
    split
    · exact .of_ok rfl
    · rw [bind_of_ok (lookUp_of_ok (World.vehicle_eq_ok_iff.2 present))]
      cases route : carrier.route with
      | nil => exact .bind (rest_overflowsAtWorst found mayReturn time lapse) fun _ _ => .of_ok rfl
      | cons stop tail =>
        have onRoute : stop ∈ carrier.load.stops := by
          show stop ∈ carrier.route
          rw [route]
          exact List.mem_cons_self
        obtain ⟨parcel, listed⟩ :=
          Option.isSome_iff_exists.1 (ready.ready.listed _ found stop onRoute)
        have listed : cab.world.parcel? stop = some parcel := listed
        dsimp only
        rw [bind_of_ok (lookUp_of_ok (World.parcel_eq_ok_iff.2 listed))]
        cases decided : stopKind? carrier parcel stop with
        | none =>
          obtain ⟨world, popped⟩ := popStop_granted found stop
          exact .bind (.of_ok (congrArg Prod.fst popped)) fun _ _ => .of_ok rfl
        | some kind =>
          refine approach_overflowsAtWorst found listed ?_ time lapse
          -- Only what the vehicle carries is to be delivered, and it is in the cargo.
          rintro rfl
          have aboard : stop ∈ carrier.load.aboard := mem_contents_of_stopKind? decided
          obtain ⟨known, foundKnown, state⟩ := ready.laden.aboard _ _ found stop aboard
          have same : cab.world.parcel? stop = some known := foundKnown
          rw [listed] at same
          cases same
          exact state

/-- No matter how often it goes round, a driver that is ready is not refused. -/
theorem drive_overflowsAtWorst (read : ReadBoard Board) (lapse : TimeLapse) (mayReturn : Bool)
    (time : Nat) (cab : Cab Board) (ready : cab.IsReady) :
    OverflowsAtWorst (drive read lapse mayReturn time cab).1 := by
  induction time, cab using Cab.drive.induct read lapse mayReturn with
  | case1 time cab failure reached gone =>
    have first := round_overflowsAtWorst ready read lapse mayReturn time
    rw [gone] at first
    rw [drive_of_failed gone]
    intro other failed
    cases failed
    exact first failure rfl
  | case2 time cab reached gone =>
    rw [drive_of_over gone]
    exact .of_ok rfl
  | case3 time cab next reached gone inductionHypothesis =>
    obtain ⟨load, found⟩ := ready.load
    have going := ready.goes (round_deed read found lapse mayReturn time)
    rw [gone] at going
    rw [drive_of_next gone]
    exact inductionHypothesis going

theorem tick_overflowsAtWorst (ready : cab.IsReady) (read : ReadBoard Board) (lapse : TimeLapse)
    (mayReturn : Bool) : OverflowsAtWorst (tick read lapse mayReturn cab).1 := by
  obtain ⟨load, found⟩ := ready.load
  have adopted := adopt_granted read found
  have going := ready.adoption (adopt_adoption read found)
  rw [tick_apply]
  generalize adopt read cab = outcome at adopted going
  rcases outcome with ⟨result, looked⟩
  obtain rfl : result = .ok () := adopted
  exact drive_overflowsAtWorst read lapse mayReturn lapse.start looked going

end Cab

end LiveFleet
