/-
This file says what a driver commits to, and what it has completed. It commits to a
route whenever it finds a newer schedule on the board: to its entry, or to what is
left of its old route. The version that it has considered last tells the commitments
apart, since every one of them raises it and nothing else does. What the driver has
completed is told by the log. The file begins with a fact about the cargo that tells
a stop to be skipped from one to be served: whatever is in the cargo of a vehicle is
aboard it.
-/
import LiveFleet.Proofs.Run.Paths

namespace LiveFleet

open Attempt

/-! ### Cargo is aboard -/

/-- Whatever is in the cargo of a vehicle is aboard it. -/
def Ledger.Hauls (ledger : Ledger) : Prop :=
  ∀ parcel vehicle load, ledger.Has parcel (.inCargo vehicle) →
    ledger.load? vehicle = some load → parcel ∈ load.aboard

namespace Ledger

variable {ledger : Ledger} {parcel other : ParcelId} {state held : ParcelState}

theorem Has.of_setState_self (has : (ledger.setState parcel state).Has parcel held) :
    held = state := by
  obtain ⟨later, found, rfl⟩ := has
  obtain ⟨known, -, rfl⟩ := Option.map_eq_some_iff.1 ((if_pos rfl).symm.trans found)
  rfl

theorem Has.of_setState_other (has : (ledger.setState parcel state).Has other held)
    (differs : other ≠ parcel) : ledger.Has other held := by
  obtain ⟨known, found, same⟩ := has
  exact ⟨known, (parcel?_setState_other differs).symm.trans found, same⟩

end Ledger

namespace Ledger.Hauls

variable {ledger : Ledger} {vehicle : VehicleId} {parcel : ParcelId} {time : Nat} {kind : StopKind}

/-- The stops of a vehicle are no matter of its cargo. -/
theorem reload (hauls : ledger.Hauls) {change : Load → Load}
    (same : ∀ load, (change load).aboard = load.aboard) : (ledger.reload vehicle change).Hauls := by
  intro parcel other later has found
  rcases load?_reload_cases found with ⟨rfl, load, foundBefore, rfl⟩ | ⟨-, foundBefore⟩
  · rw [same]
    exact hauls parcel other load has foundBefore
  · exact hauls parcel other later has foundBefore

theorem begun (hauls : ledger.Hauls) : (ledger.begun vehicle parcel time kind).Hauls := by
  cases kind with
  | delivery => exact hauls
  | pickup =>
    intro stowed other later has found
    have has : (ledger.setState parcel (.inCargo vehicle)).Has stowed (.inCargo other) := has
    by_cases own : stowed = parcel
    · subst own
      obtain rfl := ParcelState.inCargo.inj has.of_setState_self
      obtain ⟨load, -, rfl⟩ := load?_reload_own found
      exact Load.mem_stow.2 (.inr rfl)
    · have hasBefore := has.of_setState_other own
      rcases load?_reload_cases found with ⟨rfl, load, foundBefore, rfl⟩ | ⟨-, foundBefore⟩
      · exact Load.mem_stow.2 (.inl (hauls stowed other load hasBefore foundBefore))
      · exact hauls stowed other later hasBefore foundBefore

theorem ended (hauls : ledger.Hauls) : (ledger.ended vehicle parcel time kind).Hauls := by
  cases kind with
  | pickup => exact hauls
  | delivery =>
    intro held other later has found
    have has : (ledger.setState parcel .delivered).Has held (.inCargo other) := has
    have differs : held ≠ parcel := by
      rintro rfl
      cases has.of_setState_self
    have hasBefore := has.of_setState_other differs
    rcases load?_reload_cases found with ⟨rfl, load, foundBefore, rfl⟩ | ⟨-, foundBefore⟩
    · exact Load.mem_unload.2 ⟨hauls held other load hasBefore foundBefore, differs⟩
    · exact hauls held other later hasBefore foundBefore

theorem entered (hauls : ledger.Hauls) {new : Parcel} (unassigned : new.state.isUnassigned = true) :
    (ledger.enter new).Hauls := by
  rintro held vehicle load ⟨known, found, state⟩ loaded
  by_cases own : held = new.id
  · obtain rfl := Option.some.inj ((if_pos own).symm.trans found)
    rw [state] at unassigned
    cases unassigned
  · exact hauls held vehicle load ⟨known, (if_neg own).symm.trans found, state⟩ loaded

theorem opened (hauls : ledger.Hauls) : (ledger.opened time).Hauls := by
  rintro held vehicle load ⟨later, found, state⟩ loaded
  obtain ⟨known, foundBefore, rfl⟩ := Option.map_eq_some_iff.1 found
  refine hauls held vehicle load ⟨known, foundBefore, ?_⟩ loaded
  split at state
  · cases state
  · exact state

end Ledger.Hauls

namespace Cab

variable {Board : Type} {read : ReadBoard Board} {cab after : Cab Board}

theorem Deed.hauls {time : Nat} (deed : Deed time cab after) (hauls : cab.world.ledger.Hauls) :
    after.world.ledger.Hauls := by
  cases deed with
  | drove ledger =>
    rw [ledger]
    exact hauls
  | skipped _ _ _ _ _ ledger =>
    rw [ledger]
    exact hauls.reload fun _ => rfl
  | began _ _ _ _ _ ledger =>
    rw [ledger]
    exact hauls.begun
  | ended _ _ _ ledger =>
    rw [ledger]
    exact hauls.ended.reload fun _ => rfl

theorem Adoption.hauls (adoption : Adoption read cab after) (hauls : cab.world.ledger.Hauls) :
    after.world.ledger.Hauls := by
  cases adoption with
  | busy | current => exact hauls
  | accepted _ _ _ _ _ _ ledger | rejected _ _ _ ledger =>
    rw [ledger]
    exact hauls.reload fun _ => rfl

end Cab

namespace Fleet

variable {Surroundings : Type} {worker : Worker Surroundings} {first now after : Fleet Surroundings}

theorem hauls_round {before : Fleet Surroundings} (manned : before.IsManned)
    (hauls : before.scene.world.ledger.Hauls) {index : Nat} {courier : Courier}
    (found : before.couriers[index]? = some courier) (lapse : TimeLapse) (mayReturn : Bool)
    (time : Nat) :
    (before.round worker index courier lapse mayReturn time).2.scene.world.ledger.Hauls := by
  obtain ⟨middle, deed, same | adoption⟩ := manned.goes found worker lapse mayReturn time
  · have done := deed.hauls hauls
    rw [← same] at done
    exact done
  · exact adoption.hauls (deed.hauls hauls)

theorem Takes.hauls (takes : Takes worker now after) (manned : now.IsManned)
    (hauls : now.scene.world.ledger.Hauls) : after.scene.world.ledger.Hauls := by
  rcases takes with stride | stumble
  · cases stride with
    | aside world =>
      rw [world]
      exact hauls
    | announced fleet order =>
      show (now.scene.world.announce order order.announceTime).2.ledger.Hauls
      rw [World.ledger_announce]
      refine hauls.entered ?_
      show ParcelState.isUnassigned (if _ then _ else _) = true
      split <;> rfl
    | opened fleet time =>
      show (now.scene.world.refresh time).2.ledger.Hauls
      rw [World.ledger_refresh]
      exact hauls.opened
    | adopted found => exact (manned.adoption found worker).hauls hauls
    | drove found lapse mayReturn time => exact hauls_round manned hauls found lapse mayReturn time
    | observed member | observedEnd member => cases member
  · cases stumble with
    | drove found lapse mayReturn time => exact hauls_round manned hauls found lapse mayReturn time

end Fleet

/-! ### Completed services -/

/-- The stop that is done when an event happens, if one is. -/
def EventKind.doneStop? : EventKind → Option StopKind
  | endPickup => some .pickup
  | endDelivery => some .delivery
  | newParcel | startPickup | startDelivery => none

/-- The services that a vehicle has completed according to a log, in order: their kinds and their
parcels. -/
def servedBy (vehicle : VehicleId) (events : List Event) : List (StopKind × ParcelId) :=
  (eventsBy vehicle events).filterMap fun event =>
    event.kind.doneStop?.map fun kind => (kind, event.parcel)

section

variable {vehicle : VehicleId} {ledger after : Ledger} {parcel : ParcelId} {time : Nat}
  {kind : StopKind}

theorem servedBy_begun :
    servedBy vehicle (ledger.begun vehicle parcel time kind).events =
      servedBy vehicle ledger.events := by
  rw [Ledger.events_begun, servedBy, eventsBy_append_own rfl, List.filterMap_append]
  cases kind <;> exact List.append_nil _

theorem servedBy_ended :
    servedBy vehicle (ledger.ended vehicle parcel time kind).events =
      servedBy vehicle ledger.events ++ [(kind, parcel)] := by
  rw [Ledger.events_ended, servedBy, eventsBy_append_own rfl, List.filterMap_append]
  cases kind <;> rfl

theorem Ledger.PassesBy.servedBy_eq (passes : ledger.PassesBy vehicle after) :
    servedBy vehicle after.events = servedBy vehicle ledger.events := by
  rw [servedBy, passes.eventsBy_eq]
  rfl

end

/-! ### Stops -/

namespace Ledger

variable {ledger : Ledger} {vehicle : VehicleId} {parcel : ParcelId} {time : Nat} {kind : StopKind}

/-- The stops of a vehicle, if the vehicle exists. -/
def stops? (ledger : Ledger) (vehicle : VehicleId) : Option (List ParcelId) :=
  (ledger.load? vehicle).map Load.stops

theorem stops?_reload (change : Load → Load) :
    (ledger.reload vehicle change).stops? vehicle =
      (ledger.load? vehicle).map fun load => (change load).stops := by
  have own : (ledger.reload vehicle change).load? vehicle = (ledger.load? vehicle).map change :=
    if_pos rfl
  rw [stops?, own, Option.map_map]
  rfl

/-- A service is no matter of the stops until it has ended. -/
theorem stops?_begun :
    (ledger.begun vehicle parcel time kind).stops? vehicle = ledger.stops? vehicle := by
  cases kind with
  | pickup => exact stops?_reload _
  | delivery => rfl

theorem stops?_ended :
    (ledger.ended vehicle parcel time kind).stops? vehicle = ledger.stops? vehicle := by
  cases kind with
  | pickup => rfl
  | delivery => exact stops?_reload _

/-- To pass the first stop is to have the others before oneself. -/
theorem stops?_pass {ahead : List ParcelId}
    (next : ledger.stops? vehicle = some (parcel :: ahead)) :
    (ledger.reload vehicle (·.pass parcel)).stops? vehicle = some ahead := by
  obtain ⟨load, found, stops⟩ := Option.map_eq_some_iff.1 next
  rw [stops?_reload, found, Option.map_some, Load.pass, stops, List.erase_cons_head]

end Ledger

/-! ### Commitments -/

namespace Cab

variable {Board : Type} {read : ReadBoard Board} {lapse : TimeLapse} {time : Nat}
  {cab after : Cab Board}

/-- The route of the vehicle that the driver drives. -/
def route? (cab : Cab Board) : Option (List ParcelId) :=
  cab.world.ledger.stops? cab.courier.vehicle

/-- A driver without a service finds a newer schedule on the board and writes its route: its entry,
or the stops of its old route that it may still make. -/
structure Commits (read : ReadBoard Board) (cab after : Cab Board) (route : List ParcelId) :
    Prop where
  idle : cab.courier.service = none
  choice : ∃ publication, (read cab.board).1 = some publication ∧
    cab.courier.adopted < publication.version ∧
    after.courier = { cab.courier with adopted := publication.version } ∧
    (publication.schedule.entry? cab.courier.vehicle = some route ∨
      ∃ load, cab.load? = some load ∧
        route = load.stops.filter (cab.world.ledger.allows cab.courier.vehicle))
  written : after.route? = some route
  log : after.world.ledger.events = cab.world.ledger.events

theorem Commits.newer {route : List ParcelId} (commits : Commits read cab after route) :
    cab.courier.adopted < after.courier.adopted := by
  obtain ⟨publication, -, newer, courier, -⟩ := commits.choice
  rw [courier]
  exact newer

/-- A look at the board leads to a commitment, or the driver and the world stay as they are. -/
theorem Adoption.commits (adoption : Adoption read cab after) {load : Load}
    (found : cab.load? = some load) :
    (after.courier = cab.courier ∧ after.world = cab.world) ∨
      ∃ route, Commits read cab after route := by
  have written : ∀ {version change},
      after.world.ledger = cab.world.ledger.reload cab.courier.vehicle change →
        after.courier = { cab.courier with adopted := version } →
          after.route? = some (change load).stops ∧
            after.world.ledger.events = cab.world.ledger.events := by
    intro version change ledger courier
    unfold route?
    rw [ledger, courier]
    exact ⟨congrArg (Option.map Load.stops) (Ledger.load?_reload_self found), rfl⟩
  cases adoption with
  | busy | current => exact .inl ⟨rfl, rfl⟩
  | accepted idle shown newer listed _ _ ledger courier =>
    obtain ⟨route, log⟩ := written ledger courier
    exact .inr ⟨_, idle, ⟨_, shown, newer, courier, .inl listed⟩, route, log⟩
  | rejected idle shown newer ledger courier =>
    obtain ⟨route, log⟩ := written ledger courier
    exact .inr ⟨_, idle, ⟨_, shown, newer, courier, .inr ⟨load, found, rfl⟩⟩, route, log⟩

end Cab

end LiveFleet
