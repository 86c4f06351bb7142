/-
This file follows a run along its moments. A path is any number of steps, and the
steps include the one in which a crash loses a service; so whatever has happened in
any number of calls, the moments of a run lie on one path. For the driver of one
vehicle there are three kinds of steps: a look at the board, a round of its own, and
everything else, which passes by its vehicle. A history is a path with its moments in
order, for what has to be said about an earlier moment of the same run.
-/
import LiveFleet.Proofs.Run.Refusals
import LiveFleet.Proofs.Run.Turns

namespace LiveFleet

open Attempt

/-! ### The log of a vehicle -/

/-- The events that name a vehicle, in order. -/
def eventsBy (vehicle : VehicleId) (events : List Event) : List Event :=
  events.filter fun event => event.vehicle = some vehicle

theorem mem_eventsBy {vehicle : VehicleId} {events : List Event} {event : Event} :
    event ∈ eventsBy vehicle events ↔ event ∈ events ∧ event.vehicle = some vehicle := by
  rw [eventsBy, List.mem_filter, decide_eq_true_eq]

theorem eventsBy_append_own {vehicle : VehicleId} {events : List Event} {event : Event}
    (own : event.vehicle = some vehicle) :
    eventsBy vehicle (events ++ [event]) = eventsBy vehicle events ++ [event] := by
  have kept : eventsBy vehicle [event] = [event] := List.filter_cons_of_pos (decide_eq_true own)
  rw [eventsBy, List.filter_append]
  exact congrArg _ kept

/-! ### What passes by a vehicle -/

/-- Nothing is written about the vehicle, its load stays as it is, and all known parcels keep their
orders. -/
structure Ledger.PassesBy (vehicle : VehicleId) (ledger after : Ledger) : Prop where
  events : ∃ new, after.events = ledger.events ++ new ∧ ∀ event ∈ new, event.vehicle ≠ some vehicle
  load : after.load? vehicle = ledger.load? vehicle
  orders : ∀ parcel known, ledger.parcel? parcel = some known →
    ∃ later, after.parcel? parcel = some later ∧ later.order = known.order

/-- Parcels that move on keep their orders. -/
theorem Ledger.Advances.orders {ledger after : Ledger} (advances : ledger.Advances after)
    (parcel : ParcelId) (known : Parcel) (found : ledger.parcel? parcel = some known) :
    ∃ later, after.parcel? parcel = some later ∧ later.order = known.order := by
  obtain ⟨later, foundLater, -, order, -⟩ := advances.forward found
  exact ⟨later, foundLater, order⟩

namespace Ledger.PassesBy

variable {vehicle : VehicleId} {ledger middle after : Ledger}

theorem of_same (events : after.events = ledger.events) (parcels : after.parcel? = ledger.parcel?)
    (load : after.load? vehicle = ledger.load? vehicle) : PassesBy vehicle ledger after where
  events := ⟨[], by rw [events, List.append_nil], nofun⟩
  load := load
  orders := fun parcel known found => ⟨known, by rw [parcels]; exact found, rfl⟩

theorem refl (vehicle : VehicleId) (ledger : Ledger) : PassesBy vehicle ledger ledger :=
  of_same rfl rfl rfl

theorem trans (first : PassesBy vehicle ledger middle) (second : PassesBy vehicle middle after) :
    PassesBy vehicle ledger after where
  events := by
    obtain ⟨earlier, written, others⟩ := first.events
    obtain ⟨later, writtenThen, othersThen⟩ := second.events
    refine ⟨earlier ++ later, by rw [writtenThen, written, List.append_assoc], ?_⟩
    intro event member
    exact (List.mem_append.1 member).elim (others event) (othersThen event)
  load := second.load.trans first.load
  orders := by
    intro parcel known found
    obtain ⟨between, foundBetween, same⟩ := first.orders parcel known found
    obtain ⟨later, foundLater, sameLater⟩ := second.orders parcel between foundBetween
    exact ⟨later, foundLater, sameLater.trans same⟩

theorem of_advances (advances : ledger.Advances after) {event : Event}
    (written : after.events = ledger.events ++ [event]) (other : event.vehicle ≠ some vehicle)
    (load : after.load? vehicle = ledger.load? vehicle) : PassesBy vehicle ledger after where
  events := ⟨[event], written, fun _ member => List.mem_singleton.1 member ▸ other⟩
  load := load
  orders := advances.orders

theorem reload {other : VehicleId} (apart : vehicle ≠ other) (change : Load → Load) :
    PassesBy vehicle ledger (ledger.reload other change) :=
  of_same rfl rfl (Ledger.load?_reload_other apart)

section

variable (passes : PassesBy vehicle ledger after)

include passes

theorem mem_events (event : Event) (member : event ∈ ledger.events) : event ∈ after.events := by
  obtain ⟨new, written, -⟩ := passes.events
  rw [written]
  exact List.mem_append_left _ member

theorem eventsBy_eq : eventsBy vehicle after.events = eventsBy vehicle ledger.events := by
  obtain ⟨new, written, others⟩ := passes.events
  have none : eventsBy vehicle new = [] :=
    List.filter_eq_nil_iff.2 fun event member own => others event member (of_decide_eq_true own)
  rw [written, eventsBy, List.filter_append]
  exact (congrArg _ none).trans (List.append_nil _)

end

end Ledger.PassesBy

namespace World

theorem passesBy_announce (world : World) (order : TransportOrder) (time : Nat)
    (vehicle : VehicleId) : world.ledger.PassesBy vehicle (world.announce order time).2.ledger := by
  rw [ledger_announce]
  refine ⟨⟨[_], rfl, ?_⟩, rfl, ?_⟩
  · intro event member
    rw [List.mem_singleton.1 member]
    exact (Option.some_ne_none _).symm
  · intro parcel known found
    have differs := Ledger.ne_of_known (world.nextParcel_unknown order time)
      (Option.isSome_of_eq_some found)
    exact ⟨known, (Ledger.parcel?_enter_other differs).trans found, rfl⟩

theorem passesBy_refresh (world : World) (time : Nat) (vehicle : VehicleId) :
    world.ledger.PassesBy vehicle (world.refresh time).2.ledger := by
  rw [ledger_refresh]
  refine ⟨⟨[], (List.append_nil _).symm, nofun⟩, rfl, fun parcel known found => ?_⟩
  refine ⟨_, congrArg (Option.map _) found, ?_⟩
  dsimp only
  split <;> rfl

/-- A vehicle survives the drivers of all others as it is. -/
theorem survives_vehicle {vehicle other : VehicleId} (apart : vehicle ≠ other)
    (known : Option Vehicle) : Survives other fun world => world.vehicle? vehicle = known where
  changeVehicle := by
    intro change world same
    unfold changeVehicle
    split
    · show (world.modifyVehicle other.index change).vehicle? vehicle = known
      rw [vehicle?_modifyVehicle, if_neg apart]
      exact same
    · exact same
  changeState := by
    intro parcel state world same
    unfold changeState
    split <;> exact same
  record := fun _ _ same => same

end World

namespace Cab

variable {Board : Type} {read : ReadBoard Board} {cab after : Cab Board} {vehicle : VehicleId}

/-- What a driver does passes by every other vehicle. -/
theorem Deed.passesBy {time : Nat} (deed : Deed time cab after)
    (apart : vehicle ≠ cab.courier.vehicle) :
    cab.world.ledger.PassesBy vehicle after.world.ledger := by
  have other : some cab.courier.vehicle ≠ some vehicle := fun same =>
    apart (Option.some.inj same).symm
  cases deed with
  | drove ledger =>
    rw [ledger]
    exact .refl _ _
  | skipped _ _ _ _ _ ledger =>
    rw [ledger]
    exact .reload apart _
  | @began _ stop kind moment _ _ _ ready _ ledger =>
    rw [ledger]
    refine .of_advances (Ledger.advances_begun ready) (Ledger.events_begun ..) other ?_
    cases kind with
    | pickup => exact Ledger.load?_reload_other apart
    | delivery => rfl
  | ended _ aboard _ ledger =>
    rw [ledger]
    refine Ledger.PassesBy.trans (.of_advances (Ledger.advances_ended aboard)
      (Ledger.events_ended ..) other (Ledger.load?_ended_other apart)) (.reload apart _)

theorem Adoption.passesBy (adoption : Adoption read cab after)
    (apart : vehicle ≠ cab.courier.vehicle) :
    cab.world.ledger.PassesBy vehicle after.world.ledger := by
  cases adoption with
  | busy | current => exact .refl _ _
  | accepted _ _ _ _ _ _ ledger | rejected _ _ _ ledger =>
    rw [ledger]
    exact .reload apart _

theorem Goes.passesBy {time : Nat} (goes : Goes read time cab after)
    (apart : vehicle ≠ cab.courier.vehicle) :
    cab.world.ledger.PassesBy vehicle after.world.ledger := by
  obtain ⟨middle, deed, same | adoption⟩ := goes
  · rw [same]
    exact deed.passesBy apart
  · have sameVehicle : middle.courier.vehicle = cab.courier.vehicle := by
      cases deed with
      | drove _ courier | skipped _ _ _ _ _ _ courier | ended _ _ _ _ courier => rw [courier]
      | began _ _ _ _ _ _ courier =>
        rcases courier with ⟨_, serving⟩ | same
        · rw [serving]
        · rw [same]
    exact (deed.passesBy apart).trans (adoption.passesBy (sameVehicle ▸ apart))

/-- From one round of a drive to another one: the time at which it begins, and what the driver then
sees. -/
abbrev DrivesTo (read : ReadBoard Board) (lapse : TimeLapse) (mayReturn : Bool) :
    Nat × Cab Board → Nat × Cab Board → Prop :=
  Relation.ReflTransGen fun before after =>
    round read lapse mayReturn before.1 before.2 = (.ok (some after.1), after.2)

end Cab

/-! ### Steps -/

namespace Fleet

variable {Surroundings : Type} {worker : Worker Surroundings}
  {first earlier now before after : Fleet Surroundings}

/-- One step of a run, also the one that loses a service. -/
def Takes (worker : Worker Surroundings) (before after : Fleet Surroundings) : Prop :=
  Stride worker [] before after ∨ Stumble worker before after

/-- From one moment of a run to another one. -/
abbrev Path (worker : Worker Surroundings) : Fleet Surroundings → Fleet Surroundings → Prop :=
  Relation.ReflTransGen (Takes worker)

/-- A step as the driver at a position of the list sees it. -/
inductive Move (worker : Worker Surroundings) (index : Nat) (before after : Fleet Surroundings) :
    Prop where
  /-- The step passes by the driver and its vehicle. -/
  | spared (courier : after.couriers[index]? = before.couriers[index]?)
      (vehicle : after.scene.world.vehicle? ⟨index⟩ = before.scene.world.vehicle? ⟨index⟩)
      (passes : before.scene.world.ledger.PassesBy ⟨index⟩ after.scene.world.ledger)
  | adopted {courier : Courier} {cab : Cab (Desk × Surroundings)}
      (found : before.couriers[index]? = some courier)
      (adoption : Cab.Adoption (readBoard worker) (before.cab courier) cab)
      (returned : after = putBack index cab before)
  | drove {courier : Courier} {cab : Cab (Desk × Surroundings)} {lapse : TimeLapse} {time : Nat}
      {result : Except (Failure WorldError) (Option Nat)}
      (found : before.couriers[index]? = some courier)
      (turn : Cab.Turn (readBoard worker) lapse time (before.cab courier) result cab)
      (returned : after = putBack index cab before)

section

variable (manned : before.IsManned) {index : Nat} {courier : Courier}
  (found : before.couriers[index]? = some courier)

include manned found

theorem IsManned.isReady : (before.cab courier).IsReady := by
  have seen : Manned (before.cab courier).world.ledger before.couriers := manned
  exact seen.isReady found

/-- A look at the board is granted to a driver of a fleet. -/
theorem IsManned.looks (worker : Worker Surroundings) :
    ∃ cab, Cab.adopt (readBoard worker) (before.cab courier) = (.ok (), cab) := by
  obtain ⟨load, loaded⟩ := (manned.isReady found).load
  exact ⟨_, Prod.ext (Cab.adopt_granted (readBoard worker) loaded) rfl⟩

/-- What a driver of a fleet does when it looks at the board. -/
theorem IsManned.adoption (worker : Worker Surroundings) :
    Cab.Adoption (readBoard worker) (before.cab courier)
      (Cab.adopt (readBoard worker) (before.cab courier)).2 := by
  obtain ⟨load, loaded⟩ := (manned.isReady found).load
  exact Cab.adopt_adoption (readBoard worker) loaded

/-- What a driver of a fleet does in a round, for its own books and for those of the others. -/
theorem IsManned.goes (worker : Worker Surroundings) (lapse : TimeLapse) (mayReturn : Bool)
    (time : Nat) :
    Cab.Goes (readBoard worker) time (before.cab courier)
      (Cab.round (readBoard worker) lapse mayReturn time (before.cab courier)).2 := by
  obtain ⟨load, loaded⟩ := (manned.isReady found).load
  exact Cab.round_deed (readBoard worker) loaded lapse mayReturn time

/-- No other driver drives the vehicle of this one. -/
theorem IsManned.apart {other : Nat} (differs : index ≠ other) :
    (⟨other⟩ : VehicleId) ≠ courier.vehicle := by
  rw [manned.crewed.named index courier found]
  exact fun same => differs (VehicleId.mk.inj same).symm

end

/-- A step of another driver, which keeps whatever survives it. -/
theorem move_of_other (manned : before.IsManned) {index other : Nat} (differs : other ≠ index)
    {courier : Courier} (found : before.couriers[other]? = some courier)
    {cab : Cab (Desk × Surroundings)}
    (within : ∀ {Holds : World → Prop}, World.Survives courier.vehicle Holds →
      Holds before.scene.world → Holds cab.world)
    (passes : ∀ vehicle, vehicle ≠ courier.vehicle →
      before.scene.world.ledger.PassesBy vehicle cab.world.ledger) :
    Move worker index before (putBack other cab before) := by
  have apart := manned.apart found differs
  exact .spared (List.getElem?_set_ne differs) (within (World.survives_vehicle apart _) rfl)
    (passes _ apart)

theorem move_of_round (manned : before.IsManned) (index : Nat) {other : Nat} {courier : Courier}
    (found : before.couriers[other]? = some courier) (lapse : TimeLapse) (mayReturn : Bool)
    (time : Nat) :
    Move worker index before (before.round worker other courier lapse mayReturn time).2 := by
  by_cases own : other = index
  · subst own
    exact .drove found
      (Cab.round_turn (manned.isReady found) (readBoard worker) lapse mayReturn time) rfl
  · refine move_of_other manned own found (fun survives holds => ?_)
      fun vehicle apart => (manned.goes found worker lapse mayReturn time).passesBy apart
    exact (Cab.round_within survives (readBoard worker) lapse mayReturn time
      (before.cab courier) ⟨rfl, holds⟩).2

/-- Every step is one of these. -/
theorem Takes.move (takes : Takes worker before after) (manned : before.IsManned) (index : Nat) :
    Move worker index before after := by
  rcases takes with stride | stumble
  · cases stride with
    | aside world couriers =>
      refine .spared (by rw [couriers]) (by rw [world]) ?_
      rw [world]
      exact .refl _ _
    | announced fleet order =>
      exact .spared rfl rfl (before.scene.world.passesBy_announce order _ _)
    | opened fleet time => exact .spared rfl rfl (before.scene.world.passesBy_refresh time _)
    | @adopted _ other courier found =>
      have adoption := manned.adoption found worker
      by_cases own : other = index
      · subst own
        exact .adopted found adoption rfl
      · refine move_of_other manned own found (fun survives holds => ?_)
          fun vehicle apart => adoption.passesBy apart
        exact (Cab.adopt_within survives (readBoard worker) (before.cab courier) ⟨rfl, holds⟩).2
    | drove found lapse mayReturn time =>
      exact move_of_round manned index found lapse mayReturn time
    | observed member | observedEnd member => cases member
  · cases stumble with
    | drove found lapse mayReturn time =>
      exact move_of_round manned index found lapse mayReturn time

/-! ### Drivers on a path -/

theorem isManned_round (manned : before.IsManned) {index : Nat} {courier : Courier}
    (found : before.couriers[index]? = some courier) (lapse : TimeLapse) (mayReturn : Bool)
    (time : Nat) : (before.round worker index courier lapse mayReturn time).2.IsManned := by
  have seen : Manned (before.cab courier).world.ledger before.couriers := manned
  obtain ⟨middle, deed, same | adoption⟩ := manned.goes found worker lapse mayReturn time
  · have done := seen.deed found deed
    rw [← same] at done
    exact done
  · have foundThen : (before.couriers.set index middle.courier)[index]? = some middle.courier :=
      couriers_putBack found middle
    have done := (seen.deed found deed).adoption foundThen adoption
    rw [List.set_set] at done
    exact done

theorem Takes.isManned (takes : Takes worker before after) (manned : before.IsManned) :
    after.IsManned := by
  have crewed : before.IsCrewed := manned.crewed
  rcases takes with stride | stumble
  · cases stride with
    | aside world couriers =>
      unfold IsManned
      rw [world, couriers]
      exact manned
    | announced fleet order =>
      exact ⟨crewed.of_world rfl, manned.laden.announced _ _,
        fun index courier found => (manned.ready index courier found).announced _ _⟩
    | opened fleet time =>
      exact ⟨crewed.of_world rfl, manned.laden.refreshed _,
        fun index courier found => (manned.ready index courier found).refreshed _⟩
    | @adopted _ other courier found =>
      have seen : Manned (before.cab courier).world.ledger before.couriers := manned
      exact seen.adoption found (manned.adoption found worker)
    | drove found lapse mayReturn time => exact isManned_round manned found lapse mayReturn time
    | observed member | observedEnd member => cases member
  · cases stumble with
    | drove found lapse mayReturn time => exact isManned_round manned found lapse mayReturn time

theorem Path.isManned (path : Path worker first now) (manned : first.IsManned) : now.IsManned := by
  induction path with
  | refl => exact manned
  | tail _ takes inductionHypothesis => exact takes.isManned inductionHypothesis

/-! ### Runs are paths -/

theorem Trail.path (trail : Trail worker [] first now) : Path worker first now :=
  trail.lift id fun _ _ stride => .inl stride

/-- However an operation ends, it is a path. -/
theorem Ends.path {Reason Value : Type} {result : Except (Failure Reason) Value}
    (ends : Ends worker [] first result now) : Path worker first now := by
  cases ends with
  | whole trail => exact trail.path
  | stumbled trail stumble => exact trail.path.tail (.inr stumble)

/-- A round of a driver is a step. -/
theorem takes_round {index : Nat} {courier : Courier}
    (found : before.couriers[index]? = some courier) (lapse : TimeLapse) (mayReturn : Bool)
    (time : Nat) :
    Takes worker before (before.round worker index courier lapse mayReturn time).2 := by
  by_cases whole : (before.round worker index courier lapse mayReturn time).1 =
      .error (.crashed .addOverflow) →
    ¬ (before.round worker index courier lapse mayReturn time).2.HasLostService
  · exact .inl (.drove found lapse mayReturn time whole)
  · obtain ⟨crash, lost⟩ := Classical.not_imp.1 whole
    exact .inr (.drove found lapse mayReturn time crash (Classical.not_not.1 lost))

/-- The round of a driver is the same whether it is put back before it or not. -/
theorem round_putBack (worker : Worker Surroundings) (index : Nat)
    (cab : Cab (Desk × Surroundings)) (fleet : Fleet Surroundings) (lapse : TimeLapse)
    (mayReturn : Bool) (time : Nat) :
    (putBack index cab fleet).round worker index cab.courier lapse mayReturn time =
      ((Cab.round (readBoard worker) lapse mayReturn time cab).1,
        putBack index (Cab.round (readBoard worker) lapse mayReturn time cab).2 fleet) := by
  unfold Fleet.round
  dsimp only
  rw [putBack_putBack]
  rfl

/-- Every round of a drive is a step. -/
theorem takes_round_of {index : Nat} {courier : Courier}
    (found : now.couriers[index]? = some courier) (cab : Cab (Desk × Surroundings))
    (lapse : TimeLapse) (mayReturn : Bool) (time : Nat) :
    Takes worker (putBack index cab now)
      (putBack index (Cab.round (readBoard worker) lapse mayReturn time cab).2 now) := by
  have takes : Takes worker (putBack index cab now) _ :=
    takes_round (couriers_putBack found cab) lapse mayReturn time
  rwa [round_putBack] at takes

theorem path_of_drivesTo {index : Nat} {courier : Courier}
    (found : now.couriers[index]? = some courier) {lapse : TimeLapse} {mayReturn : Bool}
    {start last : Nat × Cab (Desk × Surroundings)}
    (drives : Cab.DrivesTo (readBoard worker) lapse mayReturn start last) :
    Path worker (putBack index start.2 now) (putBack index last.2 now) := by
  induction drives with
  | refl => exact .refl
  | @tail between last _ round inductionHypothesis =>
    have takes : Takes worker (putBack index between.2 now) _ :=
      takes_round_of found between.2 lapse mayReturn between.1
    rw [round] at takes
    exact inductionHypothesis.tail takes

/-- Whoever takes part in a run leads it on along its path. -/
theorem path_upkeep (worker : Worker Surroundings) (first : Fleet Surroundings) :
    Upkeep worker fun _ fleet => Path worker first fleet where
  turn := fun _ fleet path =>
    have ends : Ends worker [] fleet _ _ := treads_turn fleet
    path.trans ends.path
  announcing := fun _ lapse _ fleet path =>
    have ends : Ends worker [] fleet _ _ := treads_announcing lapse fleet
    path.trans ends.path
  handing := fun _ fleet time path =>
    path.tail (.inl (.aside rfl rfl (.dispatch fleet.desk (.capture fleet.scene.world time))))
  driving := fun _ lapse index _ fleet path =>
    have ends : Ends worker [] fleet _ _ := treads_driveOne index lapse fleet
    path.trans ends.path
  onward := fun _ _ _ _ path => path

/-! ### Histories -/

/-- The moments of a path, one after the other. -/
structure History (worker : Worker Surroundings) (first : Fleet Surroundings)
    (moments : Nat → Fleet Surroundings) (length : Nat) : Prop where
  begins : moments 0 = first
  steps : ∀ position < length, Takes worker (moments position) (moments (position + 1))

namespace History

variable {moments : Nat → Fleet Surroundings} {length position : Nat}

/-- A history has a path to each of its moments. -/
theorem path (history : History worker first moments length) (within : position ≤ length) :
    Path worker first (moments position) := by
  induction position with
  | zero => exact history.begins ▸ .refl
  | succ position inductionHypothesis =>
    exact (inductionHypothesis (Nat.le_of_succ_le within)).tail (history.steps position within)

/-- A step leads a history on. -/
theorem continued (history : History worker first moments length)
    (takes : Takes worker (moments length) now) :
    History worker first (fun position => if position ≤ length then moments position else now)
      (length + 1) where
  begins := (if_pos (Nat.zero_le _)).trans history.begins
  steps := by
    intro position within
    rw [if_pos (Nat.le_of_lt_succ within)]
    rcases Nat.lt_or_ge position length with early | late
    · rw [if_pos (Nat.succ_le_of_lt early)]
      exact history.steps position early
    · rw [if_neg (Nat.not_le.2 (Nat.lt_succ_of_le late))]
      obtain rfl := Nat.le_antisymm (Nat.le_of_lt_succ within) late
      exact takes

end History

/-- The moment belongs to a history that begins with the given one. -/
def IsMoment (worker : Worker Surroundings) (first now : Fleet Surroundings) : Prop :=
  ∃ moments length, History worker first moments length ∧ moments length = now

/-- Every path has a history. -/
theorem Path.isMoment (path : Path worker first now) : IsMoment worker first now := by
  induction path with
  | refl => exact ⟨fun _ => first, 0, ⟨rfl, nofun⟩, rfl⟩
  | tail _ takes inductionHypothesis =>
    obtain ⟨moments, length, history, rfl⟩ := inductionHypothesis
    exact ⟨_, _, history.continued takes, if_neg (Nat.not_succ_le_self length)⟩

end Fleet

namespace Simulation

open Fleet

variable {Surroundings : Type} {simulation : Simulation Surroundings}

/-- After any number of calls, however they have ended, a run is on its path. -/
theorem path_after (simulation : Simulation Surroundings) (worker : Worker Surroundings)
    (calls : Nat) : Path worker simulation.fleet (simulation.after worker [] calls).fleet :=
  upkeep_after (path_upkeep worker simulation.fleet) .refl calls

/-- So it is between the ticks of every call. -/
theorem path_atTick (simulation : Simulation Surroundings) (worker : Worker Surroundings)
    (calls tick : Nat) :
    Path worker simulation.fleet ((simulation.after worker [] calls).atTick worker [] tick).2.2 :=
  upkeep_atTick (path_upkeep worker simulation.fleet) (simulation.path_after worker calls) tick

end Simulation

end LiveFleet
