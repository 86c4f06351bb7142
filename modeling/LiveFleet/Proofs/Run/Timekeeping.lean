/-
This file follows the log of one vehicle by the clock. Within a tick the driver never
goes back in time and never passes the end of the lapse, so what it writes is in order
and within the lapse. A service that begins is due after exactly the time that its
order says, and its driver ends it when it is due: within a tick because a round does
nothing else until then, and in a later tick because a service that is left open at
the end of a lapse is due after that end.
-/
import LiveFleet.Proofs.Run.Destinations
import LiveFleet.Proofs.Run.Handover
import LiveFleet.Proofs.Run.Paths

namespace LiveFleet

open Attempt

/-! ### Logs in order -/

namespace Ledger

variable {vehicle : VehicleId} {first : List Event} {start time due : Nat}
  {ledger after : Ledger} {event : Event} {parcel : ParcelId} {kind : StopKind} {moment : Nat}

/-- A service that the vehicle has begun lasts until the given time. -/
def RunsUntil (ledger : Ledger) (vehicle : VehicleId) (parcel : ParcelId) (kind : StopKind)
    (endsAt : Nat) : Prop :=
  ∃ begun known, ⟨kind.startEvent, begun, parcel, some vehicle⟩ ∈ ledger.events ∧
    ledger.parcel? parcel = some known ∧ endsAt = begun + kind.duration known.order

/-- The log of the vehicle up to a time: it is in order, what it has written since an earlier log is
not before a start, and every service that has ended has done so in time. -/
structure IsTimely (vehicle : VehicleId) (first : List Event) (start time : Nat) (ledger : Ledger) :
    Prop where
  since : ∃ new, eventsBy vehicle ledger.events = eventsBy vehicle first ++ new ∧
    ∀ event ∈ new, start ≤ event.time
  past : ∀ event ∈ eventsBy vehicle ledger.events, event.time ≤ time
  ordered : (eventsBy vehicle ledger.events).Pairwise fun earlier later => earlier.time ≤ later.time
  lasted : ∀ event ∈ eventsBy vehicle ledger.events, ∀ kind : StopKind,
    event.kind = kind.endEvent → ledger.RunsUntil vehicle event.parcel kind event.time

/-- The vehicle is serving the first stop of its route, and has the parcel aboard. -/
structure Attends (ledger : Ledger) (vehicle : VehicleId) (service : Service) : Prop where
  runs : ledger.RunsUntil vehicle service.parcel service.kind service.endsAt
  next : ∃ load, ledger.load? vehicle = some load ∧ service.parcel ∈ load.aboard ∧
    load.stops.head? = some service.parcel

theorem RunsUntil.mono (runs : ledger.RunsUntil vehicle parcel kind moment)
    (written : ∀ event ∈ ledger.events, event ∈ after.events)
    (orders : ∀ parcel known, ledger.parcel? parcel = some known →
      ∃ later, after.parcel? parcel = some later ∧ later.order = known.order) :
    after.RunsUntil vehicle parcel kind moment := by
  obtain ⟨begun, known, member, found, rfl⟩ := runs
  obtain ⟨later, foundLater, same⟩ := orders parcel known found
  exact ⟨begun, later, written _ member, foundLater, by rw [same]⟩

namespace PassesBy

variable (passes : ledger.PassesBy vehicle after)

include passes

/-- What passes by a vehicle does not concern its log. -/
theorem isTimely (timely : ledger.IsTimely vehicle first start time) :
    after.IsTimely vehicle first start time := by
  refine ⟨?_, ?_, ?_, fun event member kind ends => ?_⟩
  · rw [passes.eventsBy_eq]
    exact timely.since
  · rw [passes.eventsBy_eq]
    exact timely.past
  · rw [passes.eventsBy_eq]
    exact timely.ordered
  · rw [passes.eventsBy_eq] at member
    exact (timely.lasted event member kind ends).mono passes.mem_events passes.orders

theorem attends {service : Service} (attends : ledger.Attends vehicle service) :
    after.Attends vehicle service where
  runs := attends.runs.mono passes.mem_events passes.orders
  next := passes.load ▸ attends.next

end PassesBy

namespace IsTimely

theorem mono (timely : ledger.IsTimely vehicle first start time) {later : Nat}
    (onward : time ≤ later) : ledger.IsTimely vehicle first start later where
  since := timely.since
  past := fun event member => Nat.le_trans (timely.past event member) onward
  ordered := timely.ordered
  lasted := timely.lasted

/-- Another route or another cargo leaves the log alone. -/
theorem reload (timely : ledger.IsTimely vehicle first start time) (other : VehicleId)
    (change : Load → Load) : (ledger.reload other change).IsTimely vehicle first start time where
  since := timely.since
  past := timely.past
  ordered := timely.ordered
  lasted := timely.lasted

/-- A log may be compared with itself from any time on. -/
theorem rebase (timely : ledger.IsTimely vehicle first start time) (later : Nat) :
    ledger.IsTimely vehicle ledger.events later time where
  since := ⟨[], (List.append_nil _).symm, nofun⟩
  past := timely.past
  ordered := timely.ordered
  lasted := timely.lasted

/-- The vehicle writes an event that is not before the time of the log. -/
theorem write (timely : ledger.IsTimely vehicle first start time) (began : start ≤ time)
    (written : after.events = ledger.events ++ [event]) (own : event.vehicle = some vehicle)
    (later : time ≤ event.time)
    (orders : ∀ parcel known, ledger.parcel? parcel = some known →
      ∃ later, after.parcel? parcel = some later ∧ later.order = known.order)
    (ends : ∀ kind : StopKind, event.kind = kind.endEvent →
      ledger.RunsUntil vehicle event.parcel kind event.time) :
    after.IsTimely vehicle first start event.time := by
  have appended : eventsBy vehicle after.events = eventsBy vehicle ledger.events ++ [event] := by
    rw [written, eventsBy_append_own own]
  have kept : ∀ event ∈ ledger.events, event ∈ after.events := by
    intro event member
    rw [written]
    exact List.mem_append_left _ member
  refine ⟨?_, ?_, ?_, ?_⟩
  · obtain ⟨new, sinceFirst, notBefore⟩ := timely.since
    refine ⟨new ++ [event], by rw [appended, sinceFirst, List.append_assoc], ?_⟩
    intro other member
    rcases List.mem_append.1 member with old | last
    · exact notBefore other old
    · rw [List.mem_singleton.1 last]
      exact Nat.le_trans began later
  · rw [appended]
    intro other member
    rcases List.mem_append.1 member with old | last
    · exact Nat.le_trans (timely.past other old) later
    · exact Nat.le_of_eq (congrArg Event.time (List.mem_singleton.1 last))
  · rw [appended, List.pairwise_append]
    refine ⟨timely.ordered, List.pairwise_singleton _ _, fun other old last isLast => ?_⟩
    rw [List.mem_singleton.1 isLast]
    exact Nat.le_trans (timely.past other old) later
  · rw [appended]
    intro other member kind isEnd
    rcases List.mem_append.1 member with old | last
    · exact (timely.lasted other old kind isEnd).mono kept orders
    · rw [List.mem_singleton.1 last] at isEnd ⊢
      exact (ends kind isEnd).mono kept orders

end IsTimely

end Ledger

/-! ### Rounds -/

namespace Cab

variable {Board : Type} {read : ReadBoard Board} {lapse : TimeLapse} {first : List Event}
  {start time due : Nat} {cab after : Cab Board}

/-- The log of the vehicle is timely, and a service under way ends at the given time or later. -/
structure KeepsTime (first : List Event) (start time due : Nat) (cab : Cab Board) : Prop where
  timely : cab.world.ledger.IsTimely cab.courier.vehicle first start time
  attends : ∀ service, cab.courier.service = some service →
    cab.world.ledger.Attends cab.courier.vehicle service ∧ due ≤ service.endsAt

theorem KeepsTime.of_books (keeps : cab.KeepsTime first start time due)
    (same : after.books = cab.books) : after.KeepsTime first start time due := by
  obtain ⟨ledger, rest⟩ := Prod.mk.inj same
  obtain ⟨courier, -⟩ := Prod.mk.inj rest
  refine ⟨?_, ?_⟩
  · rw [ledger, courier]
    exact keeps.timely
  · rw [ledger, courier]
    exact keeps.attends

/-- A driver without a service only has to care for its log. -/
theorem KeepsTime.of_idle (timely : cab.world.ledger.IsTimely cab.courier.vehicle first start time)
    (idle : cab.courier.service = none) : cab.KeepsTime first start time due := by
  refine ⟨timely, fun service underWay => ?_⟩
  rw [idle] at underWay
  cases underWay

/-- A look at the board takes no time, and only a driver without a service looks. -/
theorem Adoption.keepsTime (adoption : Adoption read cab after)
    (keeps : cab.KeepsTime first start time due) : after.KeepsTime first start time due := by
  cases adoption with
  | busy => exact keeps
  | current => exact ⟨keeps.timely, keeps.attends⟩
  | accepted idle _ _ _ _ _ ledger courier | rejected idle _ _ ledger courier =>
    refine .of_idle ?_ (by rw [courier]; exact idle)
    rw [ledger, courier]
    exact keeps.timely.reload _ _

/-- A driver that begins a service is to end it after the time that the order says. -/
theorem KeepsTime.began (keeps : cab.KeepsTime first start time time) (early : start ≤ time)
    {stop : ParcelId} {known : Parcel} {kind : StopKind} {moment : Nat}
    (opens : Opens lapse time cab stop known kind moment)
    (ledger : after.world.ledger = cab.world.ledger.begun cab.courier.vehicle stop moment kind)
    (courier : after.courier = { cab.courier with
      service := some ⟨stop, kind, moment + kind.duration known.order⟩ }) :
    after.KeepsTime first start moment moment := by
  have advances : cab.world.ledger.Advances
      (cab.world.ledger.begun cab.courier.vehicle stop moment kind) :=
    Ledger.advances_begun ⟨known, opens.listed, opens.ready⟩
  have written : (cab.world.ledger.begun cab.courier.vehicle stop moment kind).events = _ :=
    Ledger.events_begun cab.courier.vehicle stop moment kind
  refine ⟨?_, fun service underWay => ?_⟩
  · rw [ledger, courier]
    exact keeps.timely.write early written rfl opens.later advances.orders fun other ends =>
      absurd ends (StopKind.startEvent_ne_endEvent kind other)
  · rw [courier] at underWay ⊢
    cases underWay
    rw [ledger]
    refine ⟨⟨?_, ?_⟩, Nat.le_add_right _ _⟩
    · obtain ⟨later, foundLater, order⟩ := advances.orders stop known opens.listed
      refine ⟨moment, later, ?_, foundLater, by rw [order]⟩
      rw [written]
      exact List.mem_append_right _ (List.mem_singleton.2 rfl)
    · obtain ⟨load, rest, found, next, carried⟩ := opens.next
      cases kind with
      | pickup =>
        exact ⟨_, Ledger.load?_reload_self found, Load.mem_stow.2 (.inr rfl),
          congrArg List.head? next⟩
      | delivery => exact ⟨load, found, carried.2 rfl, congrArg List.head? next⟩

/-- A driver that ends its service when it is due has served as long as the order says. -/
theorem KeepsTime.ended (keeps : cab.KeepsTime first start time time) (early : start ≤ time)
    {service : Service} (underWay : cab.courier.service = some service)
    (aboard : cab.world.ledger.Has service.parcel (.inCargo cab.courier.vehicle))
    (ledger : after.world.ledger =
      (cab.world.ledger.ended cab.courier.vehicle service.parcel service.endsAt
        service.kind).reload cab.courier.vehicle (·.pass service.parcel))
    (courier : after.courier = { cab.courier with service := none }) :
    after.KeepsTime first start service.endsAt service.endsAt := by
  obtain ⟨attends, due⟩ := keeps.attends service underWay
  refine .of_idle ?_ (by rw [courier])
  have written : (cab.world.ledger.ended cab.courier.vehicle service.parcel service.endsAt
      service.kind).events = _ :=
    Ledger.events_ended cab.courier.vehicle service.parcel service.endsAt service.kind
  have timely := keeps.timely.write early written rfl due (Ledger.advances_ended aboard).orders
    fun kind ends => by
      rw [← StopKind.endEvent_injective ends]
      exact attends.runs
  rw [ledger, courier]
  exact timely.reload _ _

/-- A round that is followed by another one takes its driver on in time, and after the last one a
service under way outlasts the lapse. -/
theorem Turn.keepsTime {result : Except (Failure WorldError) (Option Nat)}
    (turn : Turn read lapse time cab result after) (keeps : cab.KeepsTime first start time time)
    (early : start ≤ time) (inTime : time ≤ lapse.finish) :
    (∀ next, result = .ok (some next) →
        after.KeepsTime first start next next ∧ start ≤ next ∧ next ≤ lapse.finish) ∧
      (result = .ok none →
        after.KeepsTime first start lapse.finish (lapse.finish + 1)) := by
  have idleThen := fun idle : cab.courier.service = none =>
    (KeepsTime.of_idle (keeps.timely.mono inTime) idle :
      cab.KeepsTime first start lapse.finish (lapse.finish + 1))
  cases turn with
  | waits underWay outlasts =>
    refine ⟨nofun, fun _ => ⟨keeps.timely.mono inTime, fun service same => ?_⟩⟩
    cases underWay.symm.trans same
    exact ⟨(keeps.attends _ underWay).1, outlasts⟩
  | @ended service middle after underWay ends aboard ledger courier adoption =>
    -- The driver is not late, so the service ends when it is due.
    have due := (keeps.attends service underWay).2
    rw [Nat.max_eq_right due] at ledger ⊢
    refine ⟨fun next same => ?_, nofun⟩
    cases same
    exact ⟨adoption.keepsTime (keeps.ended early underWay aboard ledger courier),
      Nat.le_trans early due, ends⟩
  | ranOut idle late => exact ⟨nofun, fun _ => idleThen idle⟩
  | drove idle _ same => exact ⟨nofun, fun _ => (idleThen idle).of_books same⟩
  | skipped idle _ _ _ _ _ ledger courier =>
    refine ⟨fun next same => ?_, nofun⟩
    cases same
    refine ⟨.of_idle ?_ (by rw [courier]; exact idle), early, inTime⟩
    rw [ledger, courier]
    exact keeps.timely.reload _ _
  | began opens ledger fits courier =>
    refine ⟨fun next same => ?_, nofun⟩
    cases same
    exact ⟨keeps.began early opens ledger courier, Nat.le_trans early opens.later, opens.inTime⟩
  | lost | strayed => exact ⟨nofun, nofun⟩

end Cab

/-! ### Drivers -/

namespace Fleet

variable {Surroundings : Type} {worker : Worker Surroundings} {lapse : TimeLapse}
  {first : List Event} {start time due index : Nat} {fleet after reached : Fleet Surroundings}

/-- The drivers are ready, and the one at a position of the list keeps time. -/
structure KeepsTime (first : List Event) (start time due index : Nat)
    (fleet : Fleet Surroundings) : Prop where
  manned : fleet.IsManned
  driver : ∀ courier, fleet.couriers[index]? = some courier →
    (fleet.cab courier).KeepsTime first start time due

/-- What passes by a vehicle does not concern its driver. -/
theorem KeepsTime.passedBy (keeps : fleet.KeepsTime first start time due index)
    (manned : after.IsManned) (same : after.couriers[index]? = fleet.couriers[index]?)
    (passes : fleet.scene.world.ledger.PassesBy ⟨index⟩ after.scene.world.ledger) :
    after.KeepsTime first start time due index := by
  refine ⟨manned, fun courier found => ?_⟩
  rw [same] at found
  obtain ⟨timely, attends⟩ := keeps.driver courier found
  have named : courier.vehicle = ⟨index⟩ := keeps.manned.crewed.named index courier found
  rw [← named] at passes
  exact ⟨passes.isTimely timely, fun service underWay =>
    ⟨passes.attends (attends service underWay).1, (attends service underWay).2⟩⟩

/-- Neither does what leaves the world and the drivers alone. -/
theorem KeepsTime.aside (keeps : fleet.KeepsTime first start time due index)
    (world : after.scene.world = fleet.scene.world) (couriers : after.couriers = fleet.couriers) :
    after.KeepsTime first start time due index := by
  refine keeps.passedBy ?_ (by rw [couriers]) ?_
  · unfold IsManned
    rw [world, couriers]
    exact keeps.manned
  · rw [world]
    exact .refl _ _

theorem maintains_keepsTime_announcing (worker : Worker Surroundings) (lapse : TimeLapse) :
    Maintains (KeepsTime first start time due index)
      (announcing.before lapse : Step Surroundings Unit) := by
  refine maintains_announcing (fun _ _ _ keeps => ⟨keeps.manned, keeps.driver⟩)
    (fun fleet order _ keeps => ?_) fun fleet keeps => ?_
  · have takes : Takes worker fleet _ := .inl (.announced fleet order)
    exact keeps.passedBy (takes.isManned keeps.manned) rfl
      (fleet.scene.world.passesBy_announce order _ _)
  · have takes : Takes worker fleet _ := .inl (.opened fleet lapse.start)
    exact keeps.passedBy (takes.isManned keeps.manned) rfl
      (fleet.scene.world.passesBy_refresh _ _)

/-- The other drivers leave this one alone. -/
theorem maintains_keepsTime_driveOne {other : Nat} (differs : other ≠ index) :
    Maintains (KeepsTime first start time due index) (driveOne worker other lapse) := by
  refine maintains_driveOne (fun fleet courier mayReturn moment found _ keeps => ?_)
    fun fleet courier found keeps => ?_
  · exact keeps.passedBy (isManned_round keeps.manned found lapse mayReturn moment)
      (List.getElem?_set_ne differs)
      ((keeps.manned.goes found worker lapse mayReturn moment).passesBy
        (keeps.manned.apart found differs))
  · have takes : Takes worker fleet _ := .inl (.adopted found)
    exact keeps.passedBy (takes.isManned keeps.manned) (List.getElem?_set_ne differs)
      ((keeps.manned.adoption found worker).passesBy (keeps.manned.apart found differs))

/-- A round of the driver takes it on in time, or ends its tick. -/
theorem KeepsTime.round (keeps : fleet.KeepsTime first start time time index) (began : start ≤ time)
    (early : time ≤ lapse.finish) {courier : Courier}
    (found : fleet.couriers[index]? = some courier) (worker : Worker Surroundings)
    (mayReturn : Bool) :
    (∀ next, (fleet.round worker index courier lapse mayReturn time).1 = .ok (some next) →
        (fleet.round worker index courier lapse mayReturn time).2.KeepsTime first start next next
            index ∧ start ≤ next ∧ next ≤ lapse.finish) ∧
      ((fleet.round worker index courier lapse mayReturn time).1 = .ok none →
        (fleet.round worker index courier lapse mayReturn time).2.KeepsTime first start lapse.finish
          (lapse.finish + 1) index) := by
  have manned : (fleet.round worker index courier lapse mayReturn time).2.IsManned :=
    isManned_round keeps.manned found lapse mayReturn time
  have turn := Cab.round_turn (keeps.manned.isReady found) (readBoard worker) lapse mayReturn time
  obtain ⟨onward, last⟩ := turn.keepsTime (keeps.driver courier found) began early
  have back : ∀ {moment due : Nat}, Cab.KeepsTime first start moment due
      (Cab.round (readBoard worker) lapse mayReturn time (fleet.cab courier)).2 →
        (fleet.round worker index courier lapse mayReturn time).2.KeepsTime first start moment due
          index := by
    intro moment due keepsThen
    refine ⟨manned, fun driver there => ?_⟩
    obtain rfl := Option.some.inj ((couriers_putBack found _).symm.trans there)
    exact ⟨keepsThen.timely, keepsThen.attends⟩
  refine ⟨fun next gone => ?_, fun gone => back (last gone)⟩
  obtain ⟨keepsThen, beganThen, earlyThen⟩ := onward next gone
  exact ⟨back keepsThen, beganThen, earlyThen⟩

/-- A driver that drives without failing keeps time until the end of the lapse. -/
theorem keepsTime_of_drive (mayReturn : Bool) (time : Nat) (cab : Cab (Desk × Surroundings))
    (fleet : Fleet Surroundings) (found : fleet.couriers[index]? = some cab.courier)
    (seen : fleet.cab cab.courier = cab) (keeps : fleet.KeepsTime first start time time index)
    (began : start ≤ time) (early : time ≤ lapse.finish) {final : Cab (Desk × Surroundings)}
    (drove : Cab.drive (readBoard worker) lapse mayReturn time cab = (.ok (), final)) :
    (putBack index final fleet).KeepsTime first start lapse.finish (lapse.finish + 1) index := by
  induction time, cab using Cab.drive.induct (readBoard worker) lapse mayReturn
    generalizing fleet with
  | case1 time cab failure reached gone =>
    rw [Cab.drive_of_failed gone] at drove
    cases drove
  | case2 time cab reached gone =>
    have last := (keeps.round began early found worker mayReturn).2
    rw [Fleet.round, seen, gone] at last
    rw [Cab.drive_of_over gone] at drove
    cases drove
    exact last rfl
  | case3 time cab next reached gone inductionHypothesis =>
    have onward := (keeps.round began early found worker mayReturn).1
    rw [Fleet.round, seen, gone] at onward
    obtain ⟨keepsThen, beganThen, earlyThen⟩ := onward next rfl
    rw [Cab.drive_of_next gone] at drove
    have rest := inductionHypothesis (putBack index reached fleet)
      (couriers_putBack found reached) rfl keepsThen beganThen earlyThen drove
    rwa [putBack_putBack] at rest

/-- A driver that has driven without failing has kept time until the end of the lapse, and a service
that it has left open ends after that. -/
theorem keepsTime_of_driveOne (takesTime : lapse.start ≤ lapse.finish)
    (keeps : fleet.KeepsTime first lapse.start lapse.start lapse.start index)
    (drove : driveOne worker index lapse fleet = (.ok (), reached)) :
    reached.KeepsTime first lapse.start lapse.finish (lapse.finish + 1) index := by
  cases found : fleet.couriers[index]? with
  | none =>
    rw [driveOne_of_none found] at drove
    cases drove
    refine ⟨keeps.manned, fun courier there => ?_⟩
    rw [found] at there
    cases there
  | some courier =>
    obtain ⟨cab, seen⟩ := keeps.manned.looks found worker
    have adoption := keeps.manned.adoption found worker
    have looked : Takes worker fleet _ := .inl (.adopted found)
    rw [seen] at adoption looked
    cases went : Cab.drive (readBoard worker) lapse (fleet.scene.pending = 0) lapse.start cab with
    | mk result final =>
      rw [driveOne_of_drive found seen went] at drove
      obtain ⟨rfl, rfl⟩ : result = .ok () ∧ putBack index final fleet = reached := by
        rcases result with _ | _ <;> cases drove
        exact ⟨rfl, rfl⟩
      have keepsThen : (putBack index cab fleet).KeepsTime first lapse.start lapse.start
          lapse.start index := by
        refine ⟨looked.isManned keeps.manned, fun driver there => ?_⟩
        obtain rfl := Option.some.inj ((couriers_putBack found cab).symm.trans there)
        have kept := adoption.keepsTime (keeps.driver courier found)
        exact ⟨kept.timely, kept.attends⟩
      have kept := keepsTime_of_drive _ lapse.start cab (putBack index cab fleet)
        (couriers_putBack found cab) rfl keepsThen (Nat.le_refl _) takesTime went
      rwa [putBack_putBack] at kept

/-! ### Ticks -/

/-- Once the drivers have driven, each of them has kept time. -/
theorem keepsTime_of_driveAll {indices : List Nat} (once : indices.Nodup) (member : index ∈ indices)
    (takesTime : lapse.start ≤ lapse.finish)
    (keeps : fleet.KeepsTime first lapse.start lapse.start lapse.start index)
    (drove : driveAll worker lapse indices fleet = (.ok (), reached)) :
    reached.KeepsTime first lapse.start lapse.finish (lapse.finish + 1) index := by
  induction indices generalizing fleet with
  | nil => cases member
  | cons other rest inductionHypothesis =>
    obtain ⟨absent, onceThen⟩ := List.nodup_cons.1 once
    obtain ⟨_, middle, went, others⟩ := bind_eq_ok_iff.1 drove
    have went : driveOne worker other lapse fleet = (.ok (), middle) := went
    by_cases own : other = index
    · subst own
      have keepsThen := keepsTime_of_driveOne takesTime keeps went
      have kept : Maintains (KeepsTime first lapse.start lapse.finish (lapse.finish + 1) other)
          (driveAll worker lapse rest) := by
        refine maintains_forM fun driver isMember => ?_
        obtain ⟨position, inRest, rfl⟩ := List.mem_map.1 isMember
        exact maintains_keepsTime_driveOne fun same => absent (same ▸ inRest)
      have last := kept middle keepsThen
      have others : driveAll worker lapse rest middle = (.ok (), reached) := others
      rwa [others] at last
    · have keepsThen : KeepsTime first lapse.start lapse.start lapse.start index
          (driveOne worker other lapse fleet).2 := maintains_keepsTime_driveOne own fleet keeps
      rw [went] at keepsThen
      exact inductionHypothesis onceThen ((List.mem_cons.1 member).resolve_left (Ne.symm own))
        keepsThen others

/-- Drivers that are ready fail with an overflow. -/
theorem driveAll_failed {indices : List Nat} (manned : fleet.IsManned) {clock : TickClock}
    (covered : clock.lapse = .ok lapse) {failure : Failure Refusal}
    (failed : driveAll worker lapse indices fleet = (.error failure, reached)) :
    failure = .crashed .addOverflow := by
  have upkeep := manned_upkeep worker
  have each : ∀ member ∈ indices.map (driving worker),
      Maintains IsManned (member.before lapse) := by
    intro member isMember
    obtain ⟨index, -, rfl⟩ := List.mem_map.1 isMember
    exact upkeep.driving clock lapse index covered
  obtain ⟨member, isMember, before, mannedBefore, blamed⟩ := forM_failed each manned failed
  obtain ⟨index, -, rfl⟩ := List.mem_map.1 isMember
  exact driveOne_overflowsAtWorst mannedBefore worker index lapse failure (congrArg Prod.fst blamed)

/-- In a tick that does not crash every driver keeps time until its end, unless the tick ends with a
fault of the solver before the drivers have their turn. -/
theorem keepsTime_of_tick {vehicles : Nat} (inside : index < vehicles) {clock : TickClock}
    (covered : clock.lapse = .ok lapse)
    (keeps : fleet.KeepsTime first lapse.start lapse.start lapse.start index)
    {result : Except (Failure (TickError Refusal)) Unit}
    (ran : tick worker vehicles lapse fleet = (result, reached))
    (whole : ∀ crash, result ≠ .error (.crashed crash)) :
    reached.KeepsTime first lapse.start lapse.finish (lapse.finish + 1) index ∨
      result ≠ .ok () ∧
        reached.KeepsTime first lapse.start lapse.start lapse.start index := by
  have takesTime := Nat.le_of_lt (TickClock.takes_time covered)
  have keepsInformed : KeepsTime first lapse.start lapse.start lapse.start index
      (reportNews worker lapse (fleet.announced lapse)).2 :=
    maintains_reportNews (fun _ keeps => keeps.aside rfl rfl) (fun _ _ keeps => keeps.aside rfl rfl)
      lapse _ (maintains_keepsTime_announcing worker lapse fleet keeps)
  unfold tick TickLoop.runTick within at ran
  dsimp only [id] at ran
  rw [notify_members, bind_apply] at ran
  generalize reportNews worker lapse (fleet.announced lapse) = outcome at keepsInformed ran
  obtain ⟨_ | _, informed⟩ := outcome
  · cases ran
    exact .inr ⟨nofun, keepsInformed⟩
  · refine .inl ?_
    dsimp only at ran
    rw [bind_apply] at ran
    generalize drove : driveAll worker lapse (List.range vehicles) informed = outcome at ran
    obtain ⟨failure | _, driven⟩ := outcome
    · cases ran
      rw [driveAll_failed keepsInformed.manned covered drove] at whole
      exact absurd rfl (whole .addOverflow)
    · have keepsDriven := keepsTime_of_driveAll List.nodup_range (List.mem_range.2 inside) takesTime
        keepsInformed drove
      have keepsLast : KeepsTime first lapse.start lapse.finish (lapse.finish + 1) index
          (reportRepairs worker lapse driven).2 :=
        maintains_reportRepairs (fun _ keeps => keeps.aside rfl rfl)
          (fun _ _ keeps => keeps.aside rfl rfl) lapse driven keepsDriven
      dsimp only at ran
      generalize reportRepairs worker lapse driven = outcome at keepsLast ran
      obtain ⟨_ | _, closed⟩ := outcome <;> cases ran <;> exact keepsLast

/-- From the end of a tick on, a driver keeps time as it has done. -/
theorem KeepsTime.rebase {later : Nat} (keeps : fleet.KeepsTime first start time due index)
    (onward : later ≤ due) (since : Nat) :
    fleet.KeepsTime fleet.scene.world.events since time later index := by
  refine ⟨keeps.manned, fun courier found => ?_⟩
  obtain ⟨timely, attends⟩ := keeps.driver courier found
  exact ⟨timely.rebase since, fun service underWay =>
    ⟨(attends service underWay).1, Nat.le_trans onward (attends service underWay).2⟩⟩

end Fleet

end LiveFleet
