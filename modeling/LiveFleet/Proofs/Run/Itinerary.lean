/-
This file proves that vehicles follow their routes in order. A route changes in two
ways: its driver commits to another one, or passes the first stop, which it has served
or skipped. So the route at any moment is what is left of the last commitment, and the
stops that are gone are, one by one, the services that the vehicle has completed since
and the stops that were not for it. What a stop was for is decided at the moment at
which it came first; a service lasts, and that moment is then remembered until its end.
-/
import LiveFleet.Proofs.Run.Commitments
import LiveFleet.Proofs.Run.Destinations
import LiveFleet.Proofs.Run.Moments

namespace LiveFleet

open Attempt

/-! ### Passages -/

/-- The parcel is aboard the vehicle. -/
def Ledger.Carries (ledger : Ledger) (vehicle : VehicleId) (parcel : ParcelId) : Prop :=
  ∃ load, ledger.load? vehicle = some load ∧ parcel ∈ load.aboard

/-- What is aboard is read off the load. -/
theorem Ledger.carries_iff {ledger : Ledger} {vehicle : VehicleId} {parcel : ParcelId} {load : Load}
    (found : ledger.load? vehicle = some load) :
    ledger.Carries vehicle parcel ↔ parcel ∈ load.aboard :=
  ⟨fun ⟨_, foundAgain, member⟩ => Option.some.inj (foundAgain.symm.trans found) ▸ member,
    fun member => ⟨load, found, member⟩⟩

/-- A stop that a vehicle has passed, and the service that it has completed there, if any. -/
structure Passage where
  stop : ParcelId
  service? : Option StopKind

namespace Passage

/-- The services that were completed on the way. -/
def served (passages : List Passage) : List (StopKind × ParcelId) :=
  passages.filterMap fun passage => passage.service?.map fun kind => (kind, passage.stop)

/-- How the books show the parcel of the stop to the vehicle: in its cargo if it is to be delivered
there, unclaimed if it is to be picked up, and delivered or in another cargo if it is skipped. -/
def IsFound (passage : Passage) (ledger : Ledger) (vehicle : VehicleId) : Prop :=
  match passage.service? with
  | some .delivery => ledger.Carries vehicle passage.stop ∧
      ledger.Has passage.stop (.inCargo vehicle)
  | some .pickup => ¬ ledger.Carries vehicle passage.stop ∧ ledger.Unclaimed passage.stop
  | none => ¬ ledger.Carries vehicle passage.stop ∧
      (ledger.Has passage.stop .delivered ∨
        ∃ other, other ≠ vehicle ∧ ledger.Has passage.stop (.inCargo other))

theorem served_append (first second : List Passage) :
    served (first ++ second) = served first ++ served second := List.filterMap_append

end Passage

/-! ### Steps of a driver -/

/-- How far a driver is on its route. -/
structure Standing where
  /-- The version of the schedule that it has considered last. -/
  version : Nat
  service? : Option Service
  route? : Option (List ParcelId)
  /-- What it has completed. -/
  served : List (StopKind × ParcelId)

namespace Standing

/-- What a step means for a driver. The books are those before the step, and the driver may commit
to the routes for which the last argument holds. -/
inductive Progress (ledger : Ledger) (vehicle : VehicleId) (Commits : List ParcelId → Prop) :
    Standing → Standing → Prop where
  | stayed (standing : Standing) : Progress ledger vehicle Commits standing standing
  /-- The driver begins to serve its first stop. -/
  | began {standing : Standing} {service : Service} {ahead : List ParcelId}
      (next : standing.route? = some (service.parcel :: ahead))
      (finds : Passage.IsFound ⟨service.parcel, some service.kind⟩ ledger vehicle) :
      Progress ledger vehicle Commits standing { standing with service? := some service }
  /-- The first stop is not for this vehicle. -/
  | skipped {standing : Standing} {stop : ParcelId} {ahead : List ParcelId}
      (idle : standing.service? = none) (next : standing.route? = some (stop :: ahead))
      (finds : Passage.IsFound ⟨stop, none⟩ ledger vehicle) :
      Progress ledger vehicle Commits standing { standing with route? := some ahead }
  /-- The service at the first stop is completed. -/
  | completed {standing : Standing} {service : Service} {ahead : List ParcelId}
      (underWay : standing.service? = some service)
      (next : standing.route? = some (service.parcel :: ahead)) :
      Progress ledger vehicle Commits standing
        { standing with
          service? := none
          route? := some ahead
          served := standing.served ++ [(service.kind, service.parcel)] }
  /-- The driver commits to a route. -/
  | committed {standing after : Standing} {route : List ParcelId} (commits : Commits route)
      (newer : standing.version < after.version) (written : after.route? = some route)
      (idle : after.service? = none) : Progress ledger vehicle Commits standing after

/-- A driver with a service under way is serving the first stop of its route. -/
def Heads (standing : Standing) : Prop :=
  ∀ service, standing.service? = some service →
    ∃ ahead, standing.route? = some (service.parcel :: ahead)

variable {ledger : Ledger} {vehicle : VehicleId} {Commits : List ParcelId → Prop}
  {standing after : Standing}

theorem Progress.heads (progress : Progress ledger vehicle Commits standing after)
    (heads : standing.Heads) : after.Heads := by
  intro service underWay
  cases progress with
  | stayed => exact heads service underWay
  | began next =>
    cases underWay
    exact ⟨_, next⟩
  | skipped idle => cases idle.symm.trans underWay
  | completed => cases underWay
  | committed _ _ _ idle => cases idle.symm.trans underWay

theorem Progress.mono {Others : List ParcelId → Prop}
    (progress : Progress ledger vehicle Commits standing after)
    (also : ∀ route, Commits route → Others route) :
    Progress ledger vehicle Others standing after := by
  cases progress with
  | stayed => exact .stayed _
  | began next finds => exact .began next finds
  | skipped idle next finds => exact .skipped idle next finds
  | completed underWay next => exact .completed underWay next
  | committed commits newer written idle => exact .committed (also _ commits) newer written idle

end Standing

namespace Cab

variable {Board : Type} {read : ReadBoard Board} {lapse : TimeLapse} {time : Nat}
  {cab after : Cab Board}

/-- How far the driver is. -/
def standing (cab : Cab Board) : Standing :=
  ⟨cab.courier.adopted, cab.courier.service, cab.world.ledger.stops? cab.courier.vehicle,
    servedBy cab.courier.vehicle cab.world.ledger.events⟩

/-- The driver has ended its service, and its stop is done. -/
def Ends (cab after : Cab Board) : Prop :=
  ∃ service moment, cab.courier.service = some service ∧
    after.world.ledger = (cab.world.ledger.ended cab.courier.vehicle service.parcel moment
      service.kind).reload cab.courier.vehicle (·.pass service.parcel) ∧
    after.courier = { cab.courier with service := none }

/-- The driver commits to a route, by itself or after it has ended its service. -/
def CommitsTo (read : ReadBoard Board) (cab after : Cab Board) (route : List ParcelId) : Prop :=
  ∃ middle, (middle = cab ∨ cab.Ends middle) ∧ Commits read middle after route

/-- The step is progress of the driver. -/
abbrev Progresses (read : ReadBoard Board) (cab after : Cab Board) : Prop :=
  Standing.Progress cab.world.ledger cab.courier.vehicle (CommitsTo read cab after) cab.standing
    after.standing

theorem standing_eq {adopted : Nat} {service : Option Service} {ledger : Ledger}
    (books : after.world.ledger = ledger)
    (courier : after.courier = ⟨cab.courier.vehicle, adopted, service⟩) :
    after.standing = ⟨adopted, service, ledger.stops? cab.courier.vehicle,
      servedBy cab.courier.vehicle ledger.events⟩ := by
  unfold standing
  rw [books, courier]

theorem CommitsTo.newer {route : List ParcelId} (commits : CommitsTo read cab after route) :
    cab.courier.adopted < after.courier.adopted := by
  obtain ⟨middle, rfl | ⟨service, moment, -, -, courier⟩, commits⟩ := commits
  · exact commits.newer
  · have newer := commits.newer
    rw [courier] at newer
    exact newer

theorem CommitsTo.progresses {route : List ParcelId} (commits : CommitsTo read cab after route) :
    Progresses read cab after := by
  have newer := commits.newer
  have commitsTo := commits
  obtain ⟨middle, -, commits⟩ := commits
  obtain ⟨publication, -, -, courier, -⟩ := commits.choice
  have idle : after.courier.service = none := by
    rw [courier]
    exact commits.idle
  exact .committed commitsTo newer commits.written idle

theorem Adoption.progresses (adoption : Adoption read cab after) {load : Load}
    (found : cab.load? = some load) : Progresses read cab after := by
  rcases adoption.commits found with ⟨courier, world⟩ | ⟨route, commits⟩
  · have same : after.standing = cab.standing := by
      unfold standing
      rw [courier, world]
    unfold Progresses
    rw [same]
    exact .stayed _
  · exact CommitsTo.progresses ⟨cab, .inl rfl, commits⟩

theorem progresses_of_same (same : after.standing = cab.standing) : Progresses read cab after := by
  unfold Progresses
  rw [same]
  exact .stayed _

theorem standing_of_books (same : after.books = cab.books) : after.standing = cab.standing := by
  obtain ⟨ledger, rest⟩ := Prod.mk.inj same
  obtain ⟨courier, -⟩ := Prod.mk.inj rest
  exact standing_eq ledger courier

/-- A driver that ends its service has completed it, and looks at the board. -/
theorem Adoption.progresses_of_ended {middle : Cab Board} {service : Service} {moment : Nat}
    (underWay : cab.courier.service = some service)
    (ledger : middle.world.ledger = (cab.world.ledger.ended cab.courier.vehicle service.parcel
      moment service.kind).reload cab.courier.vehicle (·.pass service.parcel))
    (courier : middle.courier = { cab.courier with service := none })
    (adoption : Adoption read middle after) (heads : cab.standing.Heads) :
    Progresses read cab after := by
  obtain ⟨ahead, next⟩ := heads service underWay
  have stops : middle.world.ledger.stops? cab.courier.vehicle = some ahead := by
    rw [ledger]
    exact Ledger.stops?_pass (Ledger.stops?_ended.trans next)
  have served : servedBy cab.courier.vehicle middle.world.ledger.events =
      cab.standing.served ++ [(service.kind, service.parcel)] := by
    rw [ledger]
    exact servedBy_ended
  have completed : middle.standing =
      { cab.standing with
        service? := none
        route? := some ahead
        served := cab.standing.served ++ [(service.kind, service.parcel)] } := by
    rw [standing_eq rfl courier, stops, served]
    rfl
  obtain ⟨load, found, -⟩ := Option.map_eq_some_iff.1 stops
  have found : middle.load? = some load := by
    unfold load?
    rw [courier]
    exact found
  rcases adoption.commits found with ⟨same, world⟩ | ⟨route, commits⟩
  · have unchanged : after.standing = middle.standing := by
      unfold standing
      rw [same, world]
    unfold Progresses
    rw [unchanged, completed]
    exact .completed underWay next
  · exact CommitsTo.progresses ⟨middle, .inr ⟨service, moment, underWay, ledger, courier⟩, commits⟩

/-- A stop that is skipped is for a parcel that is delivered or in another cargo. -/
theorem isFound_of_claimed {load : Load} {stop : ParcelId} {known : Parcel}
    (hauls : cab.world.ledger.Hauls) (found : cab.load? = some load) (absent : stop ∉ load.aboard)
    (listed : cab.world.ledger.parcel? stop = some known)
    (claimed : known.state.isUnassigned = false) :
    Passage.IsFound ⟨stop, none⟩ cab.world.ledger cab.courier.vehicle := by
  refine ⟨fun carried => absent ((Ledger.carries_iff found).1 carried), ?_⟩
  cases state : known.state with
  | announced | available =>
    rw [state] at claimed
    cases claimed
  | delivered => exact .inl ⟨known, listed, state⟩
  | inCargo other =>
    refine .inr ⟨other, ?_, known, listed, state⟩
    rintro rfl
    exact absent (hauls stop _ load ⟨known, listed, state⟩ found)

/-- A stop at which a service begins is as its kind asks. -/
theorem Opens.isFound {stop : ParcelId} {known : Parcel} {kind : StopKind} {moment : Nat}
    (opens : Opens lapse time cab stop known kind moment) :
    Passage.IsFound ⟨stop, some kind⟩ cab.world.ledger cab.courier.vehicle := by
  obtain ⟨load, ahead, found, -, carried⟩ := opens.next
  rw [← Ledger.carries_iff found] at carried
  cases kind with
  | delivery => exact ⟨carried.2 rfl, known, opens.listed, opens.ready⟩
  | pickup =>
    refine ⟨fun aboard => (nomatch carried.1 aboard), known, opens.listed, ?_⟩
    rw [opens.ready]
    rfl

/-- Every round is progress. -/
theorem Turn.progresses {result : Except (Failure WorldError) (Option Nat)}
    (turn : Turn read lapse time cab result after) (hauls : cab.world.ledger.Hauls)
    (heads : cab.standing.Heads) : Progresses read cab after := by
  cases turn with
  | waits | ranOut => exact progresses_of_same rfl
  | drove _ _ same | strayed _ _ _ _ same => exact progresses_of_same (standing_of_books same)
  | ended underWay _ _ ledger courier adoption =>
    exact adoption.progresses_of_ended underWay ledger courier heads
  | @skipped _ load stop rest known idle found next absent listed claimed ledger courier =>
    have onRoute : cab.world.ledger.stops? cab.courier.vehicle = some (stop :: rest) :=
      (congrArg (Option.map Load.stops) found).trans (congrArg some next)
    have passed : after.standing = { cab.standing with route? := some rest } := by
      rw [standing_eq ledger courier, Ledger.stops?_pass onRoute]
      rfl
    unfold Progresses
    rw [passed]
    exact .skipped idle onRoute (isFound_of_claimed hauls found absent listed claimed)
  | @began _ stop known kind moment opens ledger fits courier =>
    obtain ⟨load, ahead, found, next, -⟩ := opens.next
    have onRoute : cab.world.ledger.stops? cab.courier.vehicle = some (stop :: ahead) :=
      (congrArg (Option.map Load.stops) found).trans (congrArg some next)
    have serving : after.standing = { cab.standing with
        service? := some ⟨stop, kind, moment + kind.duration known.order⟩ } := by
      rw [standing_eq ledger courier, Ledger.stops?_begun, servedBy_begun]
      rfl
    unfold Progresses
    rw [serving]
    exact .began onRoute opens.isFound
  | lost opens ledger beyond courier =>
    refine progresses_of_same ?_
    rw [standing_eq ledger courier, Ledger.stops?_begun, servedBy_begun]
    rfl

end Cab

/-! ### Steps of a run -/

namespace Fleet

variable {Surroundings : Type} {worker : Worker Surroundings} {index : Nat}
  {first commit now next before after : Fleet Surroundings}

/-- How far the driver at a position of the list is. -/
def standing? (fleet : Fleet Surroundings) (index : Nat) : Option Standing :=
  (fleet.couriers[index]?).map fun courier => (fleet.cab courier).standing

/-- In the step the driver at a position of the list commits to a route. -/
def Commits (worker : Worker Surroundings) (index : Nat) (before after : Fleet Surroundings)
    (route : List ParcelId) : Prop :=
  ∃ courier cab, before.couriers[index]? = some courier ∧ after = putBack index cab before ∧
    (before.cab courier).CommitsTo (readBoard worker) cab route

theorem standing?_of_found {courier : Courier} (found : now.couriers[index]? = some courier) :
    now.standing? index = some (now.cab courier).standing := by
  rw [standing?, found]
  rfl

theorem standing?_putBack {courier : Courier} (found : now.couriers[index]? = some courier)
    (cab : Cab (Desk × Surroundings)) :
    (putBack index cab now).standing? index = some cab.standing := by
  rw [standing?, couriers_putBack found cab]
  rfl

/-- Every commitment is to a newer version. -/
theorem Commits.newer {written : List ParcelId} {standing later : Standing}
    (commits : Commits worker index before after written)
    (stood : before.standing? index = some standing) (stands : after.standing? index = some later) :
    standing.version < later.version := by
  obtain ⟨courier, cab, found, rfl, commitsTo⟩ := commits
  obtain rfl := Option.some.inj ((standing?_of_found found).symm.trans stood)
  obtain rfl := Option.some.inj ((standing?_putBack found cab).symm.trans stands)
  exact commitsTo.newer

/-- The drivers are ready, what is in a cargo is aboard, and the driver at a position of the list
serves the first stop of its route. -/
structure IsBound (index : Nat) (fleet : Fleet Surroundings) : Prop where
  manned : fleet.IsManned
  hauls : fleet.scene.world.ledger.Hauls
  heads : ∀ standing, fleet.standing? index = some standing → standing.Heads

/-- A step of the driver at a position of the list is progress. -/
theorem progress_of_own (manned : before.IsManned) {courier : Courier}
    (found : before.couriers[index]? = some courier) {cab : Cab (Desk × Surroundings)}
    (returned : after = putBack index cab before)
    (progresses : Cab.Progresses (readBoard worker) (before.cab courier) cab) :
    ∃ standing later, before.standing? index = some standing ∧
      after.standing? index = some later ∧
        standing.Progress before.scene.world.ledger ⟨index⟩ (Commits worker index before after)
          later := by
  have named : courier.vehicle = ⟨index⟩ := manned.crewed.named index courier found
  subst returned
  refine ⟨_, _, standing?_of_found found, standing?_putBack found cab, ?_⟩
  rw [← named]
  exact progresses.mono fun route commits => ⟨courier, cab, found, rfl, commits⟩

/-- A step leaves a driver as it is, or is progress of it. -/
theorem Takes.progress (takes : Takes worker before after) (bound : before.IsBound index) :
    after.standing? index = before.standing? index ∨
      ∃ standing later, before.standing? index = some standing ∧
        after.standing? index = some later ∧
          standing.Progress before.scene.world.ledger ⟨index⟩ (Commits worker index before after)
            later := by
  cases takes.move bound.manned index with
  | spared same vehicle passes =>
    refine .inl ?_
    unfold standing?
    rw [same]
    cases found : before.couriers[index]? with
    | none => rfl
    | some courier =>
      have named : courier.vehicle = ⟨index⟩ := bound.manned.crewed.named index courier found
      rw [← named] at passes
      refine congrArg some ?_
      show Standing.mk _ _ _ _ = Standing.mk _ _ _ _
      congr 1
      · exact congrArg (Option.map Load.stops) passes.load
      · exact passes.servedBy_eq
  | adopted found adoption returned =>
    obtain ⟨load, loaded⟩ := (bound.manned.isReady found).load
    exact .inr (progress_of_own bound.manned found returned (adoption.progresses loaded))
  | @drove courier _ _ _ _ found turn returned =>
    have heads := bound.heads _ (standing?_of_found found)
    exact .inr (progress_of_own bound.manned found returned (turn.progresses bound.hauls heads))

theorem Takes.isBound (takes : Takes worker before after) (bound : before.IsBound index) :
    after.IsBound index := by
  refine ⟨takes.isManned bound.manned, takes.hauls bound.manned bound.hauls,
    fun later stands => ?_⟩
  rcases takes.progress bound with same | ⟨standing, other, stood, stands', progress⟩
  · exact bound.heads later (same ▸ stands)
  · cases stands'.symm.trans stands
    exact progress.heads (bound.heads standing stood)

theorem Path.isBound (path : Path worker first now) (bound : first.IsBound index) :
    now.IsBound index := by
  induction path with
  | refl => exact bound
  | tail _ takes inductionHypothesis => exact takes.isBound inductionHypothesis

/-- A driver makes progress along a path. -/
theorem Takes.progress_of_standing (takes : Takes worker before after)
    (bound : before.IsBound index) {standing : Standing}
    (stood : before.standing? index = some standing) :
    ∃ later, after.standing? index = some later ∧
      standing.Progress before.scene.world.ledger ⟨index⟩ (Commits worker index before after)
        later := by
  rcases takes.progress bound with same | ⟨other, later, stood', stands, progress⟩
  · exact ⟨standing, same.trans stood, .stayed _⟩
  · cases stood'.symm.trans stood
    exact ⟨later, stands, progress⟩

/-! ### Since the last commitment -/

/-- At this moment the vehicle has come to a stop: the others are still ahead, the given services
are completed, and the parcel is as it has to be for what is done at the stop. -/
structure Reaches (index : Nat) (moment : Fleet Surroundings) (passage : Passage)
    (ahead : List ParcelId) (served : List (StopKind × ParcelId)) : Prop where
  stands : ∃ standing, moment.standing? index = some standing ∧
    standing.route? = some (passage.stop :: ahead) ∧ standing.served = served
  finds : passage.IsFound moment.scene.world.ledger ⟨index⟩

/-- The vehicle has come to the stop at a moment from one position of a history to another one. -/
def HasReached (index : Nat) (moments : Nat → Fleet Surroundings) (commit now : Nat)
    (passage : Passage) (ahead : List ParcelId) (served : List (StopKind × ParcelId)) : Prop :=
  ∃ moment, commit ≤ moment ∧ moment ≤ now ∧ (moments moment).Reaches index passage ahead served

theorem HasReached.later {moments : Nat → Fleet Surroundings} {commit now : Nat} {passage : Passage}
    {ahead : List ParcelId} {served : List (StopKind × ParcelId)}
    (reached : HasReached index moments commit now passage ahead served) :
    HasReached index moments commit (now + 1) passage ahead served := by
  obtain ⟨moment, since, early, reaches⟩ := reached
  exact ⟨moment, since, Nat.le_succ_of_le early, reaches⟩

/-- How the route of a vehicle has come about at a position of a history: at another one its driver
has committed to a route, to none since, and it has passed the stops of that route in order. -/
structure Itinerary (worker : Worker Surroundings) (index : Nat)
    (moments : Nat → Fleet Surroundings) (now commit : Nat) (committed standing : Standing)
    (passages : List Passage) (route : List ParcelId) : Prop where
  /-- The run begins with the empty route, and every other commitment is made in a step. -/
  started : (commit = 0 ∧ committed.route? = some []) ∨ ∃ before written, commit = before + 1 ∧
    Commits worker index (moments before) (moments commit) written ∧
      committed.route? = some written
  since : commit ≤ now
  latest : ∀ moment, commit ≤ moment → moment < now → ∀ written,
    ¬ Commits worker index (moments moment) (moments (moment + 1)) written
  stood : (moments commit).standing? index = some committed
  stands : (moments now).standing? index = some standing
  left : standing.route? = some route
  gone : committed.route? = some (passages.map Passage.stop ++ route)
  /-- What has been completed since the commitment is what has been served on the way. -/
  served : standing.served = committed.served ++ Passage.served passages
  reached : ∀ front passage behind, passages = front ++ passage :: behind →
    HasReached index moments commit now passage (behind.map Passage.stop ++ route)
      (committed.served ++ Passage.served front)
  /-- A service that is under way is at the first stop that is left. -/
  serving : ∀ service, standing.service? = some service → ∃ ahead,
    route = service.parcel :: ahead ∧
      HasReached index moments commit now ⟨service.parcel, some service.kind⟩ ahead standing.served

namespace Itinerary

variable {moments : Nat → Fleet Surroundings} {now commit : Nat}
  {committed standing later : Standing} {passages : List Passage} {route : List ParcelId}

/-- A commitment begins a new itinerary. -/
theorem of_commitment (started : (now = 0 ∧ later.route? = some []) ∨ ∃ before written,
      now = before + 1 ∧ Commits worker index (moments before) (moments now) written ∧
        later.route? = some written)
    (stands : (moments now).standing? index = some later) (left : later.route? = some route)
    (idle : later.service? = none) :
    Itinerary worker index moments now now later later [] route where
  started := started
  since := Nat.le_refl _
  latest := fun _ since early => absurd since (Nat.not_le.2 early)
  stood := stands
  stands := stands
  left := left
  gone := left
  served := (List.append_nil _).symm
  reached := by
    intro front passage behind split
    cases (List.append_eq_nil_iff.1 split.symm).2
  serving := by
    intro service underWay
    cases idle.symm.trans underWay

section

variable (itinerary : Itinerary worker index moments now commit committed standing passages route)
  (stands : (moments (now + 1)).standing? index = some later)
  (version : later.version = standing.version)

include itinerary stands version

/-- Where the version stays, there is no commitment. -/
theorem latest_succ (moment : Nat) (since : commit ≤ moment) (early : moment < now + 1)
    (written : List ParcelId) :
    ¬ Commits worker index (moments moment) (moments (moment + 1)) written := by
  rcases Nat.lt_or_eq_of_le (Nat.le_of_lt_succ early) with earlier | rfl
  · exact itinerary.latest moment since earlier written
  · intro commits
    have newer := commits.newer itinerary.stands stands
    rw [version] at newer
    exact Nat.lt_irrefl _ newer

/-- The driver stays at the same stop. -/
theorem stayed (left : later.route? = some route) (served : later.served = standing.served)
    (serving : ∀ service, later.service? = some service → ∃ ahead,
      route = service.parcel :: ahead ∧ HasReached index moments commit (now + 1)
        ⟨service.parcel, some service.kind⟩ ahead standing.served) :
    Itinerary worker index moments (now + 1) commit committed later passages route where
  started := itinerary.started
  since := Nat.le_succ_of_le itinerary.since
  latest := itinerary.latest_succ stands version
  stood := itinerary.stood
  stands := stands
  left := left
  gone := itinerary.gone
  served := served.trans itinerary.served
  reached := fun front passage behind split => (itinerary.reached front passage behind split).later
  serving := by
    rw [served]
    exact serving

/-- The driver passes the first stop that is left. -/
theorem passed {passage : Passage} {ahead : List ParcelId} (here : route = passage.stop :: ahead)
    (reached : HasReached index moments commit now passage ahead standing.served)
    (left : later.route? = some ahead)
    (served : later.served = standing.served ++ Passage.served [passage])
    (idle : later.service? = none) :
    Itinerary worker index moments (now + 1) commit committed later (passages ++ [passage])
      ahead where
  started := itinerary.started
  since := Nat.le_succ_of_le itinerary.since
  latest := itinerary.latest_succ stands version
  stood := itinerary.stood
  stands := stands
  left := left
  gone := by
    rw [itinerary.gone, here, List.map_append, List.append_assoc]
    rfl
  served := by rw [served, itinerary.served, List.append_assoc, Passage.served_append]
  reached := by
    intro front other behind split
    rcases List.eq_nil_or_concat behind with rfl | ⟨earlier, last, rfl⟩
    · -- The stop that has just been passed.
      obtain ⟨rfl, same⟩ := List.append_inj' split rfl
      cases same
      rw [← itinerary.served]
      exact reached.later
    · rw [List.concat_eq_append, ← List.cons_append, ← List.append_assoc] at split
      obtain ⟨whole, same⟩ := List.append_inj' split rfl
      cases same
      have before := itinerary.reached front other earlier whole
      rw [here] at before
      rw [List.concat_eq_append, List.map_append, List.append_assoc]
      exact before.later
  serving := by
    intro service underWay
    cases idle.symm.trans underWay

end

/-- Every step leads an itinerary on, or begins another one. -/
theorem onward
    (itinerary : Itinerary worker index moments now commit committed standing passages route)
    (bound : (moments now).IsBound index)
    (takes : Takes worker (moments now) (moments (now + 1))) :
    ∃ commit committed later passages route,
      Itinerary worker index moments (now + 1) commit committed later passages route := by
  obtain ⟨later, stands, progress⟩ := takes.progress_of_standing bound itinerary.stands
  have here : ∀ {passage : Passage} {ahead : List ParcelId},
      standing.route? = some (passage.stop :: ahead) →
        passage.IsFound (moments now).scene.world.ledger ⟨index⟩ →
          HasReached index moments commit now passage ahead standing.served :=
    fun onRoute finds =>
      ⟨now, itinerary.since, Nat.le_refl _, ⟨_, itinerary.stands, onRoute, rfl⟩, finds⟩
  have route_eq : ∀ {stops : List ParcelId}, standing.route? = some stops → route = stops :=
    fun onRoute => Option.some.inj (itinerary.left.symm.trans onRoute)
  cases progress with
  | stayed =>
    refine ⟨_, _, _, _, _, itinerary.stayed stands rfl itinerary.left rfl ?_⟩
    intro service underWay
    obtain ⟨ahead, next, reached⟩ := itinerary.serving service underWay
    exact ⟨ahead, next, reached.later⟩
  | began onRoute finds =>
    refine ⟨_, _, _, _, _, itinerary.stayed stands rfl itinerary.left rfl ?_⟩
    rintro _ ⟨⟩
    have reached := here onRoute finds
    exact ⟨_, route_eq onRoute, reached.later⟩
  | skipped idle onRoute finds =>
    have reached := here onRoute finds
    exact ⟨_, _, _, _, _, itinerary.passed stands rfl (route_eq onRoute) reached rfl
      (List.append_nil _).symm idle⟩
  | completed underWay onRoute =>
    obtain ⟨ahead, next, reached⟩ := itinerary.serving _ underWay
    obtain ⟨-, rfl⟩ := List.cons.inj (next.symm.trans (route_eq onRoute))
    exact ⟨_, _, _, _, _, itinerary.passed stands rfl next reached rfl rfl rfl⟩
  | committed commits newer written idle =>
    exact ⟨_, _, _, _, _, of_commitment (.inr ⟨now, _, rfl, commits, written⟩) stands written idle⟩

end Itinerary

/-- At every position of a history the route of a vehicle has come about in this way. -/
theorem History.itinerary {moments : Nat → Fleet Surroundings} {length position : Nat}
    (history : History worker first moments length) (bound : first.IsBound index)
    (fresh : ∀ standing, first.standing? index = some standing →
      standing.route? = some [] ∧ standing.service? = none)
    (within : position ≤ length) {standing : Standing}
    (stands : (moments position).standing? index = some standing) :
    ∃ commit committed passages route,
      Itinerary worker index moments position commit committed standing passages route := by
  induction position generalizing standing with
  | zero =>
    obtain ⟨empty, idle⟩ := fresh standing (history.begins ▸ stands)
    exact ⟨_, _, _, _, .of_commitment (.inl ⟨rfl, empty⟩) stands empty idle⟩
  | succ position inductionHypothesis =>
    have takes := history.steps position within
    have boundThen := Path.isBound (history.path (Nat.le_of_succ_le within)) bound
    obtain ⟨before, stood⟩ : ∃ before, (moments position).standing? index = some before := by
      rcases takes.progress boundThen with same | ⟨before, -, stood, -⟩
      · exact ⟨standing, same.symm.trans stands⟩
      · exact ⟨before, stood⟩
    obtain ⟨_, _, _, _, itinerary⟩ := inductionHypothesis (Nat.le_of_succ_le within) stood
    obtain ⟨_, _, later, _, _, onward⟩ := itinerary.onward boundThen takes
    obtain rfl := Option.some.inj (stands.symm.trans onward.stands)
    exact ⟨_, _, _, _, onward⟩

/-! ### A fresh run -/

theorem standing?_initial (scenario : Scenario) (pace : Pace) (surroundings : Surroundings)
    {standing : Standing}
    (stands :
      (Simulation.initialFleet scenario pace surroundings).standing? index = some standing) :
    standing.route? = some [] ∧ standing.service? = none := by
  obtain ⟨courier, found, rfl⟩ := Option.map_eq_some_iff.1 stands
  have crewed := isCrewed_initial scenario pace surroundings
  obtain ⟨load, present⟩ := crewed.load found
  constructor
  · show (Simulation.initialFleet scenario pace surroundings).scene.world.ledger.stops?
      courier.vehicle = some []
    rw [Ledger.stops?, present]
    rw [initial_ledger] at present
    obtain ⟨-, same⟩ := Option.ite_none_right_eq_some.1 present
    cases same
    rfl
  · show courier.service = none
    rw [Simulation.initialFleet_courier found]
    rfl

theorem isBound_initial (scenario : Scenario) (pace : Pace) (surroundings : Surroundings) :
    (Simulation.initialFleet scenario pace surroundings).IsBound index where
  manned := isManned_initial scenario pace surroundings
  hauls := by
    rw [initial_ledger]
    rintro parcel vehicle load ⟨_, found, -⟩
    cases found
  heads := by
    intro standing stands service underWay
    cases (standing?_initial scenario pace surroundings stands).2.symm.trans underWay

end Fleet

/-! ### Runs -/

namespace Simulation

open TickLoop Fleet

variable {Surroundings : Type} {settings : Settings} {scenario : Scenario}
  {startSolver : UInt64 → Except SolverFailure Surroundings} {simulation : Simulation Surroundings}

/-- The moments between the ticks of a run, after every look at the board and after every round lie
in order on one history, over any number of calls; a history goes through the moments of any further
ticks in the same way. At every moment of such a history the route of a vehicle is what is left of
the last route to which its driver has committed; of the stops that are gone, those that were served
are one by one the services that the vehicle has completed since then, deliveries of what was aboard
and pickups of what was unclaimed, and the others were for parcels that were delivered or in another
cargo when the vehicle came to them. -/
theorem vehicles_follow_routes (built : build settings scenario startSolver = .ok simulation)
    (worker : Worker Surroundings) :
    (∀ calls, LieInOrder worker simulation.fleet (simulation.moments worker calls)
      (simulation.after worker [] calls).fleet) ∧
    (∀ calls tick result loop fleet,
      (simulation.after worker [] calls).atTick worker [] tick = (result, loop, fleet) →
        IsMoment worker simulation.fleet fleet ∧
          ∀ lapse index driven courier cab time reached, loop.clock.lapse = .ok lapse →
            HasTurn worker lapse index fleet driven → driven.couriers[index]? = some courier →
              Cab.adopt (readBoard worker) (driven.cab courier) = (.ok (), cab) →
                Cab.DrivesTo (readBoard worker) lapse (driven.scene.pending = 0)
                    (lapse.start, cab) (time, reached) →
                  IsMoment worker simulation.fleet (putBack index (Cab.round (readBoard worker)
                    lapse (driven.scene.pending = 0) time reached).2 driven)) ∧
      ∀ moments length, History worker simulation.fleet moments length →
        ∀ position ≤ length,
          ∀ index carrier, (moments position).scene.world.vehicles[index]? = some carrier →
            ∃ commit committed standing passages,
              Itinerary worker index moments position commit committed standing passages
                carrier.route := by
  refine ⟨simulation.lieInOrder_moments worker, ?_, ?_⟩
  · intro calls tick result loop fleet reaches
    have path := simulation.path_atTick worker calls tick
    rw [reaches] at path
    refine ⟨path.isMoment, ?_⟩
    intro lapse index driven courier cab time reached covered hasTurn found adopted drives
    have pathThen : Path worker simulation.fleet driven :=
      hasTurn.upheld (path_upkeep worker simulation.fleet) covered path
    have looks : Takes worker driven _ := .inl (.adopted found)
    rw [adopted] at looks
    have drove : Path worker (putBack index cab driven) (putBack index reached driven) :=
      path_of_drivesTo found drives
    exact Path.isMoment
      (((pathThen.tail looks).trans drove).tail (takes_round_of found reached _ _ _))
  · intro moments length history position within index carrier present
    obtain ⟨surroundings, fresh⟩ := build_fleet built
    have bound : simulation.fleet.IsBound index := by
      rw [fresh]
      exact isBound_initial _ _ _
    have boundThen := Path.isBound (history.path within) bound
    have driven := IsCrewed.lt_couriers boundThen.manned.crewed present
    have found := List.getElem?_eq_getElem driven
    have stands := standing?_of_found found
    obtain ⟨commit, committed, passages, route, itinerary⟩ := history.itinerary bound
      (fun standing stands => standing?_initial _ _ _ (fresh ▸ stands)) within stands
    have same : route = carrier.route := by
      have named := boundThen.manned.crewed.named index _ found
      have left : (moments position).scene.world.ledger.stops?
          (moments position).couriers[index].vehicle = some route := itinerary.left
      rw [named, Ledger.stops?, World.ledger_load?_of_vehicle? present] at left
      exact (Option.some.inj left).symm
    exact ⟨_, _, _, _, same ▸ itinerary⟩

/-- In the run of a parcel that is loaded and unloaded within a tick, the moments lie on one history
to the end of the call, where the route that is left is empty. -/
theorem vehicles_follow_routes_punctual :
    build oneTick
        ⟨.origin, [.standard], [{ (OrderDraft.between .origin .origin).order with
          pickupDuration := 1
          deliveryDuration := 1 }]⟩ (fun _ => .ok ()) = .ok punctual ∧
      (punctual.after eager [] 1).fleet = arrived ∧
      servedBy ⟨0⟩ arrived.scene.world.events = [(.pickup, ⟨0⟩), (.delivery, ⟨0⟩)] ∧
      ∃ (moments : Nat → Fleet Unit) (length : Nat) (positions : List Nat),
        History eager punctual.fleet moments length ∧
        positions.map moments = punctual.moments eager 1 ∧ moments length = arrived ∧
        ∃ commit committed standing passages,
          Itinerary eager 0 moments length commit committed standing passages [] := by
  have ran : (punctual.setup eager []).runFrom
      (fun fleet lapse => punctual.stop.isMet fleet.scene lapse) 0 0 punctual.loop punctual.fleet =
        (.ok ⟨1, 0, 2, .condition⟩, afterOneTick, arrived) :=
    (runFrom_of_tick rfl rfl rfl runTick_punctual rfl).trans (runFrom_of_stop rfl rfl)
  have called : (punctual.after eager [] 1).fleet = arrived :=
    congrArg (fun outcome => outcome.2.fleet) (runObserved_of_ok ran)
  obtain ⟨inOrder, -, follows⟩ := vehicles_follow_routes build_punctual eager
  obtain ⟨moments, length, positions, history, last, -, -, visited⟩ := inOrder 1
  rw [called] at last
  have followed := follows moments length history length (Nat.le_refl length) 0
  rw [last] at followed
  exact ⟨build_punctual, called, rfl, moments, length, positions, history, visited, last,
    followed _ rfl⟩

end Simulation

end LiveFleet
