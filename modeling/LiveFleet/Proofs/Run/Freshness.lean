/-
This file proves that an answer of the random solver is rejected only if it comes too
late. A schedule is computed from a snapshot and checked against the world of a later
moment. In between, parcels may become known, windows open, vehicles move, change
their plans and go on with their services. None of that takes a parcel away from a
vehicle or out of its cargo; only the start of a pickup and the end of a delivery do.
As long as there is none of these, every entry fits its vehicle.
-/
import LiveFleet.Proofs.Run.Cargo
import LiveFleet.Proofs.World.Operations

namespace LiveFleet

open Attempt

/-! ### Entries made for their vehicles -/

namespace Assignment

/-- The stops are made for the vehicle in the view: it is given what it carries, and besides only
what nobody has claimed. -/
structure IsMadeFor (snapshot : Snapshot) (view : VehicleView) (stops : List ParcelId) : Prop where
  own : ∀ stop ∈ stops, stop ∈ snapshot.unclaimed ∨ view.Carries stop
  complete : ∀ parcel, view.Carries parcel → parcel ∈ stops

/-- Every vehicle of the snapshot has a route that is made for it. -/
def Fits (snapshot : Snapshot) (routes : List (List ParcelId)) : Prop :=
  ∀ (vehicle : Nat) (view : VehicleView), snapshot.vehicles[vehicle]? = some view →
    ∃ stops, routes[vehicle]? = some stops ∧ IsMadeFor snapshot view stops

variable {snapshot : Snapshot} {routes : List (List ParcelId)}

theorem fits_cargoRoutes (snapshot : Snapshot) : Fits snapshot (cargoRoutes snapshot) := by
  intro vehicle view found
  refine ⟨view.contents.map ParcelView.id, ?_, ?_, ?_⟩
  · rw [cargoRoutes, List.getElem?_map, found]
    rfl
  · exact fun stop listed => .inr listed
  · exact fun parcel carried => carried

/-- To give a vehicle what nobody has claimed suits every vehicle. -/
theorem Fits.give (fits : Fits snapshot routes) (vehicle : Nat) {parcel : ParcelView}
    (unclaimed : parcel.id ∈ snapshot.unclaimed) : Fits snapshot (give routes vehicle parcel) := by
  intro other view found
  obtain ⟨stops, entry, made⟩ := fits other view found
  refine ⟨routeAfter vehicle parcel.id other stops, ?_, ?_, ?_⟩
  · rw [getElem?_give, entry, Option.map_some]
  · intro stop listed
    rcases mem_routeAfter.1 listed with before | ⟨-, rfl⟩
    · exact made.own stop before
    · exact .inl unclaimed
  · exact fun stop carried => mem_routeAfter.2 (.inl (made.complete stop carried))

theorem Fits.staffed (fits : Fits snapshot routes) (staffed : snapshot.vehicles ≠ []) :
    0 < routes.length := by
  have inside := List.length_pos_iff.2 staffed
  obtain ⟨stops, entry, -⟩ := fits 0 _ (List.getElem?_eq_getElem inside)
  exact (List.getElem?_eq_some_iff.1 entry).1

end Assignment

namespace RandomAssignment

variable {snapshot : Snapshot} {token : CancelToken}

theorem fits_assign (staffed : snapshot.vehicles ≠ []) {parcels : List ParcelView}
    (unclaimed : ∀ parcel ∈ parcels, parcel.id ∈ snapshot.unclaimed)
    {routes assigned : List (List ParcelId)} {generator after : Generator}
    (fits : Assignment.Fits snapshot routes)
    (answered : parcels.foldlM (assign token) routes generator = (.ok assigned, after)) :
    Assignment.Fits snapshot assigned := by
  induction parcels generalizing routes generator with
  | nil =>
    cases answered
    exact fits
  | cons parcel rest inductionHypothesis =>
    rw [List.foldlM_cons] at answered
    obtain ⟨next, reached, assignedOne, answered⟩ := bind_eq_ok_iff.1 answered
    obtain ⟨vehicle, -, rfl⟩ := assign_eq_ok (fits.staffed staffed) assignedOne
    refine inductionHypothesis ?_ (fits.give vehicle ?_) answered
    · exact fun other member => unclaimed other (List.mem_cons_of_mem _ member)
    · exact unclaimed parcel List.mem_cons_self

/-- However the numbers fall, every entry of the random schedule is made for its vehicle. -/
theorem fits_schedule {generator after : Generator} {made : Schedule}
    (answered : schedule snapshot token generator = (.ok made, after)) :
    Assignment.Fits snapshot made.routes := by
  unfold schedule at answered
  split at answered
  · rename_i empty
    intro vehicle view found
    rw [List.isEmpty_iff.1 empty] at found
    cases found
  · rename_i someone
    have staffed : snapshot.vehicles ≠ [] := fun none => someone (List.isEmpty_iff.2 none)
    obtain ⟨routes, _, assigned, answered⟩ := bind_eq_ok_iff.1 answered
    cases answered
    refine fits_assign staffed ?_ (Assignment.fits_cargoRoutes snapshot) assigned
    exact fun parcel member => List.mem_map.2 ⟨parcel, member, rfl⟩

end RandomAssignment

/-! ### What leaves the cargo alone -/

namespace Ledger

variable {ledger middle after : Ledger}

/-- What a vehicle may serve in the first books, it may serve in the second, and it carries the
same. -/
structure KeepsCargo (ledger after : Ledger) : Prop where
  allowed : ∀ vehicle parcel, ledger.allows vehicle parcel = true →
    after.allows vehicle parcel = true
  aboard : ∀ vehicle load, ledger.load? vehicle = some load →
    ∃ later, after.load? vehicle = some later ∧ later.aboard = load.aboard

namespace KeepsCargo

theorem refl (ledger : Ledger) : ledger.KeepsCargo ledger :=
  ⟨fun _ _ allowed => allowed, fun _ load found => ⟨load, found, rfl⟩⟩

theorem trans (first : ledger.KeepsCargo middle) (second : middle.KeepsCargo after) :
    ledger.KeepsCargo after where
  allowed := fun vehicle parcel allowed =>
    second.allowed vehicle parcel (first.allowed vehicle parcel allowed)
  aboard := by
    intro vehicle load found
    obtain ⟨between, foundBetween, same⟩ := first.aboard vehicle load found
    obtain ⟨later, foundLater, sameLater⟩ := second.aboard vehicle between foundBetween
    exact ⟨later, foundLater, sameLater.trans same⟩

theorem record (ledger : Ledger) (event : Event) : ledger.KeepsCargo (ledger.record event) :=
  ⟨fun _ _ allowed => allowed, fun _ load found => ⟨load, found, rfl⟩⟩

/-- A vehicle may get another route. -/
theorem reload {change : Load → Load} (same : ∀ load, (change load).aboard = load.aboard)
    (ledger : Ledger) (vehicle : VehicleId) : ledger.KeepsCargo (ledger.reload vehicle change) where
  allowed := fun _ _ allowed => allowed
  aboard := by
    intro other load found
    by_cases own : other = vehicle
    · subst own
      exact ⟨change load, load?_reload_self found, same load⟩
    · exact ⟨load, (load?_reload_other own).trans found, rfl⟩

theorem enter {new : Parcel} (unknown : ledger.parcel? new.id = none) :
    ledger.KeepsCargo (ledger.enter new) where
  allowed := by
    intro vehicle parcel allowed
    obtain ⟨known, found, assignable⟩ := allows_iff.1 allowed
    have differs := ne_of_known unknown (Option.isSome_of_eq_some found)
    exact allows_iff.2 ⟨known, (parcel?_enter_other differs).trans found, assignable⟩
  aboard := fun _ load found => ⟨load, found, rfl⟩

/-- A parcel that nobody has claimed may be served by all before and after its window opens. -/
theorem opened (ledger : Ledger) (time : Nat) : ledger.KeepsCargo (ledger.opened time) where
  allowed := by
    intro vehicle parcel allowed
    obtain ⟨known, found, assignable⟩ := allows_iff.1 allowed
    refine allows_iff.2 ⟨_, congrArg (Option.map _) found, ?_⟩
    dsimp only
    split
    · rfl
    · exact assignable
  aboard := fun _ load found => ⟨load, found, rfl⟩

end KeepsCargo

end Ledger

namespace World

variable {world : World}

theorem keepsCargo_addVehicle (world : World) (profile : VehicleProfile) :
    world.ledger.KeepsCargo (world.addVehicle profile).2.ledger where
  allowed := fun _ _ allowed => allowed
  aboard := by
    intro vehicle load found
    have listed := InAccord.load?_addVehicle world profile vehicle
    split at listed
    · rename_i new
      have absent : world.load? vehicle = none := by
        rw [new]
        exact congrArg (Option.map Vehicle.load) (List.getElem?_eq_none (Nat.le_refl _))
      rw [show world.load? vehicle = _ from found] at absent
      cases absent
    · exact ⟨load, listed.trans found, rfl⟩

theorem keepsCargo_changeVehicle {change : Vehicle → Vehicle} (reload : Load → Load)
    (reloads : ∀ known, (change known).load = reload known.load)
    (same : ∀ load, (reload load).aboard = load.aboard) (vehicle : VehicleId) :
    world.ledger.KeepsCargo (changeVehicle vehicle change world).2.ledger := by
  unfold changeVehicle
  split
  · have reloaded := ledger_modifyVehicle world vehicle reloads
    show world.ledger.KeepsCargo (world.modifyVehicle vehicle.index change).ledger
    rw [reloaded]
    exact .reload same world.ledger vehicle
  · exact .refl _

/-- The start of a delivery is only written down. -/
theorem keepsCargo_startDelivery (vehicle : VehicleId) (parcel : ParcelId) (time : Nat) :
    world.ledger.KeepsCargo (startDelivery vehicle parcel time world).2.ledger := by
  rcases startDelivery_cases vehicle parcel time world with ⟨error, refused⟩ | ⟨after, started, -⟩
  · rw [refused]
    exact .refl _
  · have starts : StopKind.delivery.start vehicle parcel time world = (.ok (), after) := started
    have begun := (start_ledger starts).2
    rw [started]
    show world.ledger.KeepsCargo after.ledger
    rw [begun]
    exact .record _ _

/-- The end of a pickup is only written down. -/
theorem keepsCargo_finishPickup (vehicle : VehicleId) (parcel : ParcelId) (time : Nat) :
    world.ledger.KeepsCargo (finishPickup vehicle parcel time world).2.ledger := by
  rcases finishPickup_cases vehicle parcel time world with ⟨error, refused⟩ | ⟨after, finished, -⟩
  · rw [refused]
    exact .refl _
  · have finishes : StopKind.pickup.finish vehicle parcel time world = (.ok (), after) := finished
    have ended := (finish_ledger finishes).2
    rw [finished]
    show world.ledger.KeepsCargo after.ledger
    rw [ended]
    exact .record _ _

end World

/-- The operation starts a pickup or ends a delivery, and the world does not refuse it. -/
def Operation.movesCargo (world : World) : Operation → Bool
  | startPickup vehicle parcel time => (World.startPickup vehicle parcel time world).1.isOk
  | finishDelivery vehicle parcel time => (World.finishDelivery vehicle parcel time world).1.isOk
  | _ => false

namespace World

/-- Of the operations, asked for one after the other, none moves cargo. -/
def leavesCargo (world : World) : List Operation → Bool
  | [] => true
  | operation :: rest => !operation.movesCargo world && (operation.apply world).leavesCargo rest

variable {world : World}

theorem finishDelivery_of_refused (accord : world.InAccord) {vehicle : VehicleId}
    {parcel : ParcelId} {time : Nat}
    (refused : (finishDelivery vehicle parcel time world).1.isOk = false) :
    (finishDelivery vehicle parcel time world).2 = world := by
  rcases accord.finish_cases .delivery vehicle parcel time with
    ⟨error, stopped⟩ | ⟨after, finished, -⟩
  · exact congrArg Prod.snd stopped
  · have ends : finishDelivery vehicle parcel time world = (.ok (), after) := finished
    rw [ends] at refused
    cases refused

theorem keepsCargo_apply (accord : world.InAccord) (operation : Operation)
    (leaves : operation.movesCargo world = false) :
    world.ledger.KeepsCargo (operation.apply world).ledger := by
  cases operation with
  | addVehicle profile => exact keepsCargo_addVehicle world profile
  | announce order time =>
    show world.ledger.KeepsCargo (world.announce order time).2.ledger
    rw [ledger_announce]
    exact (Ledger.KeepsCargo.enter (nextParcel_unknown world order time)).trans (.record _ _)
  | refresh time =>
    show world.ledger.KeepsCargo (world.refresh time).2.ledger
    rw [ledger_refresh]
    exact .opened world.ledger time
  | setRoute vehicle route =>
    exact keepsCargo_changeVehicle (·.follow route) (fun _ => rfl) (fun _ => rfl) vehicle
  | setDestination vehicle destination =>
    refine keepsCargo_changeVehicle id ?_ (fun _ => rfl) vehicle
    exact fun _ => rfl
  | moveVehicle vehicle place =>
    refine keepsCargo_changeVehicle id ?_ (fun _ => rfl) vehicle
    exact fun _ => rfl
  | startPickup vehicle parcel time =>
    rcases startPickup_cases vehicle parcel time world with ⟨error, refused⟩ | ⟨after, started, -⟩
    · show world.ledger.KeepsCargo (startPickup vehicle parcel time world).2.ledger
      rw [refused]
      exact .refl _
    · rw [Operation.movesCargo, started] at leaves
      cases leaves
  | finishPickup vehicle parcel time => exact keepsCargo_finishPickup vehicle parcel time
  | startDelivery vehicle parcel time => exact keepsCargo_startDelivery vehicle parcel time
  | finishDelivery vehicle parcel time =>
    show world.ledger.KeepsCargo (finishDelivery vehicle parcel time world).2.ledger
    rw [finishDelivery_of_refused accord leaves]
    exact .refl _

/-- What leaves the cargo alone step by step leaves it alone altogether. -/
theorem keepsCargo_after (accord : world.InAccord) {operations : List Operation}
    (leaves : world.leavesCargo operations = true) :
    world.ledger.KeepsCargo (world.after operations).ledger := by
  induction operations generalizing world with
  | nil => exact .refl _
  | cons operation rest inductionHypothesis =>
    obtain ⟨first, others⟩ := Bool.and_eq_true_iff.1 leaves
    have kept := keepsCargo_apply accord operation (Eq.mp (Bool.not_eq_true' _) first)
    exact kept.trans (inductionHypothesis (inAccord_apply accord operation) others)

/-! ### Entries that fit -/

/-- What is made for the view of a vehicle, the vehicle may serve, and it leaves nothing out. -/
theorem allows_of_isMadeFor (laden : Laden world.ledger) {time : Nat} {vehicle : VehicleId}
    {carrier : Vehicle} (found : world.vehicle? vehicle = some carrier) {stops : List ParcelId}
    (made : Assignment.IsMadeFor (.capture world time) (carrier.view world) stops) :
    (∀ stop ∈ stops, world.ledger.allows vehicle stop = true) ∧
      ∀ parcel ∈ carrier.contents, parcel ∈ stops := by
  have loaded := ledger_load?_of_vehicle? found
  have carries : ∀ parcel, (carrier.view world).Carries parcel ↔ parcel ∈ carrier.contents := by
    intro parcel
    rw [VehicleView.Carries, laden.contents_view found]
  refine ⟨fun stop listed => ?_,
    fun parcel aboard => made.complete parcel ((carries parcel).2 aboard)⟩
  rcases made.own stop listed with unclaimed | carried
  · exact (laden.mem_unclaimed_capture.1 unclaimed).allows vehicle
  · exact (laden.aboard vehicle _ loaded stop ((carries stop).1 carried)).allows

/-- Whatever has been asked of a world, and however the random numbers fall: the solver answers a
snapshot of the world, and as long as no pickup starts and no delivery ends, the check finds nothing
wrong with the entry of any vehicle of the snapshot, and flags no version. -/
theorem random_schedules_fit (depot : Point) (operations : List Operation) (time : Nat)
    (generator : Generator) :
    ∃ made generatorAfter,
      RandomAssignment.solver.solve (.capture ((World.empty depot).after operations) time)
          (generator, .fresh) = (.ok made, generatorAfter, .fresh) ∧
        ∀ later, ((World.empty depot).after operations).leavesCargo later = true →
          ∀ vehicle, (((World.empty depot).after operations).vehicle? vehicle).isSome = true →
            ∀ version log,
              RepairLog.check (((World.empty depot).after operations).after later) vehicle
                (made.entry? vehicle) version log = (.ok (), log) := by
  have accord : ((World.empty depot).after operations).InAccord :=
    inAccord_after (inAccord_empty depot) operations
  generalize (World.empty depot).after operations = world at accord ⊢
  obtain ⟨made, after, scheduled, solved⟩ :=
    RandomAssignment.solve_eq_ok (.capture world time) generator
  refine ⟨made, after, solved, fun later leaves vehicle present version log => ?_⟩
  obtain ⟨carrier, found⟩ := Option.isSome_iff_exists.1 present
  have shown : (Snapshot.capture world time).vehicles[vehicle.index]? =
      some (carrier.view world) := by
    show (world.vehicles.map _)[vehicle.index]? = _
    rw [List.getElem?_map, show world.vehicles[vehicle.index]? = _ from found]
    rfl
  obtain ⟨stops, entry, isMade⟩ := RandomAssignment.fits_schedule scheduled _ _ shown
  obtain ⟨allowed, complete⟩ := allows_of_isMadeFor accord.laden found isMade
  have kept := keepsCargo_after accord leaves
  obtain ⟨load, foundLater, same⟩ := kept.aboard vehicle _ (ledger_load?_of_vehicle? found)
  have fits : (world.after later).entryProblem? vehicle (made.entry? vehicle) = none := by
    refine (entryProblem?_eq_none_iff foundLater).2 ⟨stops, entry, ?_, ?_⟩
    · exact fun stop listed => kept.allowed vehicle stop (allowed stop listed)
    · rw [same]
      exact complete
  unfold RepairLog.check
  rw [fits]

/-- A parcel is being loaded and another one is waiting while the solver works. In the meantime the
loading ends, a third parcel becomes known, and a vehicle that does not exist is refused the second
one. -/
theorem random_schedules_fit_loading :
    ∃ made generatorAfter,
      RandomAssignment.solver.solve (.capture loading 0) (.ofSeed 0, .fresh) =
          (.ok made, generatorAfter, .fresh) ∧
        RepairLog.check (loading.after [.finishPickup ⟨0⟩ ⟨0⟩ 1, .announce onTheSpot 1,
          .startPickup ⟨1⟩ ⟨1⟩ 1]) ⟨0⟩ (made.entry? ⟨0⟩) 1 .clear = (.ok (), .clear) := by
  obtain ⟨made, after, solved, fits⟩ := random_schedules_fit ⟨0, 0⟩
    [.addVehicle ⟨⟨0, 0⟩, 50⟩, .announce onTheSpot 0, .announce onTheSpot 0,
      .startPickup ⟨0⟩ ⟨0⟩ 0] 0 (.ofSeed 0)
  exact ⟨made, after, solved, fits _ (by decide) ⟨0⟩ (by decide) 1 .clear⟩

end World

end LiveFleet
