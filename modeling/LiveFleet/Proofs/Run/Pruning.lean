/-
This file proves that the check of an entry and the pruning of a route judge every
stop alike. They walk the stops separately: the check stops at the first one that does
not fit, and looks at the cargo after the last; pruning drops the ones that do not
fit and goes on. An entry passes the check exactly if pruning drops nothing of it and
nothing aboard is left out, and what the check names is the first thing that stands
against the entry.

Pruning throws nothing away that would be of use later. A parcel that a vehicle may
not serve has been claimed by another vehicle or delivered, and no operation takes
that back. So it makes no difference whether a route is pruned at once as well.
-/
import LiveFleet.Proofs.Run.Deeds
import LiveFleet.Proofs.World.Requests

namespace LiveFleet

open Attempt

/-! ### Stops and what stands against them -/

namespace World

/-- What a vehicle carries. A vehicle that does not exist carries nothing. -/
def contentsOf (world : World) (vehicle : VehicleId) : List ParcelId :=
  ((world.vehicle? vehicle).map Vehicle.contents).getD []

/-- What is said against a stop that the vehicle may not make. -/
def objectionTo (world : World) (stop : ParcelId) : Inconsistency :=
  match world.stateOf stop with
  | none => .unknownParcel stop
  | some state => .notAssignable stop state

/-- The stop is the first one of the entry that pruning drops. -/
def IsFirstDropped (world : World) (vehicle : VehicleId) (entry : List ParcelId)
    (stop : ParcelId) : Prop :=
  ∃ kept rest, entry = kept ++ stop :: rest ∧ world.pruneRoute vehicle kept = kept ∧
    stop ∉ world.pruneRoute vehicle entry

/-- The parcel is the first one aboard the vehicle that the entry does not list. -/
def IsFirstOmitted (world : World) (vehicle : VehicleId) (entry : List ParcelId)
    (parcel : ParcelId) : Prop :=
  ∃ listed rest, world.contentsOf vehicle = listed ++ parcel :: rest ∧
    (∀ other ∈ listed, other ∈ entry) ∧ parcel ∉ entry

/-- What stands against an entry: the first stop that pruning drops, or else the first parcel aboard
that is left out. -/
def IsObjection (world : World) (vehicle : VehicleId) (entry : List ParcelId)
    (problem : Inconsistency) : Prop :=
  (∃ stop, world.IsFirstDropped vehicle entry stop ∧ problem = world.objectionTo stop) ∨
    world.pruneRoute vehicle entry = entry ∧
      ∃ parcel, world.IsFirstOmitted vehicle entry parcel ∧ problem = .cargoOmitted parcel

variable {world after : World} {vehicle : VehicleId} {entry route : List ParcelId}
  {stop parcel : ParcelId} {problem : Inconsistency}

/-- A vehicle may serve what nobody has claimed and what it carries itself. -/
theorem canServe_iff :
    world.canServe vehicle stop = true ↔ ∃ state, world.stateOf stop = some state ∧
      (state.isUnassigned = true ∨ state = .inCargo vehicle) := by
  rw [canServe, stateOf]
  cases world.parcel? stop with
  | none => simp
  | some known =>
    obtain ⟨id, order, state⟩ := known
    cases state <;> simp [ParcelState.isAssignable, ParcelState.isUnassigned]

theorem mem_pruneRoute :
    stop ∈ world.pruneRoute vehicle route ↔ stop ∈ route ∧ world.canServe vehicle stop = true :=
  List.mem_filter

theorem pruneRoute_eq_self_iff :
    world.pruneRoute vehicle route = route ↔ ∀ stop ∈ route, world.canServe vehicle stop = true :=
  List.filter_eq_self

/-- The check finds nothing wrong with the stops that pruning keeps. -/
theorem stopProblem?_eq_none_iff_canServe :
    world.stopProblem? vehicle stop = none ↔ world.canServe vehicle stop = true :=
  stopProblem?_eq_none_iff

theorem stopProblem?_of_dropped (dropped : ¬ world.canServe vehicle stop = true) :
    world.stopProblem? vehicle stop = some (world.objectionTo stop) := by
  unfold canServe at dropped
  unfold stopProblem? objectionTo stateOf
  cases found : world.parcel? stop with
  | none => rfl
  | some known =>
    rw [found] at dropped
    exact if_neg dropped

theorem findSome?_stopProblem?_eq_none_iff :
    entry.findSome? (world.stopProblem? vehicle) = none ↔
      world.pruneRoute vehicle entry = entry := by
  rw [List.findSome?_eq_none_iff, pruneRoute_eq_self_iff]
  simp only [stopProblem?_eq_none_iff_canServe]

/-- The first stop that the check objects to is the first one that pruning drops. -/
theorem findSome?_stopProblem?_eq_some_iff :
    entry.findSome? (world.stopProblem? vehicle) = some problem ↔
      ∃ stop, world.IsFirstDropped vehicle entry stop ∧ problem = world.objectionTo stop := by
  rw [List.findSome?_eq_some_iff]
  simp only [stopProblem?_eq_none_iff_canServe, ← pruneRoute_eq_self_iff]
  constructor
  · rintro ⟨kept, stop, rest, isEntry, objects, keeps⟩
    have dropped : ¬ world.canServe vehicle stop = true := by
      rw [← stopProblem?_eq_none_iff_canServe, objects]
      exact Option.some_ne_none problem
    have drops : stop ∉ world.pruneRoute vehicle entry :=
      fun member => dropped (mem_pruneRoute.1 member).2
    refine ⟨stop, ⟨kept, rest, isEntry, keeps, drops⟩, ?_⟩
    exact Option.some.inj (objects.symm.trans (stopProblem?_of_dropped dropped))
  · rintro ⟨stop, ⟨kept, rest, isEntry, keeps, drops⟩, rfl⟩
    have inEntry : stop ∈ entry := by
      rw [isEntry]
      exact List.mem_append_right _ List.mem_cons_self
    exact ⟨kept, stop, rest, isEntry,
      stopProblem?_of_dropped fun serves => drops (mem_pruneRoute.2 ⟨inEntry, serves⟩), keeps⟩

/-! ### The cargo -/

theorem omittedCargo?_eq (world : World) (vehicle : VehicleId) (entry : List ParcelId) :
    world.omittedCargo? vehicle entry =
      (world.contentsOf vehicle).find? fun parcel => !entry.contains parcel := by
  unfold omittedCargo? contentsOf
  cases world.vehicle? vehicle with
  | none => rfl
  | some known => rfl

theorem omittedCargo?_eq_none_iff :
    world.omittedCargo? vehicle entry = none ↔
      ∀ parcel ∈ world.contentsOf vehicle, parcel ∈ entry := by
  rw [omittedCargo?_eq, List.find?_eq_none]
  simp only [Bool.not_eq_true', Bool.not_eq_false, List.contains_iff_mem]

theorem omittedCargo?_eq_some_iff :
    world.omittedCargo? vehicle entry = some parcel ↔
      world.IsFirstOmitted vehicle entry parcel := by
  rw [omittedCargo?_eq, List.find?_eq_some_iff_append, IsFirstOmitted]
  simp only [Bool.not_eq_true', Bool.not_not, List.contains_iff_mem, ← Bool.not_eq_true]
  constructor
  · rintro ⟨missing, listed, rest, carries, before⟩
    exact ⟨listed, rest, carries, before, missing⟩
  · rintro ⟨listed, rest, carries, before, missing⟩
    exact ⟨missing, listed, rest, carries, before⟩

/-! ### The check -/

theorem entryProblem?_eq_none_iff_pruneRoute :
    world.entryProblem? vehicle (some entry) = none ↔
      world.pruneRoute vehicle entry = entry ∧
        ∀ parcel ∈ world.contentsOf vehicle, parcel ∈ entry := by
  rw [← findSome?_stopProblem?_eq_none_iff, ← omittedCargo?_eq_none_iff, entryProblem?]
  cases entry.findSome? (world.stopProblem? vehicle) with
  | none => simp
  | some problem => simp

theorem entryProblem?_eq_some_iff :
    world.entryProblem? vehicle (some entry) = some problem ↔
      world.IsObjection vehicle entry problem := by
  rw [IsObjection, ← findSome?_stopProblem?_eq_some_iff, ← findSome?_stopProblem?_eq_none_iff]
  simp only [← omittedCargo?_eq_some_iff]
  rw [entryProblem?]
  cases entry.findSome? (world.stopProblem? vehicle) with
  | none =>
    simp only [reduceCtorEq, false_or, true_and, Option.map_eq_some_iff]
    exact exists_congr fun parcel => and_congr_right fun _ => eq_comm
  | some other => simp

end World

/-! ### What is not given back -/

/-- A service gives no vehicle a parcel that the vehicle could not serve before. -/
theorem Request.isAssignable_of_handling {vehicle other : VehicleId} {request : Request}
    {handling : Handling} (asks : request.handling? vehicle = some handling)
    (assignable : handling.after.isAssignable other = true) :
    handling.before.isAssignable other = true := by
  cases request with
  | setRoute | setDestination | moveVehicle => cases asks
  | start kind parcel time =>
    cases asks
    cases kind with
    | pickup => rfl
    | delivery => exact assignable
  | finish kind parcel time =>
    cases asks
    cases kind with
    | pickup => exact assignable
    | delivery => cases assignable

namespace World

/-- What is known now stays known, and a vehicle may serve of it later only what it may serve
now. -/
def GivesNothingBack (world after : World) : Prop :=
  ∀ parcel known, world.parcel? parcel = some known → ∃ later, after.parcel? parcel = some later ∧
    ∀ vehicle, later.state.isAssignable vehicle = true → known.state.isAssignable vehicle = true

namespace GivesNothingBack

variable {world middle after : World}

theorem of_same (same : ∀ parcel, after.parcel? parcel = world.parcel? parcel) :
    world.GivesNothingBack after :=
  fun parcel known found => ⟨known, (same parcel).trans found, fun _ assignable => assignable⟩

theorem trans (first : world.GivesNothingBack middle) (second : middle.GivesNothingBack after) :
    world.GivesNothingBack after := by
  intro parcel known found
  obtain ⟨between, foundBetween, fewer⟩ := first parcel known found
  obtain ⟨later, foundLater, fewerThen⟩ := second parcel between foundBetween
  exact ⟨later, foundLater, fun vehicle assignable => fewer vehicle (fewerThen vehicle assignable)⟩

theorem announce (world : World) (order : TransportOrder) (time : Nat) :
    world.GivesNothingBack (world.announce order time).2 := by
  intro parcel known found
  have differs : parcel ≠ ⟨world.parcels.length⟩ := by
    rintro rfl
    rw [parcel?_next] at found
    cases found
  exact ⟨known, (parcel?_announce_other world order time differs).trans found,
    fun _ assignable => assignable⟩

/-- A window that opens does so for a parcel that everybody may serve already. -/
theorem refresh (world : World) (time : Nat) : world.GivesNothingBack (world.refresh time).2 := by
  intro parcel known found
  refine ⟨_, by rw [parcel?_refresh, found, Option.map_some], fun vehicle assignable => ?_⟩
  split at assignable
  · rename_i opens
    rw [opensBy, Bool.and_eq_true, decide_eq_true_eq] at opens
    rw [opens.1]
    rfl
  · exact assignable

theorem granted {vehicle : VehicleId} {request : Request}
    (changes : world.ChangesOnly vehicle request after) : world.GivesNothingBack after := by
  intro parcel known found
  rcases changes.parcel_cases parcel with same | ⟨handling, before, asks, foundBefore, state, later⟩
  · exact ⟨known, same.trans found, fun _ assignable => assignable⟩
  · cases found.symm.trans foundBefore
    refine ⟨_, later, fun other assignable => ?_⟩
    rw [state]
    exact Request.isAssignable_of_handling asks assignable

theorem becomes {operation : Operation} (becomes : world.Becomes operation after) :
    world.GivesNothingBack after := by
  cases becomes with
  | addVehicle profile => exact .of_same fun _ => rfl
  | announce order time => exact .announce world order time
  | refresh time => exact .refresh world time
  | refused operation => exact .of_same fun _ => rfl
  | granted changes => exact .granted changes

/-- What one operation does not give back, no number of them does. -/
theorem of_operations (accord : world.InAccord) (operations : List Operation) :
    world.GivesNothingBack (world.after operations) := by
  induction operations generalizing world with
  | nil => exact .of_same fun _ => rfl
  | cons operation rest inductionHypothesis =>
    exact (becomes (accord.becomes operation)).trans
      (inductionHypothesis (inAccord_apply accord operation))

end GivesNothingBack

variable {world after : World} {vehicle : VehicleId} {route : List ParcelId}

/-- Where nothing is given back, a route of known parcels may as well be pruned early. -/
theorem pruneRoute_pruneRoute (nothingBack : world.GivesNothingBack after)
    (isKnown : ∀ stop ∈ route, (world.parcel? stop).isSome = true) :
    after.pruneRoute vehicle (world.pruneRoute vehicle route) = after.pruneRoute vehicle route := by
  unfold pruneRoute
  rw [List.filter_filter]
  refine List.filter_congr fun stop member => ?_
  obtain ⟨known, found⟩ := Option.isSome_iff_exists.1 (isKnown stop member)
  obtain ⟨later, foundLater, fewer⟩ := nothingBack stop known found
  rw [canServe, canServe, found, foundLater, Option.any_some, Option.any_some]
  cases assignable : later.state.isAssignable vehicle with
  | false => rfl
  | true => exact (Bool.true_and _).trans (fewer vehicle assignable)

/-- The check accepts an entry exactly if pruning leaves it as it is and it lists all that is
aboard, and otherwise names the first thing that stands against it. Pruning keeps what nobody has
claimed and what the vehicle carries. And whatever has been asked of a world and is asked of it
afterwards: a route of known parcels is the same after a later pruning, whether or not it is pruned
now. -/
theorem checks_agree_with_pruning :
    (∀ (world : World) (vehicle : VehicleId) (entry : List ParcelId) (version : Nat)
        (log : RepairLog),
      ((RepairLog.check world vehicle (some entry) version log).1 = .ok () ↔
          world.pruneRoute vehicle entry = entry ∧
            ∀ parcel ∈ world.contentsOf vehicle, parcel ∈ entry) ∧
        ∀ problem, (RepairLog.check world vehicle (some entry) version log).1 = .error problem ↔
          world.IsObjection vehicle entry problem) ∧
    (∀ (world : World) (vehicle : VehicleId) (route : List ParcelId) (stop : ParcelId),
      stop ∈ world.pruneRoute vehicle route ↔ stop ∈ route ∧ ∃ state,
        world.stateOf stop = some state ∧ (state.isUnassigned = true ∨ state = .inCargo vehicle)) ∧
    ∀ (depot : Point) (operations later : List Operation) (vehicle : VehicleId)
        (route : List ParcelId),
      (∀ stop ∈ route, (((World.empty depot).after operations).parcel? stop).isSome = true) →
        (((World.empty depot).after operations).after later).pruneRoute vehicle
            (((World.empty depot).after operations).pruneRoute vehicle route) =
          (((World.empty depot).after operations).after later).pruneRoute vehicle route := by
  refine ⟨fun world vehicle entry version log => ?_, fun world vehicle route stop => ?_,
    fun depot operations later vehicle route isKnown => ?_⟩
  · rw [← entryProblem?_eq_none_iff_pruneRoute]
    simp only [← entryProblem?_eq_some_iff]
    unfold RepairLog.check
    cases world.entryProblem? vehicle (some entry) with
    | none => simp
    | some problem => simp
  · rw [mem_pruneRoute, canServe_iff]
  · have accord := inAccord_after (inAccord_empty depot) operations
    exact pruneRoute_pruneRoute (.of_operations accord later) isKnown

/-- Two vehicles have been given the same two parcels, and the first one has begun to load one of
them. The second one may keep the other parcel only, which is what its check says of both entries,
and the first one may not leave its parcel out. Once the first parcel is delivered and the second
one is being loaded, it makes no difference whether the second vehicle has pruned its route
before. -/
theorem checks_agree_with_pruning_loading :
    let world := loading.after [.addVehicle ⟨⟨0, 0⟩, 50⟩]
    let later := world.after [.finishDelivery ⟨0⟩ ⟨0⟩ 1, .startPickup ⟨1⟩ ⟨1⟩ 1]
    let route : List ParcelId := [⟨0⟩, ⟨0⟩, ⟨1⟩, ⟨1⟩]
    (world.pruneRoute ⟨1⟩ [⟨1⟩, ⟨1⟩] = [⟨1⟩, ⟨1⟩] ∧
        ∀ parcel ∈ world.contentsOf ⟨1⟩, parcel ∈ [⟨1⟩, ⟨1⟩]) ∧
      world.IsObjection ⟨1⟩ route (.notAssignable ⟨0⟩ (.inCargo ⟨0⟩)) ∧
      world.IsObjection ⟨0⟩ [⟨1⟩, ⟨1⟩] (.cargoOmitted ⟨0⟩) ∧
      ⟨1⟩ ∈ world.pruneRoute ⟨1⟩ route ∧ ⟨0⟩ ∉ world.pruneRoute ⟨1⟩ route ∧
      (∀ stop ∈ route, (world.parcel? stop).isSome = true) ∧
      later.pruneRoute ⟨1⟩ (world.pruneRoute ⟨1⟩ route) = later.pruneRoute ⟨1⟩ route := by
  intro world later route
  obtain ⟨checks, keeps, prunes⟩ := checks_agree_with_pruning
  have accepted : (RepairLog.check world ⟨1⟩ (some [⟨1⟩, ⟨1⟩]) 1 .clear).1 = .ok () := by decide
  have claimed : (RepairLog.check world ⟨1⟩ (some route) 1 .clear).1 =
      .error (.notAssignable ⟨0⟩ (.inCargo ⟨0⟩)) := by decide
  have omitted : (RepairLog.check world ⟨0⟩ (some [⟨1⟩, ⟨1⟩]) 1 .clear).1 =
      .error (.cargoOmitted ⟨0⟩) := by decide
  have isKnown : ∀ stop ∈ route, (world.parcel? stop).isSome = true := by decide
  refine ⟨(checks world ⟨1⟩ _ 1 .clear).1.1 accepted, ((checks world ⟨1⟩ _ 1 .clear).2 _).1 claimed,
    ((checks world ⟨0⟩ _ 1 .clear).2 _).1 omitted,
    (keeps world ⟨1⟩ route ⟨1⟩).2 ⟨by decide, .available, by decide, .inl rfl⟩, ?_, isKnown,
    prunes ⟨0, 0⟩ [.addVehicle ⟨⟨0, 0⟩, 50⟩, .announce onTheSpot 0, .announce onTheSpot 0,
      .startPickup ⟨0⟩ ⟨0⟩ 0, .addVehicle ⟨⟨0, 0⟩, 50⟩] _ ⟨1⟩ route isKnown⟩
  intro kept
  obtain ⟨-, state, found, free⟩ := (keeps world ⟨1⟩ route ⟨0⟩).1 kept
  have taken : world.stateOf ⟨0⟩ = some (.inCargo ⟨0⟩) := by decide
  cases found.symm.trans taken
  rcases free with free | free <;> cases free

end World

end LiveFleet
