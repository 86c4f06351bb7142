/-
This file proves that the three records of a world never come apart: the state of
each parcel, what each vehicle carries, and the log. An operation writes them one
after the other, so what has to be shown is that each operation leaves them in
accord; a refused one leaves them as they are. The order of the operations, and the
vehicle that they name, do not matter.
-/
import LiveFleet.Proofs.World.Custody

namespace LiveFleet

open Attempt

namespace World

/-- The records of a world are in accord: the vehicles that the log names exist, the log and the
state of a parcel tell one tale of it, and every vehicle carries what the log says. -/
structure InAccord (world : World) : Prop where
  laden : Laden world.ledger
  crewed : ∀ event ∈ world.events, ∀ vehicle, event.vehicle = some vehicle →
    (world.load? vehicle).isSome = true
  tale : ∀ parcel, Tale (world.stateOf parcel) (world.historyOf parcel)
  stowed : ∀ vehicle load, world.load? vehicle = some load → load.aboard = world.cargoOf vehicle

theorem stateOf_of_has {world : World} {parcel : ParcelId} {state : ParcelState}
    (has : world.ledger.Has parcel state) : world.stateOf parcel = some state := by
  obtain ⟨known, found, rfl⟩ := has
  exact congrArg (Option.map Parcel.state) found

namespace InAccord

variable {world after : World} {event : Event} {vehicle : VehicleId} {parcel : ParcelId}
  {time : Nat} {kind : StopKind}

/-- A parcel that no vehicle has claimed has not been unloaded. -/
theorem isUnloaded_of_not_delivered (accord : world.InAccord)
    (underway : world.stateOf parcel ≠ some .delivered) : world.isUnloaded parcel = false := by
  rw [← Bool.not_eq_true, isUnloaded_iff, (accord.tale parcel).endDelivery_iff]
  exact underway

/-- The vehicle that has a parcel exists. -/
theorem carrier (accord : world.InAccord)
    (aboard : world.stateOf parcel = some (.inCargo vehicle)) :
    (world.load? vehicle).isSome = true := by
  obtain ⟨event, written, -, named, -⟩ :=
    mem_historyOf.1 ((accord.tale parcel).aboard_iff.1 aboard).1
  exact accord.crewed event written vehicle named

theorem crewed_of_written (accord : world.InAccord)
    (written : after.events = world.events ++ [event])
    (stays : ∀ other, (after.load? other).isSome = (world.load? other).isSome)
    (present : ∀ vehicle, event.vehicle = some vehicle → (world.load? vehicle).isSome = true) :
    ∀ event ∈ after.events, ∀ vehicle, event.vehicle = some vehicle →
      (after.load? vehicle).isSome = true := by
  intro other member vehicle named
  rw [written, List.mem_append, List.mem_singleton] at member
  rw [stays]
  rcases member with before | rfl
  · exact accord.crewed other before vehicle named
  · exact present vehicle named

/-- One event more is told of one parcel. -/
theorem tale_of_written (accord : world.InAccord)
    (written : after.events = world.events ++ [event])
    (others : ∀ other, other ≠ event.parcel → after.stateOf other = world.stateOf other)
    (own : Tale (after.stateOf event.parcel)
      (world.historyOf event.parcel ++ [(event.kind, event.vehicle)])) (parcel : ParcelId) :
    Tale (after.stateOf parcel) (after.historyOf parcel) := by
  rw [historyOf_append written]
  by_cases about : event.parcel = parcel
  · rw [if_pos about, ← about]
    exact own
  · rw [if_neg about, List.append_nil, others parcel (Ne.symm about)]
    exact accord.tale parcel

/-! #### Vehicles -/

/-- Routes, destinations and places are in none of the records. -/
theorem of_reloaded (accord : world.InAccord) {change : Load → Load}
    (same : ∀ load, (change load).aboard = load.aboard)
    (reloaded : after.ledger = world.ledger.reload vehicle change) : after.InAccord := by
  have events : after.events = world.events := congrArg Ledger.events reloaded
  have parcels : after.parcel? = world.parcel? := congrArg Ledger.parcel? reloaded
  have loads : after.load? = (world.ledger.reload vehicle change).load? :=
    congrArg Ledger.load? reloaded
  refine ⟨reloaded ▸ accord.laden.reload same, ?_, ?_, ?_⟩
  · intro event member named isNamed
    rw [loads, Ledger.isSome_load?_reload]
    rw [events] at member
    exact accord.crewed event member named isNamed
  · intro parcel
    unfold stateOf historyOf
    rw [events, parcels]
    exact accord.tale parcel
  · intro other later found
    unfold cargoOf loadedBy isUnloaded
    rw [events]
    rw [loads] at found
    rcases Ledger.load?_reload_cases found with ⟨rfl, load, foundBefore, rfl⟩ | ⟨-, foundBefore⟩
    · rw [same]
      exact accord.stowed other load foundBefore
    · exact accord.stowed other later foundBefore

theorem changeVehicle (accord : world.InAccord) {change : Vehicle → Vehicle} (reload : Load → Load)
    (reloads : ∀ known, (change known).load = reload known.load)
    (same : ∀ load, (reload load).aboard = load.aboard) (vehicle : VehicleId) :
    (World.changeVehicle vehicle change world).2.InAccord := by
  unfold World.changeVehicle
  split
  · exact accord.of_reloaded same (ledger_modifyVehicle world vehicle reloads)
  · exact accord

theorem load?_addVehicle (world : World) (profile : VehicleProfile) (vehicle : VehicleId) :
    (world.addVehicle profile).2.load? vehicle =
      if vehicle = ⟨world.vehicles.length⟩ then some ⟨[], []⟩ else world.load? vehicle := by
  have listed : (world.addVehicle profile).2.load? vehicle =
      (world.vehicles ++ [Vehicle.parked ⟨world.vehicles.length⟩ profile])[vehicle.index]?.map
        Vehicle.load := rfl
  rw [listed]
  by_cases new : vehicle = ⟨world.vehicles.length⟩
  · rw [if_pos new, new]
    simp [Vehicle.parked, Vehicle.load]
  · have elsewhere : vehicle.index ≠ world.vehicles.length := by
      intro same
      exact new (congrArg VehicleId.mk same)
    rw [if_neg new, List.getElem?_append]
    split
    · rfl
    · have beyond : world.vehicles.length < vehicle.index := by omega
      have absent : world.load? vehicle = none :=
        congrArg (Option.map Vehicle.load) (List.getElem?_eq_none (Nat.le_of_lt beyond))
      rw [absent, List.getElem?_eq_none, Option.map_none]
      rw [List.length_singleton]
      omega

/-- A new vehicle is empty, and the log does not name it. -/
theorem addVehicle (accord : world.InAccord) (profile : VehicleProfile) :
    (world.addVehicle profile).2.InAccord := by
  have unknown : world.load? ⟨world.vehicles.length⟩ = none :=
    congrArg (Option.map Vehicle.load) (List.getElem?_eq_none (Nat.le_refl _))
  have others : ∀ {vehicle : VehicleId}, (world.load? vehicle).isSome = true →
      vehicle ≠ ⟨world.vehicles.length⟩ := by
    rintro vehicle present rfl
    rw [unknown] at present
    cases present
  refine ⟨⟨accord.laden.named, ?_⟩, ?_, accord.tale, ?_⟩
  · intro vehicle load found parcel aboard
    have sorted := (load?_addVehicle world profile vehicle).symm.trans found
    split at sorted
    · cases sorted
      cases aboard
    · exact accord.laden.aboard vehicle load sorted parcel aboard
  · intro event member vehicle named
    have present := accord.crewed event member vehicle named
    rw [load?_addVehicle, if_neg (others present)]
    exact present
  · intro vehicle load found
    rw [load?_addVehicle] at found
    split at found
    · rename_i new
      cases found
      symm
      rw [List.eq_nil_iff_forall_not_mem]
      intro parcel member
      obtain ⟨event, written, -, named, -⟩ := mem_historyOf.1 (mem_cargoOf.1 member).1
      exact others (accord.crewed event written vehicle named) new
    · exact accord.stowed vehicle load found

/-! #### Parcels -/

theorem announce (accord : world.InAccord) (order : TransportOrder) (time : Nat) :
    (world.announce order time).2.InAccord := by
  have entered := ledger_announce world order time
  have laden := accord.laden.announced order time
  generalize (world.announce order time).2 = after at entered laden
  have written :
      after.events = world.events ++ [⟨.newParcel, time, ⟨world.parcels.length⟩, none⟩] :=
    congrArg Ledger.events entered
  have loads : after.load? = world.load? := congrArg Ledger.load? entered
  have parcels : after.parcel? = (world.ledger.enter (world.nextParcel order time)).parcel? :=
    congrArg Ledger.parcel? entered
  have unknown : world.stateOf ⟨world.parcels.length⟩ = none :=
    congrArg (Option.map Parcel.state) (parcel?_next world)
  refine ⟨laden, ?_, ?_, ?_⟩
  · refine accord.crewed_of_written written ?_ ?_
    · intro other
      rw [loads]
    · intro vehicle named
      cases named
  · refine accord.tale_of_written written ?_ ?_
    · intro other differs
      unfold stateOf
      rw [parcels, Ledger.parcel?_enter_other differs]
      rfl
    · have state : after.stateOf ⟨world.parcels.length⟩ =
          some (world.nextParcel order time).state := by
        unfold stateOf
        rw [parcels]
        exact congrArg (Option.map Parcel.state) (if_pos rfl)
      have told := accord.tale ⟨world.parcels.length⟩
      rw [unknown] at told
      rw [state]
      refine told.announced ?_
      unfold nextParcel
      dsimp only
      split <;> rfl
  · intro vehicle load found
    rw [loads] at found
    rw [cargoOf_of_handled written EventKind.noConfusion EventKind.noConfusion]
    exact accord.stowed vehicle load found

theorem refresh (accord : world.InAccord) (time : Nat) : (world.refresh time).2.InAccord := by
  refine ⟨accord.laden.refreshed time, accord.crewed, ?_, accord.stowed⟩
  intro parcel
  have told := accord.tale parcel
  unfold stateOf at told ⊢
  rw [parcel?_refresh]
  cases found : world.parcel? parcel with
  | none =>
    rw [found] at told
    exact told
  | some known =>
    rw [found] at told
    simp only [Option.map_some] at told ⊢
    split
    · rename_i opens
      rw [opensBy, Bool.and_eq_true, decide_eq_true_eq] at opens
      rw [opens.1] at told
      exact told.opened
    · exact told

/-! #### Services -/

/-- A service that a vehicle begins or ends is entered once, and concerns one parcel. -/
theorem of_service {entered : EventKind} {state : ParcelState} (accord : world.InAccord)
    (laden : Laden after.ledger)
    (written : after.events = world.events ++ [⟨entered, time, parcel, some vehicle⟩])
    (present : (world.load? vehicle).isSome = true)
    (stays : ∀ other, (after.load? other).isSome = (world.load? other).isSome)
    (others : ∀ other, other ≠ parcel → after.parcel? other = world.parcel? other)
    (reached : after.ledger.Has parcel state)
    (told : Tale (some state) (world.historyOf parcel ++ [(entered, some vehicle)]))
    (stowed : ∀ other load, after.load? other = some load → load.aboard = after.cargoOf other) :
    after.InAccord := by
  refine ⟨laden, accord.crewed_of_written written stays ?_, accord.tale_of_written written ?_ ?_,
    stowed⟩
  · intro named isNamed
    cases isNamed
    exact present
  · exact fun other differs => congrArg (Option.map Parcel.state) (others other differs)
  · rw [stateOf_of_has reached]
    exact told

/-- What is to be delivered is aboard already, and what is to be loaded comes last. -/
theorem stowed_begun (accord : world.InAccord)
    (ready : world.ledger.Has parcel (kind.stateBefore vehicle))
    (begins : after.ledger = world.ledger.begun vehicle parcel time kind) :
    ∀ other load, after.load? other = some load → load.aboard = after.cargoOf other := by
  intro other later found
  have written : after.events = _ := (congrArg Ledger.events begins).trans (Ledger.events_begun ..)
  have foundLater := (congrFun (congrArg Ledger.load? begins) other).symm.trans found
  cases kind with
  | delivery =>
    rw [cargoOf_of_handled written EventKind.noConfusion EventKind.noConfusion]
    exact accord.stowed other later foundLater
  | pickup =>
    have ashore : world.isUnloaded parcel = false := by
      refine accord.isUnloaded_of_not_delivered ?_
      rw [stateOf_of_has ready]
      exact fun same => ParcelState.noConfusion (Option.some.inj same)
    rw [cargoOf_of_loaded written rfl ashore]
    rcases Ledger.load?_reload_cases foundLater with
      ⟨rfl, load, foundBefore, rfl⟩ | ⟨differs, foundBefore⟩
    · rw [if_pos rfl, ← accord.stowed other load foundBefore]
      rfl
    · have elsewhere : some vehicle ≠ some other := fun same =>
        differs (Option.some.inj same).symm
      rw [if_neg elsewhere, List.append_nil]
      exact accord.stowed other later foundBefore

theorem begun (accord : world.InAccord) (ready : world.ledger.Has parcel (kind.stateBefore vehicle))
    (present : (world.load? vehicle).isSome = true)
    (begins : after.ledger = world.ledger.begun vehicle parcel time kind) : after.InAccord := by
  have written : after.events = _ := (congrArg Ledger.events begins).trans (Ledger.events_begun ..)
  have told := accord.tale parcel
  rw [stateOf_of_has ready] at told
  have claimed : after.ledger.Has parcel (.inCargo vehicle) := by
    rw [begins]
    cases kind with
    | pickup => exact ready.setState_self
    | delivery => exact ready
  refine accord.of_service (begins ▸ accord.laden.begun ready) written present ?_ ?_ claimed
    told.started (accord.stowed_begun ready begins)
  · intro other
    rw [show after.load? = _ from congrArg Ledger.load? begins]
    exact Ledger.isSome_load?_begun time kind other
  · intro other differs
    rw [show after.parcel? = _ from congrArg Ledger.parcel? begins]
    exact Ledger.parcel?_begun_other differs

/-- What has been loaded stays aboard, and what has been delivered was aboard of one vehicle. -/
theorem stowed_ended (accord : world.InAccord) (aboard : world.ledger.Has parcel (.inCargo vehicle))
    (ends : after.ledger = world.ledger.ended vehicle parcel time kind) :
    ∀ other load, after.load? other = some load → load.aboard = after.cargoOf other := by
  intro other later found
  have written : after.events = _ := (congrArg Ledger.events ends).trans (Ledger.events_ended ..)
  have foundLater := (congrFun (congrArg Ledger.load? ends) other).symm.trans found
  cases kind with
  | pickup =>
    rw [cargoOf_of_handled written EventKind.noConfusion EventKind.noConfusion]
    exact accord.stowed other later foundLater
  | delivery =>
    rw [cargoOf_of_unloaded written rfl]
    rcases Ledger.load?_reload_cases foundLater with
      ⟨rfl, load, foundBefore, rfl⟩ | ⟨differs, foundBefore⟩
    · rw [← accord.stowed other load foundBefore]
      rfl
    · -- No other vehicle carries the parcel.
      rw [← accord.stowed other later foundBefore, eq_comm, List.filter_eq_self]
      intro held carried
      have inOther := accord.laden.aboard other later foundBefore held carried
      refine decide_eq_true fun same => differs ?_
      rw [show held = parcel from same] at inOther
      exact ParcelState.inCargo.inj (inOther.unique aboard)

theorem ended (accord : world.InAccord) (aboard : world.ledger.Has parcel (.inCargo vehicle))
    (ends : after.ledger = world.ledger.ended vehicle parcel time kind) : after.InAccord := by
  have written : after.events = _ := (congrArg Ledger.events ends).trans (Ledger.events_ended ..)
  have told := accord.tale parcel
  rw [stateOf_of_has aboard] at told
  have settled : after.ledger.Has parcel (kind.stateAfter vehicle) := by
    rw [ends]
    cases kind with
    | pickup => exact aboard
    | delivery => exact aboard.setState_self
  refine accord.of_service (ends ▸ accord.laden.ended aboard) written
    (accord.carrier (stateOf_of_has aboard)) ?_ ?_ settled told.ended
    (accord.stowed_ended aboard ends)
  · intro other
    rw [show after.load? = _ from congrArg Ledger.load? ends]
    exact Ledger.isSome_load?_ended time kind other
  · intro other differs
    rw [show after.parcel? = _ from congrArg Ledger.parcel? ends]
    exact Ledger.parcel?_ended_other differs

theorem start (accord : world.InAccord) (kind : StopKind) (vehicle : VehicleId) (parcel : ParcelId)
    (time : Nat) : (kind.start vehicle parcel time world).2.InAccord := by
  rcases start_cases kind vehicle parcel time world with
    ⟨error, refused⟩ | ⟨after, started, -, isAt, -⟩
  · rw [refused]
    exact accord
  · rw [started]
    obtain ⟨ready, begins⟩ := start_ledger started
    obtain ⟨-, place, -, stands, -⟩ := isAt
    obtain ⟨carrier, found, -⟩ := Option.map_eq_some_iff.1 stands
    exact accord.begun ready (Option.isSome_of_eq_some (ledger_load?_of_vehicle? found)) begins

/-- A vehicle has served a stop, or nothing happens. It need not be asked whether the vehicle exists:
whoever does not have the parcel is refused at once. -/
theorem finish_cases (accord : world.InAccord) (kind : StopKind) (vehicle : VehicleId)
    (parcel : ParcelId) (time : Nat) :
    (∃ error, kind.finish vehicle parcel time world = (.error error, world)) ∨
      ∃ after, kind.finish vehicle parcel time world = (.ok (), after) ∧
        world.Marks ⟨kind.endEvent, time, parcel, some vehicle⟩ (kind.stateAfter vehicle)
          after := by
  by_cases aboard : world.stateOf parcel = some (.inCargo vehicle)
  · have present : (world.place? vehicle).isSome = true := by
      have loaded := accord.carrier aboard
      rw [load?, Option.isSome_map] at loaded
      rw [place?, Option.isSome_map]
      exact loaded
    exact World.finish_cases kind present parcel time
  · have stopped : ∀ (action : ParcelAction) (rest : World.Change), ∃ error,
        (requireInCargo vehicle parcel action >>= fun _ => rest) world = (.error error, world) := by
      intro action rest
      rcases requireInCargo_cases vehicle parcel action world with
        ⟨error, refused⟩ | ⟨-, known, found, state⟩
      · exact ⟨error, bind_of_failed refused⟩
      · exact absurd (stateOf_of_has ⟨known, found, state⟩) aboard
    cases kind with
    | pickup => exact .inl (stopped _ _)
    | delivery => exact .inl (stopped _ _)

theorem finish (accord : world.InAccord) (kind : StopKind) (vehicle : VehicleId)
    (parcel : ParcelId) (time : Nat) : (kind.finish vehicle parcel time world).2.InAccord := by
  rcases accord.finish_cases kind vehicle parcel time with
    ⟨error, refused⟩ | ⟨after, finished, -⟩
  · rw [refused]
    exact accord
  · rw [finished]
    obtain ⟨has, ends⟩ := finish_ledger finished
    exact accord.ended has ends

end InAccord

theorem inAccord_empty (depot : Point) : (World.empty depot).InAccord where
  laden := {
    named := fun _ _ found => absurd found (Option.some_ne_none _).symm
    aboard := fun _ _ found => absurd found (Option.some_ne_none _).symm }
  crewed := fun _ member => absurd member List.not_mem_nil
  tale := fun _ => .unknown
  stowed := fun _ _ found => absurd found (Option.some_ne_none _).symm

end World

end LiveFleet
