/-
This file holds what the log of a world says about who has had a parcel. A parcel
is announced, one vehicle claims it when it starts to load it, and the same vehicle
gives it up when it has unloaded it. In between a world lets that vehicle end the
loading and start the unloading in any order and any number of times; only the
drivers do each once. So the tale of a parcel is weaker than its course, and it is
all that the world itself answers for.
-/
import LiveFleet.Proofs.World.Course
import LiveFleet.Proofs.World.Ledger

namespace LiveFleet

open Attempt

/-! ### What the log says -/

namespace World

/-- The events of one kind about a parcel, in order. -/
def eventsOf (world : World) (kind : EventKind) (parcel : ParcelId) : List Event :=
  world.events.filter fun event => event.kind = kind ∧ event.parcel = parcel

/-- The parcels that a vehicle has started to load, in that order. -/
def loadedBy (world : World) (vehicle : VehicleId) : List ParcelId :=
  (world.events.filter fun event =>
    event.kind = .startPickup ∧ event.vehicle = some vehicle).map Event.parcel

/-- The delivery of the parcel has ended. -/
def isUnloaded (world : World) (parcel : ParcelId) : Bool :=
  world.events.any fun event => event.kind = .endDelivery ∧ event.parcel = parcel

/-- The parcels that a vehicle must have aboard by the log: those that it has started to load and
whose delivery has not ended. -/
def cargoOf (world : World) (vehicle : VehicleId) : List ParcelId :=
  (world.loadedBy vehicle).filter fun parcel => !world.isUnloaded parcel

variable {world after : World} {event : Event} {kind : EventKind} {vehicle : VehicleId}
  {parcel : ParcelId}

theorem mem_historyOf {named : Option VehicleId} :
    (kind, named) ∈ world.historyOf parcel ↔
      ∃ event ∈ world.events, event.kind = kind ∧ event.vehicle = named ∧
        event.parcel = parcel := by
  simp only [historyOf, List.mem_map, List.mem_filter, decide_eq_true_eq, Prod.mk.injEq]
  constructor
  · rintro ⟨event, ⟨written, about⟩, same, sameVehicle⟩
    exact ⟨event, written, same, sameVehicle, about⟩
  · rintro ⟨event, written, same, sameVehicle, about⟩
    exact ⟨event, ⟨written, about⟩, same, sameVehicle⟩

theorem mem_loadedBy :
    parcel ∈ world.loadedBy vehicle ↔
      (EventKind.startPickup, some vehicle) ∈ world.historyOf parcel := by
  rw [mem_historyOf]
  simp only [loadedBy, List.mem_map, List.mem_filter, decide_eq_true_eq, and_assoc]

theorem isUnloaded_iff :
    world.isUnloaded parcel = true ↔
      ∃ named, (EventKind.endDelivery, named) ∈ world.historyOf parcel := by
  simp only [isUnloaded, List.any_eq_true, decide_eq_true_eq, mem_historyOf]
  constructor
  · rintro ⟨event, written, same, about⟩
    exact ⟨event.vehicle, event, written, same, rfl, about⟩
  · rintro ⟨named, event, written, same, -, about⟩
    exact ⟨event, written, same, about⟩

theorem mem_cargoOf :
    parcel ∈ world.cargoOf vehicle ↔
      (EventKind.startPickup, some vehicle) ∈ world.historyOf parcel ∧
        ∀ named, (EventKind.endDelivery, named) ∉ world.historyOf parcel := by
  rw [cargoOf, List.mem_filter, mem_loadedBy, Bool.not_eq_true', ← Bool.not_eq_true,
    isUnloaded_iff, not_exists]

theorem length_eventsOf :
    (world.eventsOf kind parcel).length =
      (world.historyOf parcel).countP fun entry => entry.1 = kind := by
  rw [eventsOf, historyOf, List.countP_map, List.countP_filter, List.countP_eq_length_filter]
  congr 2
  funext event
  simp [Function.comp]

/-! ### One event more -/

theorem loadedBy_append (written : after.events = world.events ++ [event]) (vehicle : VehicleId) :
    after.loadedBy vehicle = world.loadedBy vehicle ++
      if event.kind = .startPickup ∧ event.vehicle = some vehicle then [event.parcel] else [] := by
  unfold loadedBy
  rw [written, List.filter_append, List.map_append]
  by_cases loads : event.kind = .startPickup ∧ event.vehicle = some vehicle
  · simp [loads]
  · simp [loads]

theorem isUnloaded_append (written : after.events = world.events ++ [event]) (parcel : ParcelId) :
    after.isUnloaded parcel =
      (world.isUnloaded parcel || decide (event.kind = .endDelivery ∧ event.parcel = parcel)) := by
  unfold isUnloaded
  rw [written, List.any_append, List.any_cons, List.any_nil, Bool.or_false]

/-- An event that neither starts a loading nor ends a delivery moves no parcel. -/
theorem cargoOf_of_handled (written : after.events = world.events ++ [event])
    (starts : event.kind ≠ .startPickup) (ends : event.kind ≠ .endDelivery) :
    after.cargoOf vehicle = world.cargoOf vehicle := by
  unfold cargoOf
  rw [loadedBy_append written, if_neg (fun both => starts both.1), List.append_nil]
  congr 1
  funext parcel
  rw [isUnloaded_append written, decide_eq_false (fun both => ends both.1), Bool.or_false]

/-- When a vehicle starts to load a parcel, the parcel is behind all others in its cargo. -/
theorem cargoOf_of_loaded (written : after.events = world.events ++ [event])
    (starts : event.kind = .startPickup) (aboard : world.isUnloaded event.parcel = false) :
    after.cargoOf vehicle = world.cargoOf vehicle ++
      if event.vehicle = some vehicle then [event.parcel] else [] := by
  have unloads : after.isUnloaded = world.isUnloaded := by
    funext parcel
    rw [isUnloaded_append written, starts]
    exact Bool.or_false _
  unfold cargoOf
  rw [loadedBy_append written, unloads, List.filter_append]
  by_cases own : event.vehicle = some vehicle
  · simp [starts, own, aboard]
  · simp [own]

/-- When the delivery of a parcel ends, the parcel leaves every cargo. -/
theorem cargoOf_of_unloaded (written : after.events = world.events ++ [event])
    (ends : event.kind = .endDelivery) :
    after.cargoOf vehicle = (world.cargoOf vehicle).filter (· ≠ event.parcel) := by
  have starts : ¬ (event.kind = .startPickup ∧ event.vehicle = some vehicle) := by
    rintro ⟨starts, -⟩
    rw [ends] at starts
    cases starts
  unfold cargoOf
  rw [loadedBy_append written, if_neg starts, List.append_nil, List.filter_filter]
  congr 1
  funext parcel
  rw [isUnloaded_append written, Bool.not_or, Bool.and_comm]
  by_cases own : event.parcel = parcel
  · simp [ends, own]
  · simp [own, Ne.symm own]

end World

/-! ### Tales -/

/-- What a world lets the vehicle that has a parcel do with it before the delivery ends. -/
def IsHandling (vehicle : VehicleId) (entry : EventKind × Option VehicleId) : Prop :=
  entry = (.endPickup, some vehicle) ∨ entry = (.startDelivery, some vehicle)

/-- What may have happened to a parcel in a state. -/
inductive Tale : Option ParcelState → List (EventKind × Option VehicleId) → Prop where
  | unknown : Tale none []
  | unclaimed {state : ParcelState} (unassigned : state.isUnassigned = true) :
      Tale (some state) [(.newParcel, none)]
  | aboard {vehicle : VehicleId} {handled : List (EventKind × Option VehicleId)}
      (handling : ∀ entry ∈ handled, IsHandling vehicle entry) :
      Tale (some (.inCargo vehicle))
        ((.newParcel, none) :: (.startPickup, some vehicle) :: handled)
  | delivered {vehicle : VehicleId} {handled : List (EventKind × Option VehicleId)}
      (handling : ∀ entry ∈ handled, IsHandling vehicle entry) :
      Tale (some .delivered)
        ((.newParcel, none) :: (.startPickup, some vehicle) ::
          (handled ++ [(.endDelivery, some vehicle)]))

theorem IsHandling.kind_ne {vehicle : VehicleId} {entry : EventKind × Option VehicleId}
    (handling : IsHandling vehicle entry) :
    entry.1 ≠ .newParcel ∧ entry.1 ≠ .startPickup ∧ entry.1 ≠ .endDelivery := by
  rcases handling with rfl | rfl <;> simp

theorem IsHandling.named {vehicle : VehicleId} {entry : EventKind × Option VehicleId}
    (handling : IsHandling vehicle entry) : entry.2 = some vehicle := by
  rcases handling with rfl | rfl <;> rfl

namespace Tale

variable {known : Option ParcelState} {state : ParcelState}
  {history : List (EventKind × Option VehicleId)} {vehicle : VehicleId} {kind : StopKind}

/-! #### How a tale goes on -/

theorem announced (tale : Tale none history) (unassigned : state.isUnassigned = true) :
    Tale (some state) (history ++ [(.newParcel, none)]) := by
  cases tale with
  | unknown => exact .unclaimed unassigned

theorem opened (tale : Tale (some .announced) history) : Tale (some .available) history := by
  cases tale with
  | unclaimed unassigned => exact .unclaimed rfl

theorem handled (tale : Tale (some (.inCargo vehicle)) history)
    {entry : EventKind × Option VehicleId} (handling : IsHandling vehicle entry) :
    Tale (some (.inCargo vehicle)) (history ++ [entry]) := by
  cases tale with
  | unclaimed unassigned => cases unassigned
  | aboard earlier =>
    refine .aboard ?_
    intro other member
    rcases List.mem_append.1 member with before | last
    · exact earlier other before
    · rw [List.mem_singleton.1 last]
      exact handling

theorem started (tale : Tale (some (kind.stateBefore vehicle)) history) :
    Tale (some (.inCargo vehicle)) (history ++ [(kind.startEvent, some vehicle)]) := by
  cases kind with
  | pickup =>
    cases tale with
    | unclaimed unassigned => exact .aboard fun _ member => absurd member List.not_mem_nil
  | delivery => exact tale.handled (.inr rfl)

theorem ended (tale : Tale (some (.inCargo vehicle)) history) :
    Tale (some (kind.stateAfter vehicle)) (history ++ [(kind.endEvent, some vehicle)]) := by
  cases kind with
  | pickup => exact tale.handled (.inl rfl)
  | delivery =>
    cases tale with
    | unclaimed unassigned => cases unassigned
    | aboard handling => exact .delivered handling

/-! #### What a tale tells -/

theorem endDelivery_iff (tale : Tale known history) :
    (∃ named, (EventKind.endDelivery, named) ∈ history) ↔ known = some .delivered := by
  cases tale with
  | unknown => simp
  | unclaimed unassigned =>
    constructor
    · rintro ⟨named, member⟩
      cases List.mem_singleton.1 member
    · intro delivered
      cases delivered
      cases unassigned
  | aboard handling =>
    constructor
    · rintro ⟨named, member⟩
      simp only [List.mem_cons, Prod.mk.injEq, reduceCtorEq, false_and, false_or] at member
      exact absurd rfl (handling _ member).kind_ne.2.2
    · intro delivered
      cases delivered
  | delivered handling => simp

/-- The vehicle that started to load a parcel has it until it is delivered. -/
theorem aboard_iff (tale : Tale known history) :
    known = some (.inCargo vehicle) ↔
      (EventKind.startPickup, some vehicle) ∈ history ∧
        ∀ named, (EventKind.endDelivery, named) ∉ history := by
  rw [← not_exists, tale.endDelivery_iff]
  cases tale with
  | unknown => simp
  | unclaimed unassigned =>
    constructor
    · intro aboard
      cases aboard
      cases unassigned
    · rintro ⟨member, -⟩
      cases List.mem_singleton.1 member
  | @aboard carrier handled handling =>
    have loaded : (EventKind.startPickup, some vehicle) ∈ handled → False :=
      fun member => (handling _ member).kind_ne.2.1 rfl
    simp only [Option.some.injEq, ParcelState.inCargo.injEq, List.mem_cons, Prod.mk.injEq,
      reduceCtorEq, false_and, false_or, true_and, not_false_eq_true, and_true]
    constructor
    · exact fun same => .inl same.symm
    · rintro (same | member)
      · exact same.symm
      · exact (loaded member).elim
  | delivered handling => simp

theorem countP_handled {handled : List (EventKind × Option VehicleId)}
    (handling : ∀ entry ∈ handled, IsHandling vehicle entry) {kind : EventKind}
    (other : kind = .newParcel ∨ kind = .startPickup ∨ kind = .endDelivery) :
    handled.countP (fun entry => entry.1 = kind) = 0 := by
  rw [List.countP_eq_zero]
  intro entry member same
  obtain ⟨new, started, ended⟩ := (handling entry member).kind_ne
  rw [decide_eq_true_eq] at same
  rcases other with rfl | rfl | rfl
  · exact new same
  · exact started same
  · exact ended same

/-- A known parcel has been announced once. -/
theorem countP_newParcel (tale : Tale (some state) history) :
    history.countP (fun entry => entry.1 = .newParcel) = 1 := by
  cases tale with
  | unclaimed unassigned => rfl
  | aboard handling => simp [countP_handled handling]
  | delivered handling => simp [countP_handled handling]

theorem countP_startPickup_le (tale : Tale known history) :
    history.countP (fun entry => entry.1 = .startPickup) ≤ 1 := by
  cases tale with
  | unknown => exact Nat.zero_le 1
  | unclaimed unassigned => exact Nat.zero_le 1
  | aboard handling => simp [countP_handled handling]
  | delivered handling => simp [countP_handled handling]

theorem countP_endDelivery_le (tale : Tale known history) :
    history.countP (fun entry => entry.1 = .endDelivery) ≤ 1 := by
  cases tale with
  | unknown => exact Nat.zero_le 1
  | unclaimed unassigned => exact Nat.zero_le 1
  | aboard handling => simp [countP_handled handling]
  | delivered handling => simp [countP_handled handling]

/-- Only the announcement names no vehicle. -/
theorem named_iff (tale : Tale known history) {entry : EventKind × Option VehicleId}
    (member : entry ∈ history) : entry.2 = none ↔ entry.1 = .newParcel := by
  have handledNamed : ∀ {vehicle}, IsHandling vehicle entry →
      (entry.2 = none ↔ entry.1 = .newParcel) := by
    intro vehicle handling
    rw [handling.named]
    simpa using handling.kind_ne.1
  cases tale with
  | unknown => cases member
  | unclaimed unassigned =>
    rw [List.mem_singleton.1 member]
    simp
  | aboard handling =>
    simp only [List.mem_cons] at member
    rcases member with rfl | rfl | member
    · simp
    · simp
    · exact handledNamed (handling entry member)
  | delivered handling =>
    simp only [List.mem_cons, List.mem_append, List.not_mem_nil, or_false] at member
    rcases member with rfl | rfl | member | rfl
    · simp
    · simp
    · exact handledNamed (handling entry member)
    · simp

/-- A carried parcel: every entry behind its announcement names the carrier, the first of them is
the start of the loading, and nothing stands behind the end of the delivery. -/
theorem between_of_carried {carrier : VehicleId}
    {handled last earlier later : List (EventKind × Option VehicleId)} {kind : EventKind}
    (handling : ∀ entry ∈ handled, IsHandling carrier entry)
    (ends : last = [] ∨ last = [(.endDelivery, some carrier)])
    (whole : (EventKind.newParcel, none) :: (.startPickup, some carrier) :: (handled ++ last) =
      earlier ++ (kind, some vehicle) :: later) :
    (EventKind.startPickup, some vehicle) ∈ earlier ++ [(kind, some vehicle)] ∧
      ∀ named, (EventKind.endDelivery, named) ∉ earlier := by
  rcases earlier with _ | ⟨first, _ | ⟨second, rest⟩⟩
  · simp at whole
  · simp only [List.cons_append, List.nil_append, List.cons.injEq, Prod.mk.injEq,
      Option.some.injEq] at whole
    obtain ⟨rfl, ⟨rfl, rfl⟩, -⟩ := whole
    simp
  · simp only [List.cons_append, List.cons.injEq] at whole
    obtain ⟨rfl, rfl, whole⟩ := whole
    have named : ∀ entry ∈ handled ++ last, entry.2 = some carrier := by
      intro entry member
      rcases List.mem_append.1 member with handledMember | lastMember
      · exact (handling entry handledMember).named
      · rcases ends with rfl | rfl
        · cases lastMember
        · rw [List.mem_singleton.1 lastMember]
    have own : some vehicle = some carrier :=
      named (kind, some vehicle) (whole ▸ List.mem_append_right rest List.mem_cons_self)
    -- An end of the delivery in the rest would stand before the last entry.
    have before : rest <+: handled := by
      rcases ends with rfl | rfl
      · rw [List.append_nil] at whole
        exact ⟨_, whole.symm⟩
      · rcases List.append_eq_append_iff.1 whole with ⟨gap, same, tail⟩ | ⟨gap, same, -⟩
        · cases gap with
          | nil => exact ⟨[], by simpa using same⟩
          | cons => simp at tail
        · exact ⟨gap, same.symm⟩
    refine ⟨by rw [own]; simp, ?_⟩
    intro other member
    simp only [List.mem_cons, Prod.mk.injEq, reduceCtorEq, false_and, false_or] at member
    exact (handling _ (before.subset member)).kind_ne.2.2 rfl

/-- What follows the start of the loading is by the vehicle that loads, and nothing follows the end
of the delivery. -/
theorem between {earlier later : List (EventKind × Option VehicleId)} {kind : EventKind}
    (tale : Tale known (earlier ++ (kind, some vehicle) :: later)) :
    (EventKind.startPickup, some vehicle) ∈ earlier ++ [(kind, some vehicle)] ∧
      ∀ named, (EventKind.endDelivery, named) ∉ earlier := by
  generalize whole : earlier ++ (kind, some vehicle) :: later = history at tale
  cases tale with
  | unknown => simp at whole
  | unclaimed unassigned =>
    rcases earlier with _ | ⟨first, rest⟩
    · simp at whole
    · simp at whole
  | @aboard carrier handled handling =>
    have padded : (EventKind.newParcel, none) :: (.startPickup, some carrier) :: (handled ++ []) =
        earlier ++ (kind, some vehicle) :: later := by
      rw [List.append_nil]
      exact whole.symm
    exact between_of_carried handling (.inl rfl) padded
  | delivered handling => exact between_of_carried handling (.inr rfl) whole.symm

end Tale

/-! ### What is aboard -/

/-- Parcels are found under their own names, and whatever is aboard a vehicle is in its cargo. -/
structure Laden (ledger : Ledger) : Prop where
  named : ∀ parcel known, ledger.parcel? parcel = some known → known.id = parcel
  aboard : ∀ vehicle load, ledger.load? vehicle = some load →
    ∀ parcel ∈ load.aboard, ledger.Has parcel (.inCargo vehicle)

namespace Laden

variable {ledger after : Ledger} {vehicle : VehicleId} {parcel : ParcelId}

theorem named_of_advances (laden : Laden ledger) (advances : ledger.Advances after) :
    ∀ parcel known, after.parcel? parcel = some known → known.id = parcel := by
  intro parcel later found
  obtain ⟨known, foundBefore, same, -⟩ := advances.backward found
  rw [same, laden.named parcel known foundBefore]

/-- The stops of a vehicle are no matter of its cargo. -/
theorem reload (laden : Laden ledger) {change : Load → Load}
    (same : ∀ load, (change load).aboard = load.aboard) : Laden (ledger.reload vehicle change) := by
  refine ⟨laden.named, fun other later found parcel aboard => ?_⟩
  rcases Ledger.load?_reload_cases found with ⟨rfl, load, foundBefore, rfl⟩ | ⟨-, foundBefore⟩
  · rw [same] at aboard
    exact laden.aboard other load foundBefore parcel aboard
  · exact laden.aboard other later foundBefore parcel aboard

theorem begun (laden : Laden ledger) {kind : StopKind} {time : Nat}
    (ready : ledger.Has parcel (kind.stateBefore vehicle)) :
    Laden (ledger.begun vehicle parcel time kind) := by
  refine ⟨laden.named_of_advances (Ledger.advances_begun ready), ?_⟩
  cases kind with
  | delivery => exact laden.aboard
  | pickup =>
    intro other later found stowed held
    -- A parcel that is aboard somewhere is not the one that is available.
    have differs : ∀ load, ledger.load? other = some load → stowed ∈ load.aboard →
        stowed ≠ parcel := by
      intro load foundBefore already same
      have state := (laden.aboard other load foundBefore stowed already).unique (same ▸ ready)
      cases state
    rcases Ledger.load?_reload_cases found with ⟨rfl, load, foundBefore, rfl⟩ | ⟨-, foundBefore⟩
    · rcases Load.mem_stow.1 held with already | rfl
      · exact (laden.aboard other load foundBefore stowed already).setState_other
          (differs load foundBefore already)
      · exact ready.setState_self
    · exact (laden.aboard other later foundBefore stowed held).setState_other
        (differs later foundBefore held)

theorem ended (laden : Laden ledger) {kind : StopKind} {time : Nat}
    (has : ledger.Has parcel (.inCargo vehicle)) :
    Laden (ledger.ended vehicle parcel time kind) := by
  refine ⟨laden.named_of_advances (Ledger.advances_ended has), ?_⟩
  cases kind with
  | pickup => exact laden.aboard
  | delivery =>
    intro other later found held aboard
    rcases Ledger.load?_reload_cases found with
      ⟨rfl, load, foundBefore, rfl⟩ | ⟨differs, foundBefore⟩
    · obtain ⟨already, left⟩ := Load.mem_unload.1 aboard
      exact (laden.aboard other load foundBefore held already).setState_other left
    · have inOther := laden.aboard other later foundBefore held aboard
      refine inOther.setState_other fun same => differs ?_
      -- One parcel would be in the cargo of two vehicles.
      cases inOther.unique (same ▸ has)
      rfl

theorem entered (laden : Laden ledger) {new : Parcel} (unknown : ledger.parcel? new.id = none) :
    Laden (ledger.enter new) := by
  refine ⟨fun other known found => ?_, fun vehicle load found other aboard => ?_⟩
  · by_cases own : other = new.id
    · have same : some new = some known := (if_pos own).symm.trans found
      cases same
      exact own.symm
    · exact laden.named other known ((if_neg own).symm.trans found)
  · obtain ⟨known, foundBefore, state⟩ := laden.aboard vehicle load found other aboard
    refine ⟨known, (if_neg fun own => ?_).trans foundBefore, state⟩
    rw [own, unknown] at foundBefore
    cases foundBefore

theorem opened (laden : Laden ledger) (time : Nat) : Laden (ledger.opened time) := by
  refine ⟨fun other known found => ?_, fun vehicle load found other aboard => ?_⟩
  · obtain ⟨before, foundBefore, rfl⟩ := Option.map_eq_some_iff.1 found
    have same := laden.named other before foundBefore
    split <;> exact same
  · obtain ⟨known, foundBefore, state⟩ := laden.aboard vehicle load found other aboard
    have closed : World.opensBy time known = false := by
      rw [World.opensBy, state]
      rfl
    exact ⟨known, by simp [Ledger.opened, foundBefore, closed], state⟩

theorem record (laden : Laden ledger) (event : Event) : Laden (ledger.record event) :=
  ⟨laden.named, laden.aboard⟩

theorem announced {world : World} (laden : Laden world.ledger) (order : TransportOrder)
    (time : Nat) : Laden (world.announce order time).2.ledger := by
  rw [World.ledger_announce]
  exact (laden.entered (world.nextParcel_unknown order time)).record _

theorem refreshed {world : World} (laden : Laden world.ledger) (time : Nat) :
    Laden (world.refresh time).2.ledger := by
  rw [World.ledger_refresh]
  exact laden.opened time

/-- The parcels of a world are listed by their numbers. -/
theorem increasing_parcels {world : World} (laden : Laden world.ledger) :
    (world.parcels.map Parcel.id).Pairwise fun earlier later => earlier.index < later.index := by
  rw [List.pairwise_iff_getElem]
  intro first second inside insideToo before
  rw [List.getElem_map, List.getElem_map]
  rw [List.length_map] at inside insideToo
  rw [laden.named ⟨first⟩ _ (List.getElem?_eq_getElem inside),
    laden.named ⟨second⟩ _ (List.getElem?_eq_getElem insideToo)]
  exact before

/-- The parcels of a world have different names. -/
theorem nodup_parcels {world : World} (laden : Laden world.ledger) :
    (world.parcels.map Parcel.id).Nodup := by
  refine List.nodup_iff_pairwise_ne.2 (laden.increasing_parcels.imp ?_)
  exact fun before same => Nat.ne_of_lt before (congrArg ParcelId.index same)

end Laden

end LiveFleet
