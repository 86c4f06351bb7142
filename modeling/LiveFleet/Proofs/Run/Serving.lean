/-
This file ties the drivers to the world. Every parcel is at a stage of its course,
and a driver with a service under way stands where that stop is. Whatever a round of
driving does keeps this, and writes at most one event, at the right place. A service
whose end lies beyond the range of times is the exception: it has begun in the world,
but its driver does not know of it.
-/
import LiveFleet.Proofs.Run.Rounds

namespace LiveFleet

/-! ### Who serves what -/

section Serves

variable {couriers : List Courier} {index : Nat} {courier changed : Courier}
  {parcel : ParcelId} {vehicle : VehicleId} {kind : StopKind}

theorem serves_set_other (differs : vehicle ≠ ⟨index⟩) :
    Serves (couriers.set index changed) parcel vehicle kind ↔
      Serves couriers parcel vehicle kind := by
  have elsewhere : index ≠ vehicle.index := fun same => differs (congrArg VehicleId.mk same).symm
  unfold Serves
  rw [List.getElem?_set_ne elsewhere]

theorem serves_set_self (found : couriers[index]? = some courier) :
    Serves (couriers.set index changed) parcel ⟨index⟩ kind ↔
      ∃ service, changed.service = some service ∧ service.parcel = parcel ∧
        service.kind = kind := by
  obtain ⟨inside, -⟩ := List.getElem?_eq_some_iff.1 found
  unfold Serves
  rw [List.getElem?_set_self inside]
  constructor
  · rintro ⟨_, service, same, serving⟩
    cases same
    exact ⟨service, serving⟩
  · rintro ⟨service, serving⟩
    exact ⟨changed, service, rfl, serving⟩

theorem serves_self (found : couriers[index]? = some courier) :
    Serves couriers parcel ⟨index⟩ kind ↔
      ∃ service, courier.service = some service ∧ service.parcel = parcel ∧
        service.kind = kind := by
  constructor
  · rintro ⟨_, service, same, serving⟩
    cases found.symm.trans same
    exact ⟨service, serving⟩
  · rintro ⟨service, serving⟩
    exact ⟨courier, service, found, serving⟩

/-- A driver that keeps its service changes nothing. -/
theorem serves_set_same (found : couriers[index]? = some courier)
    (same : changed.service = courier.service) :
    Serves (couriers.set index changed) parcel vehicle kind ↔
      Serves couriers parcel vehicle kind := by
  by_cases own : vehicle = ⟨index⟩
  · rw [own, serves_set_self found, serves_self found, same]
  · exact serves_set_other own

/-- A driver that begins a service serves what it did before, and its stop. -/
theorem serves_set_begun {service : Service} (found : couriers[index]? = some courier)
    (idle : courier.service = none) (begun : changed.service = some service) :
    Serves (couriers.set index changed) parcel vehicle kind ↔
      Serves couriers parcel vehicle kind ∨
        vehicle = ⟨index⟩ ∧ service.parcel = parcel ∧ service.kind = kind := by
  by_cases own : vehicle = ⟨index⟩
  · rw [own, serves_set_self found, serves_self found, idle, begun]
    simp
  · rw [serves_set_other own]
    simp [own]

/-- A driver that ends a service serves nothing. -/
theorem serves_set_ended (found : couriers[index]? = some courier) (idle : changed.service = none) :
    Serves (couriers.set index changed) parcel vehicle kind ↔
      Serves couriers parcel vehicle kind ∧ vehicle ≠ ⟨index⟩ := by
  by_cases own : vehicle = ⟨index⟩
  · rw [own, serves_set_self found, idle]
    simp
  · rw [serves_set_other own]
    simp [own]

end Serves

/-! ### The invariant -/

/-- Every parcel is at a stage of its course, and who serves a stop stands there. -/
structure Orderly (world : World) (couriers : List Courier) : Prop where
  /-- The drivers stand in the order of their vehicles. -/
  named : ∀ (index : Nat) (courier : Courier), couriers[index]? = some courier →
    courier.vehicle = ⟨index⟩
  staged : ∀ parcel, Stage (Serves couriers parcel) (world.stateOf parcel) (world.historyOf parcel)
  stands : ∀ parcel vehicle kind, Serves couriers parcel vehicle kind →
    world.IsAt vehicle parcel kind

namespace Orderly

variable {world middle after : World} {couriers : List Courier} {index : Nat}
  {courier changed : Courier} {event : Event}

/-- Every parcel of an orderly world keeps its course. -/
theorem keepsCourse (orderly : Orderly world couriers) (parcel : ParcelId) :
    world.KeepsCourse parcel :=
  (orderly.staged parcel).law

/-- The drivers stay in the order of their vehicles. -/
theorem named_set (orderly : Orderly world couriers) (found : couriers[index]? = some courier)
    (vehicle : changed.vehicle = courier.vehicle) (other : Nat) (driver : Courier)
    (foundOther : (couriers.set index changed)[other]? = some driver) :
    driver.vehicle = ⟨other⟩ := by
  by_cases own : index = other
  · obtain ⟨inside, -⟩ := List.getElem?_eq_some_iff.1 found
    rw [← own, List.getElem?_set_self inside] at foundOther
    cases foundOther
    rw [vehicle, orderly.named index courier found, own]
  · rw [List.getElem?_set_ne own] at foundOther
    exact orderly.named other driver foundOther

/-- A driver serves the stop of its service. -/
theorem serves (orderly : Orderly world couriers) (found : couriers[index]? = some courier)
    {service : Service} (underWay : courier.service = some service) :
    Serves couriers service.parcel courier.vehicle service.kind := by
  rw [orderly.named index courier found, serves_self found]
  exact ⟨service, underWay, rfl, rfl⟩

/-- A driver without a service serves nothing. -/
theorem not_serves (orderly : Orderly world couriers) (found : couriers[index]? = some courier)
    (idle : courier.service = none) (parcel : ParcelId) (kind : StopKind) :
    ¬ Serves couriers parcel courier.vehicle kind := by
  rw [orderly.named index courier found, serves_self found, idle]
  rintro ⟨service, none, -⟩
  cases none

/-- A driver that writes no event keeps the order. -/
theorem drove (orderly : Orderly world couriers) (found : couriers[index]? = some courier)
    (vehicle : changed.vehicle = courier.vehicle) (service : changed.service = courier.service)
    (others : after.accountBut courier.vehicle = world.accountBut courier.vehicle)
    (waits : courier.service ≠ none → after.account = world.account) :
    Orderly after (couriers.set index changed) := by
  obtain ⟨events, rest⟩ := Prod.mk.inj others
  obtain ⟨parcels, places⟩ := Prod.mk.inj rest
  have same : ∀ parcel, after.parcel? parcel = world.parcel? parcel := fun parcel =>
    congrArg (·[parcel.index]?) parcels
  refine ⟨orderly.named_set found vehicle, ?_, ?_⟩
  · intro parcel
    have stage := orderly.staged parcel
    unfold World.stateOf World.historyOf at stage ⊢
    rw [events, same]
    exact stage.congr fun _ _ => serves_set_same found service
  · intro parcel other kind serves
    rw [serves_set_same found service] at serves
    refine (orderly.stands parcel other kind serves).of_same (by rw [same]) ?_
    by_cases own : other = courier.vehicle
    · have busy : courier.service ≠ none := fun idle => by
        rw [own] at serves
        exact orderly.not_serves found idle parcel kind serves
      exact congrFun (Prod.mk.inj (Prod.mk.inj (waits busy)).2).2 other
    · have place := congrFun places other
      rwa [if_neg own, if_neg own] at place

/-- On its way to a stop an idle driver keeps the order. -/
theorem travelled (orderly : Orderly world couriers) (found : couriers[index]? = some courier)
    (idle : courier.service = none)
    (others : middle.accountBut courier.vehicle = world.accountBut courier.vehicle) :
    Orderly middle couriers := by
  have kept := orderly.drove found rfl rfl others fun busy => absurd idle busy
  obtain ⟨inside, there⟩ := List.getElem?_eq_some_iff.1 found
  rw [← there, List.set_getElem_self] at kept
  exact kept

/-- A driver that begins to serve a stop at which its vehicle stands keeps the order. -/
theorem began (orderly : Orderly world couriers) (found : couriers[index]? = some courier)
    (idle : courier.service = none) (vehicle : changed.vehicle = courier.vehicle)
    {service : Service} (begun : changed.service = some service)
    (ready : world.IsIn service.parcel (service.kind.stateBefore courier.vehicle))
    (arrived : world.IsAt courier.vehicle service.parcel service.kind) {time : Nat}
    (marks : world.Marks ⟨service.kind.startEvent, time, service.parcel, some courier.vehicle⟩
      (.inCargo courier.vehicle) after) :
    Orderly after (couriers.set index changed) := by
  have name := orderly.named index courier found
  refine ⟨orderly.named_set found vehicle, ?_, ?_⟩
  · intro parcel
    have stage := orderly.staged parcel
    rw [World.historyOf_append marks.events, marks.stateOf]
    by_cases about : service.parcel = parcel
    · subst about
      obtain ⟨known, foundParcel, state⟩ := ready
      have before : world.stateOf service.parcel =
          some (service.kind.stateBefore courier.vehicle) := by
        rw [World.stateOf, foundParcel, Option.map_some, state]
      rw [before] at stage ⊢
      rw [if_pos rfl, if_pos rfl]
      refine stage.started (orderly.not_serves found idle service.parcel) ?_
      intro other kind
      rw [serves_set_begun found idle begun, name]
      simp [eq_comm]
    · rw [if_neg (Ne.symm about), if_neg about, List.append_nil]
      refine stage.congr ?_
      intro other kind
      rw [serves_set_begun found idle begun]
      simp [about]
  · intro parcel other kind serves
    rcases (serves_set_begun found idle begun).1 serves with serving | ⟨own, rfl, rfl⟩
    · exact marks.isAt (orderly.stands parcel other kind serving)
    · rw [own, ← name]
      exact marks.isAt arrived

/-- A driver that ends its service keeps the order. -/
theorem ended (orderly : Orderly world couriers) (found : couriers[index]? = some courier)
    (vehicle : changed.vehicle = courier.vehicle) {service : Service}
    (underWay : courier.service = some service) (idle : changed.service = none) {time : Nat}
    (marks : world.Marks ⟨service.kind.endEvent, time, service.parcel, some courier.vehicle⟩
      (service.kind.stateAfter courier.vehicle) after) :
    Orderly after (couriers.set index changed) := by
  have name := orderly.named index courier found
  have serving := orderly.serves found underWay
  refine ⟨orderly.named_set found vehicle, ?_, ?_⟩
  · intro parcel
    have stage := orderly.staged parcel
    rw [World.historyOf_append marks.events, marks.stateOf]
    by_cases about : service.parcel = parcel
    · subst about
      obtain ⟨known, place, foundParcel, -⟩ := orderly.stands _ _ _ serving
      rw [if_pos rfl, if_pos rfl, World.stateOf, foundParcel, Option.map_some, Option.map_some]
      refine stage.ended serving ?_
      intro other kind
      rw [serves_set_ended found idle, name]
    · rw [if_neg (Ne.symm about), if_neg about, List.append_nil]
      refine stage.congr ?_
      intro other kind
      rw [serves_set_ended found idle]
      refine and_iff_left_of_imp fun serves own => about ?_
      rw [own, serves_self found] at serves
      obtain ⟨only, same, isAbout, -⟩ := serves
      cases underWay.symm.trans same
      exact isAbout
  · intro parcel other kind serves
    exact marks.isAt (orderly.stands parcel other kind ((serves_set_ended found idle).1 serves).1)

/-- A round keeps the order and writes at most one event, at the right place, unless it breaks off
and loses a service. Even then the world is as if the driver had the service. -/
theorem round {Board : Type} {cab reached : Cab Board}
    {result : Except (Failure WorldError) (Option Nat)} (orderly : Orderly cab.world couriers)
    (found : couriers[index]? = some cab.courier) (effect : cab.RoundEffect result reached) :
    cab.world.Notes reached.world ∧
      (Orderly reached.world (couriers.set index reached.courier) ∨
        result = .error (.crashed .addOverflow) ∧
          HasLostService reached.world (couriers.set index reached.courier) ∧
            ∃ drivers, Orderly reached.world drivers) := by
  cases effect with
  | drove vehicle service others waits =>
    exact ⟨.inl (Prod.mk.inj others).1, .inl (orderly.drove found vehicle service others waits)⟩
  | began idle others ready arrived marks vehicle service =>
    have near := orderly.travelled found idle others
    have notes : cab.world.Notes reached.world :=
      marks.notes (Prod.mk.inj others).1 rfl (StopKind.stop?_startEvent _) arrived
    exact ⟨notes, .inl (near.began found idle vehicle service ready arrived marks)⟩
  | @broke _ middle parcel kind time idle others ready arrived marks courier =>
    have near := orderly.travelled found idle others
    have notes : cab.world.Notes reached.world :=
      marks.notes (Prod.mk.inj others).1 rfl (StopKind.stop?_startEvent kind) arrived
    -- The order is that of a driver with the service, whenever it would have ended.
    have begun : Orderly reached.world
        (couriers.set index { cab.courier with service := some ⟨parcel, kind, 0⟩ }) :=
      near.began found idle rfl rfl ready arrived marks
    refine ⟨notes, .inr ⟨rfl, ⟨parcel, cab.courier.vehicle, kind, ?_, ?_⟩, _, begun⟩⟩
    · rw [World.historyOf_append marks.events, if_pos rfl, List.getLast?_concat]
    · have still : reached.courier.service = none := by rw [courier, idle]
      rw [orderly.named index cab.courier found, serves_set_ended found still]
      exact fun serving => serving.2 rfl
  | ended underWay marks vehicle cleared =>
    have serving := orderly.serves found underWay
    have notes : cab.world.Notes reached.world :=
      marks.notes rfl rfl (StopKind.stop?_endEvent _) (orderly.stands _ _ _ serving)
    exact ⟨notes, .inl (orderly.ended found vehicle underWay cleared marks)⟩

end Orderly

end LiveFleet
