/-
This file says how far a driver reaches. Whatever it does in a tick, it changes the
world by what its vehicle may ask of it, and in no other way. What survives this
survives the tick.
-/
import LiveFleet.Proofs.Run.Upkeep

namespace LiveFleet

open Attempt

/-- The driver of this vehicle, in a world of which this holds. -/
def Cab.IsWithin {Board : Type} (vehicle : VehicleId) (Holds : World → Prop) (cab : Cab Board) :
    Prop :=
  cab.courier.vehicle = vehicle ∧ Holds cab.world

/-! ### A driver -/

namespace Cab

variable {Board : Type} {vehicle : VehicleId} {Holds : World → Prop}

theorem onWorld_within {change : World.Change} (kept : Maintains Holds change) :
    Maintains (IsWithin vehicle Holds : Cab Board → Prop) (onWorld change) := by
  rintro cab ⟨drives, holds⟩
  have holdsThen := kept cab.world holds
  unfold onWorld within
  generalize change cab.world = outcome at holdsThen
  rcases outcome with ⟨_ | _, world⟩ <;> exact ⟨drives, holdsThen⟩

theorem committedRoute_within (publication : Publication) :
    Maintains (IsWithin vehicle Holds : Cab Board → Prop) (committedRoute publication) := by
  rintro cab ⟨drives, holds⟩
  obtain ⟨courier, world⟩ := Prod.mk.inj (committedRoute_keeps publication cab)
  exact ⟨(congrArg Courier.vehicle courier).trans drives, world ▸ holds⟩

variable (survives : World.Survives vehicle Holds)

include survives

theorem changeVehicle_within {cab : Cab Board} (within : cab.IsWithin vehicle Holds)
    (change : Vehicle → Vehicle) :
    Maintains (IsWithin vehicle Holds : Cab Board → Prop)
      (onWorld (World.changeVehicle cab.courier.vehicle change)) := by
  rw [within.1]
  exact onWorld_within (survives.changeVehicle change)

theorem travel_within (target : Point) (time finish : Nat) :
    Maintains (IsWithin vehicle Holds : Cab Board → Prop) (travel target time finish) := by
  refine maintains_get_bind fun cab within => maintains_bind (fun _ within => within) fun known => ?_
  split
  · exact maintains_pure _
  · split
    · exact maintains_pure _
    · exact maintains_bind (changeVehicle_within survives within _) fun _ =>
        maintains_bind (maintains_of_keeps (keeps_ofExcept _ _)) fun _ => maintains_pure _

theorem popStop_within (parcel : ParcelId) :
    Maintains (IsWithin vehicle Holds : Cab Board → Prop) (popStop parcel) :=
  maintains_get_bind fun _ within => maintains_bind (fun _ within => within) fun _ =>
    changeVehicle_within survives within _

theorem adopt_within (read : ReadBoard Board) :
    Maintains (IsWithin vehicle Holds) (adopt read) := by
  refine maintains_get_bind fun cab within => ?_
  split
  · exact maintains_pure _
  · refine maintains_bind (fun _ within => within) fun latest => ?_
    split
    · exact maintains_pure _
    · split
      · exact maintains_pure _
      · exact maintains_bind (fun _ within => within) fun _ =>
          maintains_bind (committedRoute_within _) fun _ => changeVehicle_within survives within _

theorem endService_within (read : ReadBoard Board) (service : Service) (time : Nat) :
    Maintains (IsWithin vehicle Holds) (endService read service time) := by
  refine maintains_get_bind fun cab within => ?_
  rw [within.1]
  exact maintains_bind (onWorld_within (survives.finish _ _ _)) fun _ =>
    maintains_bind (fun _ within => within) fun _ =>
      maintains_bind (popStop_within survives _) fun _ => adopt_within survives read

theorem startService_within (parcel : ParcelId) (order : TransportOrder) (kind : StopKind)
    (time : Nat) :
    Maintains (IsWithin vehicle Holds : Cab Board → Prop)
      (startService parcel order kind time) := by
  refine maintains_get_bind fun cab within => ?_
  rw [within.1]
  exact maintains_bind (onWorld_within (survives.start _ _ _)) fun _ =>
    maintains_bind (maintains_of_keeps (keeps_ofExcept _ _)) fun _ _ within => within

theorem approach_within (stop : ParcelId) (parcel : Parcel) (kind : StopKind) (time : Nat)
    (lapse : TimeLapse) :
    Maintains (IsWithin vehicle Holds : Cab Board → Prop)
      (approach stop parcel kind time lapse) := by
  refine maintains_get_bind fun cab within =>
    maintains_bind (changeVehicle_within survives within _) fun _ =>
      maintains_bind (travel_within survives _ _ _) fun ⟨arrived, moment⟩ => ?_
  dsimp only
  split
  · exact maintains_pure _
  · split
    · exact maintains_pure _
    · exact maintains_bind (startService_within survives _ _ _ _) fun _ => maintains_pure _

theorem rest_within (mayReturn : Bool) (time : Nat) (lapse : TimeLapse) :
    Maintains (IsWithin vehicle Holds : Cab Board → Prop) (rest mayReturn time lapse) := by
  refine maintains_get_bind fun cab within =>
    maintains_bind (changeVehicle_within survives within _) fun _ => ?_
  split
  · exact maintains_bind (travel_within survives _ _ _) fun _ => maintains_pure _
  · exact maintains_pure _

theorem round_within (read : ReadBoard Board) (lapse : TimeLapse) (mayReturn : Bool)
    (time : Nat) : Maintains (IsWithin vehicle Holds) (round read lapse mayReturn time) := by
  refine maintains_get_bind fun cab _ => ?_
  split
  · split
    · exact maintains_pure _
    · exact maintains_bind (endService_within survives _ _ _) fun _ => maintains_pure _
  · split
    · exact maintains_pure _
    · refine maintains_bind (fun _ within => within) fun known => ?_
      split
      · exact maintains_bind (rest_within survives _ _ _) fun _ => maintains_pure _
      · refine maintains_bind (fun _ within => within) fun parcel => ?_
        split
        · exact approach_within survives _ _ _ _ _
        · exact maintains_bind (popStop_within survives _) fun _ => maintains_pure _

theorem drive_within (read : ReadBoard Board) (lapse : TimeLapse) (mayReturn : Bool)
    (time : Nat) : Maintains (IsWithin vehicle Holds) (drive read lapse mayReturn time) := by
  intro cab within
  induction time, cab using Cab.drive.induct read lapse mayReturn with
  | case1 time cab failure reached gone =>
    have kept := round_within survives read lapse mayReturn time cab within
    rw [gone] at kept
    rw [drive_of_failed gone]
    exact kept
  | case2 time cab reached gone =>
    have kept := round_within survives read lapse mayReturn time cab within
    rw [gone] at kept
    rw [drive_of_over gone]
    exact kept
  | case3 time cab next reached gone inductionHypothesis =>
    have kept := round_within survives read lapse mayReturn time cab within
    rw [gone] at kept
    rw [drive_of_next gone]
    exact inductionHypothesis kept

/-- What survives a driver survives its tick. -/
theorem tick_within (read : ReadBoard Board) (lapse : TimeLapse) (mayReturn : Bool) :
    Maintains (IsWithin vehicle Holds) (tick read lapse mayReturn) :=
  maintains_bind (adopt_within survives read) fun _ =>
    drive_within survives read lapse mayReturn _

end Cab

end LiveFleet
