/-
This file proves that a driver does nothing to the board on which schedules are
published but look at it. What looking keeps true of a board is therefore true of
it after any step of a driver, and for the desk of a run this means that a driver
changes it only by the moves that the worker makes when the driver looks.
-/
import LiveFleet.Proofs.Attempt
import LiveFleet.Proofs.Desk.Action
import LiveFleet.Run.Fleet

namespace LiveFleet

open Attempt

/-! ### Steps that do not look at the board -/

namespace Cab

variable {Board : Type}

theorem onWorld_board (change : World.Change) :
    Keeps (fun cab : Cab Board => cab.board) (onWorld change) := by
  intro cab
  unfold onWorld within
  split <;> rfl

theorem popStop_board (parcel : ParcelId) :
    Keeps (fun cab : Cab Board => cab.board) (popStop parcel) :=
  keeps_bind keeps_get fun _ => keeps_bind (lookUp_keeps _ _) fun _ => onWorld_board _

theorem committedRoute_board (publication : Publication) :
    Keeps (fun cab : Cab Board => cab.board) (committedRoute publication) := by
  intro cab
  unfold committedRoute
  dsimp only
  split
  · rfl
  · split <;> rfl

theorem travel_board (target : Point) (time finish : Nat) :
    Keeps (fun cab : Cab Board => cab.board) (travel target time finish) := by
  refine keeps_bind keeps_get fun cab => keeps_bind (lookUp_keeps _ _) fun vehicle => ?_
  split
  · exact keeps_pure _
  · split
    · exact keeps_pure _
    · exact keeps_bind (onWorld_board _) fun _ =>
        keeps_bind (keeps_ofExcept _ _) fun _ => keeps_pure _

theorem startService_board (parcel : ParcelId) (order : TransportOrder) (kind : StopKind)
    (time : Nat) : Keeps (fun cab : Cab Board => cab.board) (startService parcel order kind time) :=
  keeps_bind keeps_get fun _ => keeps_bind (onWorld_board _) fun _ =>
    keeps_bind (keeps_ofExcept _ _) fun _ => keeps_modify fun _ => rfl

theorem approach_board (stop : ParcelId) (parcel : Parcel) (kind : StopKind) (time : Nat)
    (lapse : TimeLapse) :
    Keeps (fun cab : Cab Board => cab.board) (approach stop parcel kind time lapse) := by
  refine keeps_bind keeps_get fun cab => keeps_bind (onWorld_board _) fun _ =>
    keeps_bind (travel_board _ _ _) fun reached => ?_
  dsimp only
  split
  · exact keeps_pure _
  · split
    · exact keeps_pure _
    · exact keeps_bind (startService_board _ _ _ _) fun _ => keeps_pure _

theorem rest_board (mayReturn : Bool) (time : Nat) (lapse : TimeLapse) :
    Keeps (fun cab : Cab Board => cab.board) (rest mayReturn time lapse) := by
  refine keeps_bind keeps_get fun cab => keeps_bind (onWorld_board _) fun _ => ?_
  split
  · exact keeps_bind (travel_board _ _ _) fun _ => keeps_pure _
  · exact keeps_pure _

/-! ### Steps that look at the board -/

section Looking

variable {read : ReadBoard Board} {Holds : Board → Prop}
  (looking : ∀ board, Holds board → Holds (read board).2)

include looking

theorem adopt_board : Maintains (fun cab => Holds cab.board) (adopt read) := by
  refine maintains_bind maintains_get fun cab => ?_
  split
  · exact maintains_pure _
  · refine maintains_bind (fun cab holds => looking cab.board holds) fun latest => ?_
    split
    · exact maintains_pure _
    · split
      · exact maintains_pure _
      · exact maintains_bind (fun _ holds => holds) fun _ =>
          maintains_bind (maintains_of_keeps (committedRoute_board _)) fun _ =>
            maintains_of_keeps (onWorld_board _)

theorem endService_board (service : Service) (time : Nat) :
    Maintains (fun cab => Holds cab.board) (endService read service time) :=
  maintains_bind maintains_get fun _ =>
    maintains_bind (maintains_of_keeps (onWorld_board _)) fun _ =>
      maintains_bind (fun _ holds => holds) fun _ =>
        maintains_bind (maintains_of_keeps (popStop_board _)) fun _ => adopt_board looking

theorem round_board (lapse : TimeLapse) (mayReturn : Bool) (time : Nat) :
    Maintains (fun cab => Holds cab.board) (round read lapse mayReturn time) := by
  refine maintains_bind maintains_get fun cab => ?_
  split
  · split
    · exact maintains_pure _
    · exact maintains_bind (endService_board looking _ _) fun _ => maintains_pure _
  · split
    · exact maintains_pure _
    · refine maintains_bind (maintains_of_keeps (lookUp_keeps _ _)) fun vehicle => ?_
      split
      · exact maintains_bind (maintains_of_keeps (rest_board _ _ _)) fun _ => maintains_pure _
      · refine maintains_bind (maintains_of_keeps (lookUp_keeps _ _)) fun parcel => ?_
        split
        · exact maintains_of_keeps (approach_board _ _ _ _ _)
        · exact maintains_bind (maintains_of_keeps (popStop_board _)) fun _ => maintains_pure _

end Looking

end Cab

/-! ### The desk of a run -/

namespace Fleet

variable {Surroundings : Type}

/-- Looking at the published schedule lets the worker move. -/
theorem readBoard_desk (worker : Worker Surroundings) (desk : Desk)
    (board : Desk × Surroundings) (reached : desk.LeadsTo board.1) :
    desk.LeadsTo (readBoard worker board).2.1 :=
  reached.trans (.moves board.1 (worker.turn board.2 board.1).2)

end Fleet

end LiveFleet
