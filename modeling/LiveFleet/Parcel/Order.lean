/-
This file holds the transport order behind a parcel: from where to where, in
which windows, how long loading and unloading take, and when the order becomes
known. An order is drafted step by step, each step replacing what it sets, and
accepted at the end; an order that becomes known after its pickup window has
closed is refused.
-/
import LiveFleet.Geometry
import LiveFleet.Time.Window

namespace LiveFleet

/-- What is asked of the fleet for one parcel. Times are in milliseconds. -/
structure TransportOrder where
  pickupPlace : Point
  deliveryPlace : Point
  pickupWindow : TimeWindow
  deliveryWindow : TimeWindow
  pickupDuration : Nat
  deliveryDuration : Nat
  announceTime : Nat

/-- Why a drafted order is refused. -/
inductive OrderError where
  | announcedTooLate (announceTime windowEnd : Nat)
  deriving DecidableEq, Repr

/-- The text of an order error. -/
def OrderError.message : OrderError → String
  | announcedTooLate announceTime windowEnd =>
    s!"configuration error: announce time {announceTime} is after the pickup window end {windowEnd}"

/-- An order that is still being written. -/
structure OrderDraft where
  order : TransportOrder

namespace OrderDraft

/-- A draft between two places: known from the start, served at any time and in no time. -/
def between (source target : Point) : OrderDraft :=
  ⟨{ pickupPlace := source
     deliveryPlace := target
     pickupWindow := .always
     deliveryWindow := .always
     pickupDuration := 0
     deliveryDuration := 0
     announceTime := 0 }⟩

/-- One step of drafting an order. -/
inductive Step where
  | announceTime (time : Nat)
  | pickupWindow (window : TimeWindow)
  | deliveryWindow (window : TimeWindow)
  | serviceDuration (duration : Nat)
  | pickupDuration (duration : Nat)
  | deliveryDuration (duration : Nat)

/-- Set what the step names. A service duration is that of both stops. -/
def apply (draft : OrderDraft) : Step → OrderDraft
  | .announceTime time => ⟨{ draft.order with announceTime := time }⟩
  | .pickupWindow window => ⟨{ draft.order with pickupWindow := window }⟩
  | .deliveryWindow window => ⟨{ draft.order with deliveryWindow := window }⟩
  | .serviceDuration duration =>
    ⟨{ draft.order with pickupDuration := duration, deliveryDuration := duration }⟩
  | .pickupDuration duration => ⟨{ draft.order with pickupDuration := duration }⟩
  | .deliveryDuration duration => ⟨{ draft.order with deliveryDuration := duration }⟩

/-- Carry out several steps, in order. -/
def applyAll (draft : OrderDraft) (steps : List Step) : OrderDraft := steps.foldl apply draft

/-- Accept the draft, unless the order becomes known after its pickup window has closed. -/
def accept (draft : OrderDraft) : Except OrderError TransportOrder :=
  if draft.order.announceTime ≤ draft.order.pickupWindow.closes then .ok draft.order
  else .error (.announcedTooLate draft.order.announceTime draft.order.pickupWindow.closes)

end OrderDraft

end LiveFleet
