/-
This file says what becomes of an order that is drafted. Every field has the value
that the last step for it has set, or else its default; a step may be for two
fields, and a field may be set by steps of two kinds. An order is refused if it is
announced after its pickup window has closed. A window does not contain the time at
which it closes, but the draft is compared with that time as if it did. So besides
the orders that can be served, those are accepted whose window closes at the very
time at which they are known and the window has opened, and no others.
-/
import LiveFleet.Parcel.Order

namespace LiveFleet

/-! ### Orders that can be served -/

attribute [ext] TransportOrder

namespace TransportOrder

/-- There is a time, not before the announcement, that lies in the pickup window. -/
def CanBeServed (order : TransportOrder) : Prop :=
  ∃ time, order.announceTime ≤ time ∧ order.pickupWindow.contains time = true

/-- The pickup window closes at the very time from which on the order is known and the window has
opened. -/
def ClosesAtOnce (order : TransportOrder) : Prop :=
  max order.announceTime order.pickupWindow.opens = order.pickupWindow.closes

variable {order : TransportOrder}

/-- The first time that comes into question decides. -/
theorem canBeServed_iff :
    order.CanBeServed ↔
      max order.announceTime order.pickupWindow.opens < order.pickupWindow.closes := by
  constructor
  · rintro ⟨time, known, inside⟩
    obtain ⟨opened, notClosed⟩ := (TimeWindow.contains_iff _ _).1 inside
    exact Nat.lt_of_le_of_lt (Nat.max_le.2 ⟨known, opened⟩) notClosed
  · intro early
    refine ⟨_, Nat.le_max_left _ _, (TimeWindow.contains_iff _ _).2 ⟨Nat.le_max_right _ _, early⟩⟩

instance : Decidable order.CanBeServed := decidable_of_iff _ canBeServed_iff.symm

theorem ClosesAtOnce.not_canBeServed (closes : order.ClosesAtOnce) : ¬ order.CanBeServed := by
  rw [canBeServed_iff, closes]
  exact Nat.lt_irrefl _

/-- An order with a window that does not close before it opens is announced in time, the end of the
window included, exactly if it can be served or its window closes at once. -/
theorem announceTime_le_iff (ordered : order.pickupWindow.opens ≤ order.pickupWindow.closes) :
    order.announceTime ≤ order.pickupWindow.closes ↔ order.CanBeServed ∨ order.ClosesAtOnce := by
  rw [canBeServed_iff, ClosesAtOnce]
  omega

end TransportOrder

namespace OrderDraft

/-! ### The last step for a field -/

section

variable {Value : Type} {setting? : Step → Option Value}

/-- The value that is set by the last step that sets one. -/
def lastSetting? (setting? : Step → Option Value) (steps : List Step) : Option Value :=
  steps.reverse.findSome? setting?

/-- A first step counts only if no later one sets a value. -/
theorem lastSetting?_cons (step : Step) (steps : List Step) :
    lastSetting? setting? (step :: steps) = (lastSetting? setting? steps).or (setting? step) := by
  rw [lastSetting?, List.reverse_cons, List.findSome?_append, List.findSome?_singleton]
  rfl

/-- A value that was set last was set by a step. -/
theorem exists_of_lastSetting? {steps : List Step} {value : Value}
    (last : lastSetting? setting? steps = some value) :
    ∃ step ∈ steps, setting? step = some value := by
  obtain ⟨step, member, sets⟩ := List.exists_of_findSome?_eq_some last
  exact ⟨step, List.mem_reverse.1 member, sets⟩

end

/-- A field of an order: where it is read, and what the steps set it to. A step that sets nothing
leaves the field as it was. -/
structure Field (Value : Type) where
  read : TransportOrder → Value
  setting? : Step → Option Value
  read_apply : ∀ draft step,
    read (apply draft step).order = (setting? step).getD (read draft.order)

namespace Field

/-- No step sets the places. -/
def pickupPlace : Field Point where
  read := TransportOrder.pickupPlace
  setting? _ := none
  read_apply _ step := by cases step <;> rfl

def deliveryPlace : Field Point where
  read := TransportOrder.deliveryPlace
  setting? _ := none
  read_apply _ step := by cases step <;> rfl

def pickupWindow : Field TimeWindow where
  read := TransportOrder.pickupWindow
  setting?
    | .pickupWindow window => some window
    | _ => none
  read_apply _ step := by cases step <;> rfl

def deliveryWindow : Field TimeWindow where
  read := TransportOrder.deliveryWindow
  setting?
    | .deliveryWindow window => some window
    | _ => none
  read_apply _ step := by cases step <;> rfl

/-- The duration of the loading has a step of its own, and one together with the unloading. -/
def pickupDuration : Field Nat where
  read := TransportOrder.pickupDuration
  setting?
    | .pickupDuration duration | .serviceDuration duration => some duration
    | _ => none
  read_apply _ step := by cases step <;> rfl

def deliveryDuration : Field Nat where
  read := TransportOrder.deliveryDuration
  setting?
    | .deliveryDuration duration | .serviceDuration duration => some duration
    | _ => none
  read_apply _ step := by cases step <;> rfl

def announceTime : Field Nat where
  read := TransportOrder.announceTime
  setting?
    | .announceTime time => some time
    | _ => none
  read_apply _ step := by cases step <;> rfl

variable {Value : Type}

/-- A field ends up as it was set last, and as it was if no step has set it. -/
theorem read_applyAll (field : Field Value) (draft : OrderDraft) (steps : List Step) :
    field.read (draft.applyAll steps).order =
      (lastSetting? field.setting? steps).getD (field.read draft.order) := by
  induction steps generalizing draft with
  | nil => rfl
  | cons step steps inductionHypothesis =>
    show field.read ((draft.apply step).applyAll steps).order = _
    rw [inductionHypothesis, field.read_apply, lastSetting?_cons]
    cases lastSetting? field.setting? steps <;> rfl

theorem read_applyAll_of_unset (field : Field Value) (draft : OrderDraft) {steps : List Step}
    (unset : ∀ step ∈ steps, field.setting? step = none) :
    field.read (draft.applyAll steps).order = field.read draft.order := by
  have last : lastSetting? field.setting? steps = none :=
    List.findSome?_eq_none_iff.2 fun step member => unset step (List.mem_reverse.1 member)
  rw [read_applyAll, last]
  rfl

end Field

/-! ### What a draft is asked to be -/

/-- The order between two places in which every field is as it was set last. By default the order is
known from the start, and its stops are served at any time and in no time. -/
def asked (source target : Point) (steps : List Step) : TransportOrder where
  pickupPlace := source
  deliveryPlace := target
  pickupWindow := (lastSetting? Field.pickupWindow.setting? steps).getD .always
  deliveryWindow := (lastSetting? Field.deliveryWindow.setting? steps).getD .always
  pickupDuration := (lastSetting? Field.pickupDuration.setting? steps).getD 0
  deliveryDuration := (lastSetting? Field.deliveryDuration.setting? steps).getD 0
  announceTime := (lastSetting? Field.announceTime.setting? steps).getD 0

/-- The order of a draft is what it is asked to be. -/
theorem order_applyAll (source target : Point) (steps : List Step) :
    ((between source target).applyAll steps).order = asked source target steps :=
  let draft := between source target
  TransportOrder.ext
    (Field.pickupPlace.read_applyAll_of_unset draft fun _ _ => rfl)
    (Field.deliveryPlace.read_applyAll_of_unset draft fun _ _ => rfl)
    (Field.pickupWindow.read_applyAll draft steps)
    (Field.deliveryWindow.read_applyAll draft steps)
    (Field.pickupDuration.read_applyAll draft steps)
    (Field.deliveryDuration.read_applyAll draft steps)
    (Field.announceTime.read_applyAll draft steps)

/-- If every pickup window that was set has been made, that of the order does not close before it
opens. -/
theorem asked_pickupWindow_ordered {source target : Point} {steps : List Step}
    (made : ∀ window, .pickupWindow window ∈ steps →
      ∃ opens closes, TimeWindow.make opens closes = .ok window) :
    (asked source target steps).pickupWindow.opens ≤
      (asked source target steps).pickupWindow.closes := by
  unfold asked
  dsimp only
  cases last : lastSetting? Field.pickupWindow.setting? steps with
  | none => exact Nat.zero_le _
  | some window =>
    obtain ⟨step, member, sets⟩ := exists_of_lastSetting? last
    cases step with
    | pickupWindow set =>
      cases sets
      obtain ⟨opens, closes, accepted⟩ := made window member
      obtain ⟨rfl, ordered⟩ := TimeWindow.make_eq_ok_iff.1 accepted
      exact ordered
    | announceTime | deliveryWindow | serviceDuration | pickupDuration | deliveryDuration =>
      cases sets

/-! ### Acceptance -/

theorem accept_eq_ok_iff {draft : OrderDraft} {order : TransportOrder} :
    draft.accept = .ok order ↔
      order = draft.order ∧ draft.order.announceTime ≤ draft.order.pickupWindow.closes := by
  unfold accept
  split <;> rename_i inTime <;> simp [inTime, eq_comm]

/-- Whatever steps draft an order, in any order and however often, if every pickup window among them
was made: what is accepted is the order that was asked for, every field as it was set last. It is
accepted exactly if it can be served or its window closes at once, and in the second case it cannot
be served. -/
theorem accepted_orders_are_as_asked (source target : Point) (steps : List Step)
    (made : ∀ window, .pickupWindow window ∈ steps →
      ∃ opens closes, TimeWindow.make opens closes = .ok window) :
    let draft := (between source target).applyAll steps
    let order := asked source target steps
    (∀ accepted, draft.accept = .ok accepted → accepted = order) ∧
      ((∃ accepted, draft.accept = .ok accepted) ↔ order.CanBeServed ∨ order.ClosesAtOnce) ∧
      (order.ClosesAtOnce → ¬ order.CanBeServed) := by
  intro draft order
  have drafted : draft.order = order := order_applyAll source target steps
  have inTime : order.announceTime ≤ order.pickupWindow.closes ↔
      order.CanBeServed ∨ order.ClosesAtOnce :=
    TransportOrder.announceTime_le_iff (asked_pickupWindow_ordered made)
  refine ⟨fun accepted answered => ?_, ?_, fun closes => closes.not_canBeServed⟩
  · exact (accept_eq_ok_iff.1 answered).1.trans drafted
  · rw [← inTime, ← drafted]
    constructor
    · rintro ⟨accepted, answered⟩
      exact (accept_eq_ok_iff.1 answered).2
    · exact fun notLate => ⟨draft.order, accept_eq_ok_iff.2 ⟨rfl, notLate⟩⟩

/-- A draft that is revised: the announcement is too late for the first window and not for the
second, and both durations are set in two ways. -/
theorem accepted_orders_are_as_asked_revised :
    let steps : List Step := [.announceTime 600, .pickupWindow ⟨0, 500⟩, .pickupDuration 8,
      .serviceDuration 7, .deliveryDuration 9, .pickupWindow ⟨500, 700⟩]
    (∀ window, .pickupWindow window ∈ steps →
        ∃ opens closes, TimeWindow.make opens closes = .ok window) ∧
      (asked .origin .origin steps).CanBeServed ∧
      ∃ accepted, ((between .origin .origin).applyAll steps).accept = .ok accepted ∧
        accepted.announceTime = 600 ∧ accepted.pickupWindow = ⟨500, 700⟩ ∧
        accepted.pickupDuration = 7 ∧ accepted.deliveryDuration = 9 ∧
        accepted.deliveryWindow = .always := by
  intro steps
  have made : ∀ window, .pickupWindow window ∈ steps →
      ∃ opens closes, TimeWindow.make opens closes = .ok window := by
    intro window member
    have listed : window = ⟨0, 500⟩ ∨ window = ⟨500, 700⟩ := by simpa [steps] using member
    rcases listed with rfl | rfl
    · exact ⟨0, 500, rfl⟩
    · exact ⟨500, 700, rfl⟩
  have servable : (asked .origin .origin steps).CanBeServed := by decide
  obtain ⟨kept, decided, -⟩ := accepted_orders_are_as_asked .origin .origin steps made
  obtain ⟨accepted, answered⟩ := decided.2 (.inl servable)
  obtain rfl := kept accepted answered
  exact ⟨made, servable, _, answered, rfl, rfl, rfl, rfl, rfl⟩

/-- An order that is announced when its pickup window closes is accepted, and cannot be served. -/
theorem order_announced_at_closing_is_accepted :
    TimeWindow.make 0 500 = .ok ⟨0, 500⟩ ∧
      ∃ accepted, ((between .origin .origin).applyAll
          [.pickupWindow ⟨0, 500⟩, .announceTime 500]).accept = .ok accepted ∧
        accepted.announceTime = 500 ∧ accepted.pickupWindow = ⟨0, 500⟩ ∧
        ¬ ∃ time, accepted.announceTime ≤ time ∧ accepted.pickupWindow.contains time = true := by
  refine ⟨rfl, _, rfl, rfl, rfl, ?_⟩
  exact TransportOrder.ClosesAtOnce.not_canBeServed rfl

end OrderDraft

end LiveFleet
