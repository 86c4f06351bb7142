/-
This file holds the time windows in which a parcel may be picked up or
delivered. A window contains the time at which it opens and not the time at
which it closes, so a window that closes when it opens contains no time at all.
A window that would close before it opens is not made.
-/
import LiveFleet.Checked

namespace LiveFleet

/-- Why a time value is not accepted. -/
inductive TimeError where
  | zeroTickLength
  | invalidWindow (opens closes : Nat)
  deriving DecidableEq, Repr

/-- The text of a time error. -/
def TimeError.message : TimeError → String
  | zeroTickLength => "configuration error: tick length must be at least 1 ms"
  | invalidWindow opens closes => s!"invalid time window [{opens}, {closes})"

/-- The interval `[opens, closes)` in which a stop may be served. -/
structure TimeWindow where
  opens : Nat
  closes : Nat
  deriving DecidableEq, Repr

namespace TimeWindow

/-- The window that is always open. -/
def always : TimeWindow := ⟨0, Checked.largest⟩

instance : Inhabited TimeWindow := ⟨always⟩

/-- The window between two times, refused when it would close before it opens. -/
def make (opens closes : Nat) : Except TimeError TimeWindow :=
  if opens ≤ closes then .ok ⟨opens, closes⟩ else .error (.invalidWindow opens closes)

/-- The time lies in the window. -/
def contains (window : TimeWindow) (time : Nat) : Bool :=
  window.opens ≤ time && time < window.closes

/-- The window has opened by the given time, and may have closed again. -/
def hasBegun (window : TimeWindow) (time : Nat) : Bool := window.opens ≤ time

theorem contains_iff (window : TimeWindow) (time : Nat) :
    window.contains time = true ↔ window.opens ≤ time ∧ time < window.closes := by
  simp [contains]

theorem hasBegun_iff (window : TimeWindow) (time : Nat) :
    window.hasBegun time = true ↔ window.opens ≤ time := by
  simp [hasBegun]

theorem make_eq_ok_iff {opens closes : Nat} {window : TimeWindow} :
    make opens closes = .ok window ↔ window = ⟨opens, closes⟩ ∧ opens ≤ closes := by
  unfold make
  split <;> rename_i ordered <;> simp [ordered, eq_comm]

end TimeWindow

end LiveFleet
