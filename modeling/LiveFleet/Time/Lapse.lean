/-
This file holds the interval of simulated time that one tick covers. Time is a
whole number of milliseconds since the start of the run; a lapse contains its
start and not its finish, so the lapses of consecutive ticks meet without a gap
and without an overlap.
-/
import LiveFleet.Checked

namespace LiveFleet

/-- How the number of a tick is written. -/
def tickText (tick : Nat) : String := s!"T{tick}"

/-- The half-open interval `[start, finish)` of simulated time that tick `tick` covers. -/
structure TimeLapse where
  tick : Nat
  start : Nat
  finish : Nat
  deriving DecidableEq, Repr

namespace TimeLapse

/-- The lapse between two times, which must not run backwards. -/
def between (tick start finish : Nat) : Except Crash TimeLapse :=
  if start ≤ finish then .ok ⟨tick, start, finish⟩ else .error .backwardLapse

/-- The length of the lapse in milliseconds. -/
def duration (lapse : TimeLapse) : Except Crash Nat :=
  Checked.subtract lapse.finish lapse.start

/-- The lapse contains its start and not its finish. -/
def contains (lapse : TimeLapse) (time : Nat) : Bool :=
  lapse.start ≤ time && time < lapse.finish

/-- How a lapse is written: the tick, then the interval. -/
def text (lapse : TimeLapse) : String :=
  s!"{tickText lapse.tick} [{lapse.start}, {lapse.finish})"

theorem contains_iff (lapse : TimeLapse) (time : Nat) :
    lapse.contains time = true ↔ lapse.start ≤ time ∧ time < lapse.finish := by
  simp [contains]

end TimeLapse

end LiveFleet
