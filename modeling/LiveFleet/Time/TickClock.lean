/-
This file holds the clock that turns a number of ticks into simulated time.
Tick `n` of a clock with tick length `l` covers the lapse from `n * l` to
`(n + 1) * l`. The clock counts whole ticks, so no rounding adds up over a run;
a time that leaves the range of times crashes.
-/
import LiveFleet.Time.Lapse
import LiveFleet.Time.Window

namespace LiveFleet

/-- A count of ticks of one length. -/
structure TickClock where
  tickLength : Nat
  tick : Nat
  tickLength_pos : 0 < tickLength
  deriving DecidableEq

namespace TickClock

/-- The clock before its first tick, refused when a tick would take no time. -/
def start (tickLength : Nat) : Except TimeError TickClock :=
  if positive : 0 < tickLength then .ok ⟨tickLength, 0, positive⟩
  else .error .zeroTickLength

/-- The simulated time at which the current tick starts. -/
def time (clock : TickClock) : Except Crash Nat :=
  Checked.multiply clock.tick clock.tickLength

/-- The lapse of the current tick. -/
def lapse (clock : TickClock) : Except Crash TimeLapse := do
  let start ← clock.time
  let finish ← Checked.add start clock.tickLength
  TimeLapse.between clock.tick start finish

/-- The clock one tick later. -/
def advance (clock : TickClock) : Except Crash TickClock := do
  let next ← Checked.add clock.tick 1
  return { clock with tick := next }

/-- The clock the given number of ticks later. -/
def advanceBy (clock : TickClock) : Nat → Except Crash TickClock
  | 0 => .ok clock
  | ticks + 1 => do (← clock.advance).advanceBy ticks

/-- How a clock is written: the tick, then the time at its start. -/
def text (clock : TickClock) : Except Crash String := do
  let now ← clock.time
  return s!"{tickText clock.tick} ({now} ms)"

/-- A lapse runs from one multiple of the tick length to the next. -/
theorem lapse_eq_ok_iff {clock : TickClock} {lapse : TimeLapse} :
    clock.lapse = .ok lapse ↔
      lapse = ⟨clock.tick, clock.tick * clock.tickLength, (clock.tick + 1) * clock.tickLength⟩ ∧
        (clock.tick + 1) * clock.tickLength < Checked.range := by
  have product : (clock.tick + 1) * clock.tickLength =
      clock.tick * clock.tickLength + clock.tickLength := Nat.succ_mul _ _
  rw [product]
  unfold TickClock.lapse time Checked.multiply Checked.add
  by_cases first : clock.tick * clock.tickLength < Checked.range
  · by_cases second : clock.tick * clock.tickLength + clock.tickLength < Checked.range
    · simp [first, second, bind, Except.bind, TimeLapse.between, eq_comm]
    · simp [first, second, bind, Except.bind]
  · have second : ¬ clock.tick * clock.tickLength + clock.tickLength < Checked.range := by omega
    simp [first, second, bind, Except.bind]

theorem advance_eq_ok_iff {clock next : TickClock} :
    clock.advance = .ok next ↔
      next = { clock with tick := clock.tick + 1 } ∧ clock.tick + 1 < Checked.range := by
  unfold TickClock.advance Checked.add
  by_cases bounded : clock.tick + 1 < Checked.range
  · simp [bounded, bind, Except.bind, pure, Except.pure, eq_comm]
  · simp [bounded, bind, Except.bind]

/-- A tick whose lapse stays in the range of times has a successor. -/
theorem tick_lt_of_lapse {clock : TickClock} {lapse : TimeLapse}
    (covered : clock.lapse = .ok lapse) :
    clock.tick + 1 < Checked.range := by
  have bounded := (lapse_eq_ok_iff.1 covered).2
  exact Nat.lt_of_le_of_lt (Nat.le_mul_of_pos_right _ clock.tickLength_pos) bounded

end TickClock

end LiveFleet
