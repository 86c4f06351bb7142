/-
This file holds the loop that drives a run tick by tick. Before each tick the
loop asks whether to stop, with the lapse that is about to run, and only then
whether the number of ticks that one call may run is used up. A tick counts as
real-time by the pace that holds when it starts. A tick that fails is not
counted: the next call begins with the same tick.

The loop ends because times are bounded. Every tick moves the clock on by one,
and the lapse of a tick whose number is too large leaves the range of times.
-/
import LiveFleet.Pace
import LiveFleet.Tick.Listener
import LiveFleet.Time.TickClock

namespace LiveFleet

/-- How a run is divided into ticks. -/
structure TickSettings where
  tickLength : Nat
  initialPace : Pace
  maxTicks : Option Nat
  deriving DecidableEq, Repr

/-- Ticks of a second at simulated pace, without a bound on their number. -/
def TickSettings.standard : TickSettings := ⟨1000, .simulated, none⟩

/-- Why a tick loop cannot be made, or has stopped. -/
inductive TickError (Refusal : Type) where
  | noTicksAllowed
  | clock (error : TimeError)
  | listener (tick : Nat) (reason : Refusal)
  deriving DecidableEq, Repr

/-- The text of a tick error, given the text of a refusal. -/
def TickError.message {Refusal : Type} (describe : Refusal → String) :
    TickError Refusal → String
  | noTicksAllowed => "dispatcher configuration error: max_ticks must be at least 1"
  | clock error => error.message
  | listener tick reason => s!"tick listener failed at {tickText tick}: {describe reason}"

/-- Why a run has ended without an error. -/
inductive StopReason where
  /-- The stop condition holds. -/
  | condition
  /-- The largest number of ticks of one call has run. -/
  | timeout
  deriving DecidableEq, Repr

/-- How a stop reason is written. -/
def StopReason.text : StopReason → String
  | condition => "Condition"
  | timeout => "Timeout"

/-- What one call has done. -/
structure RunSummary where
  ticks : Nat
  realTimeTicks : Nat
  endTime : Nat
  reason : StopReason
  deriving DecidableEq, Repr

/-- The position of a run, and the bound on the ticks of one call. -/
structure TickLoop where
  clock : TickClock
  maxTicks : Option Nat
  deriving DecidableEq

namespace TickLoop

/-- A loop before its first tick. The bound is checked before the tick length. -/
def start {Refusal : Type} (settings : TickSettings) : Except (TickError Refusal) TickLoop :=
  if settings.maxTicks = some 0 then .error .noTicksAllowed
  else
    match TickClock.start settings.tickLength with
    | .ok clock => .ok ⟨clock, settings.maxTicks⟩
    | .error error => .error (.clock error)

/-- The ticks of one call are used up. -/
def isExhausted (loop : TickLoop) (ticks : Nat) : Bool :=
  match loop.maxTicks with
  | some bound => bound ≤ ticks
  | none => false

variable {Context Refusal : Type}

/-- Tell the listeners of one tick; a refusal is reported with the tick. -/
def runTick (listeners : List (Listener Context Refusal)) (lapse : TimeLapse) :
    Attempt Context (Failure (TickError Refusal)) Unit :=
  Attempt.within id (fun context _ => context) (Failure.map (.listener lapse.tick))
    (Listener.notify listeners lapse)

/-- The listeners of a run, and how to read the pace that holds. -/
structure Setup (Context Refusal : Type) where
  listeners : List (Listener Context Refusal)
  pace : Context → Pace

/-- What one call has reached: the loop, the context, and the summary or the failure. -/
abbrev Reached (Context Refusal Value : Type) :=
  Except (Failure (TickError Refusal)) Value × TickLoop × Context

/-- Run ticks until the stop condition holds, the bound is reached or a tick fails, after the given
numbers of ticks have run. -/
def Setup.runFrom (setup : Setup Context Refusal) (stop : Context → TimeLapse → Bool)
    (ticks realTimeTicks : Nat) (loop : TickLoop) (context : Context) :
    Reached Context Refusal RunSummary :=
  match loop.clock.lapse with
  | .error crash => (.error (.crashed crash), loop, context)
  | .ok lapse =>
    if stop context lapse then
      (.ok ⟨ticks, realTimeTicks, lapse.start, .condition⟩, loop, context)
    else if loop.isExhausted ticks then
      (.ok ⟨ticks, realTimeTicks, lapse.start, .timeout⟩, loop, context)
    else
      match runTick setup.listeners lapse context with
      | (.error failure, context) => (.error failure, loop, context)
      | (.ok (), reached) =>
        match advanced : loop.clock.advance with
        | .error crash => (.error (.crashed crash), loop, reached)
        | .ok clock =>
          let paced := if setup.pace context = .realTime then 1 else 0
          setup.runFrom stop (ticks + 1) (realTimeTicks + paced) { loop with clock } reached
termination_by Checked.range - loop.clock.tick
decreasing_by
  obtain ⟨next, bounded⟩ := TickClock.advance_eq_ok_iff.1 advanced
  simp only [next]
  omega

/-- Run ticks until the stop condition holds or the bound is reached. -/
def Setup.run (setup : Setup Context Refusal) (stop : Context → TimeLapse → Bool) (loop : TickLoop)
    (context : Context) : Reached Context Refusal RunSummary :=
  setup.runFrom stop 0 0 loop context

/-- Run the given number of ticks, whatever the bound says. -/
def Setup.runTicks (setup : Setup Context Refusal) :
    Nat → TickLoop → Context → Reached Context Refusal Unit
  | 0, loop, context => (.ok (), loop, context)
  | count + 1, loop, context =>
    match loop.clock.lapse with
    | .error crash => (.error (.crashed crash), loop, context)
    | .ok lapse =>
      match runTick setup.listeners lapse context with
      | (.error failure, context) => (.error failure, loop, context)
      | (.ok (), context) =>
        match loop.clock.advance with
        | .error crash => (.error (.crashed crash), loop, context)
        | .ok clock => setup.runTicks count { loop with clock } context

end TickLoop

end LiveFleet
