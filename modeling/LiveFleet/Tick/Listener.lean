/-
This file holds the listeners of a run. A tick tells every listener, in order,
that it begins, and then every listener, in the same order, that it ends. A
listener works on the shared context of the run; the first one that fails ends
the tick, and no later one is told.
-/
import LiveFleet.Attempt
import LiveFleet.Time.Lapse

namespace LiveFleet

/-- What a listener does at the start and at the end of a tick; nothing, if left out. -/
structure Listener (Context Refusal : Type) where
  before : TimeLapse → Attempt Context (Failure Refusal) Unit := fun _ => pure ()
  after : TimeLapse → Attempt Context (Failure Refusal) Unit := fun _ => pure ()

namespace Listener

variable {Context Refusal : Type}

/-- Tell all listeners of one tick. -/
def notify (listeners : List (Listener Context Refusal)) (lapse : TimeLapse) :
    Attempt Context (Failure Refusal) Unit := do
  listeners.forM fun listener => listener.before lapse
  listeners.forM fun listener => listener.after lapse

end Listener

end LiveFleet
