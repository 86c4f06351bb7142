/-
This file says when a run ends: at a given time, or when the scenario is
complete, that is, when nothing is left to be announced, every known parcel has
been delivered, and every vehicle is empty at the depot.
-/
import LiveFleet.Run.Scenario

namespace LiveFleet

/-- When a run ends. -/
inductive StopRule where
  /-- The tick that starts at this time is the last one that may run. -/
  | timeOut (time : Nat)
  /-- Everything has been announced and delivered, and the fleet is back. -/
  | scenarioComplete
  /-- Any one of the rules holds. -/
  | anyOf (rules : List StopRule)

namespace StopRule

/-- Nothing is left to do. -/
def isComplete (scene : Scene) : Bool :=
  scene.pending = 0 && scene.world.allDelivered && scene.world.allAtDepot

mutual

/-- The rule holds before a tick with the given lapse. -/
def isMet (scene : Scene) (lapse : TimeLapse) : StopRule → Bool
  | timeOut time => time < lapse.start
  | scenarioComplete => isComplete scene
  | anyOf rules => isAnyMet scene lapse rules

/-- One of the rules holds before a tick with the given lapse. -/
def isAnyMet (scene : Scene) (lapse : TimeLapse) : List StopRule → Bool
  | [] => false
  | rule :: rules => isMet scene lapse rule || isAnyMet scene lapse rules

end

/-- A list of rules is met exactly if one of them is. -/
theorem isAnyMet_eq_any (scene : Scene) (lapse : TimeLapse) (rules : List StopRule) :
    isAnyMet scene lapse rules = rules.any fun rule => isMet scene lapse rule := by
  induction rules with
  | nil => rfl
  | cons rule rules inductionHypothesis =>
    rw [isAnyMet, List.any_cons, inductionHypothesis]

end StopRule

end LiveFleet
