/-
This file holds the pace of a run. A run either goes as fast as it can, or it
follows the wall clock. The switch between the two counts its effective
changes: a request for the pace that already holds changes nothing and is not
counted.
-/

namespace LiveFleet

/-- How the ticks of a run follow each other. -/
inductive Pace where
  /-- Ticks run back to back. -/
  | simulated
  /-- Ticks follow the wall clock. -/
  | realTime
  deriving DecidableEq, Repr

/-- How a pace is written. -/
def Pace.text : Pace → String
  | simulated => "SIMULATED"
  | realTime => "REAL_TIME"

/-- The pace that holds, and how often it has changed. -/
structure PaceSwitch where
  pace : Pace
  transitions : Nat
  deriving DecidableEq, Repr

namespace PaceSwitch

/-- A switch that has never been moved. -/
def start (pace : Pace) : PaceSwitch := ⟨pace, 0⟩

/-- Ask for a pace. -/
def request (switch : PaceSwitch) (pace : Pace) : PaceSwitch :=
  if switch.pace = pace then switch else ⟨pace, switch.transitions + 1⟩

/-- Asking for a pace would change it. -/
def changes (switch : PaceSwitch) (pace : Pace) : Bool := switch.pace ≠ pace

theorem request_pace (switch : PaceSwitch) (pace : Pace) : (switch.request pace).pace = pace := by
  unfold request
  split <;> simp_all

theorem request_transitions (switch : PaceSwitch) (pace : Pace) :
    (switch.request pace).transitions =
      switch.transitions + if switch.changes pace then 1 else 0 := by
  unfold request changes
  split <;> simp_all

end PaceSwitch

end LiveFleet
