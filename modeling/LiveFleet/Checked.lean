/-
This file holds the arithmetic of times and counters. They are natural numbers
below `2 ^ 64`; a sum, a difference or a product that leaves this range crashes
and never wraps. Each operation comes with the exact condition under which it
answers.
-/
import LiveFleet.Attempt

namespace LiveFleet.Checked

/-- The number of values that a time or a counter can take, `2 ^ 64`. -/
def range : Nat := 18446744073709551616

/-- The largest time or counter. -/
def largest : Nat := range - 1

/-- The sum, or a crash when it leaves the range. -/
def add (left right : Nat) : Except Crash Nat :=
  if left + right < range then .ok (left + right) else .error .addOverflow

/-- The difference, or a crash when it would be negative. -/
def subtract (left right : Nat) : Except Crash Nat :=
  if right ≤ left then .ok (left - right) else .error .subtractOverflow

/-- The product, or a crash when it leaves the range. -/
def multiply (left right : Nat) : Except Crash Nat :=
  if left * right < range then .ok (left * right) else .error .multiplyOverflow

theorem add_eq_ok_iff {left right sum : Nat} :
    add left right = .ok sum ↔ left + right = sum ∧ sum < range := by
  unfold add
  split <;> rename_i bounded <;> simp only [Except.ok.injEq, reduceCtorEq, false_iff] <;> omega

theorem multiply_eq_ok_iff {left right product : Nat} :
    multiply left right = .ok product ↔ left * right = product ∧ product < range := by
  unfold multiply
  split <;> rename_i bounded <;> simp only [Except.ok.injEq, reduceCtorEq, false_iff]
  · exact ⟨fun equal => ⟨equal, equal ▸ bounded⟩, fun both => both.1⟩
  · exact fun both => bounded (both.1.symm ▸ both.2)

theorem subtract_eq_ok_iff {left right difference : Nat} :
    subtract left right = .ok difference ↔ left = difference + right := by
  unfold subtract
  split <;> rename_i bounded <;> simp only [Except.ok.injEq, reduceCtorEq, false_iff] <;> omega

end LiveFleet.Checked
