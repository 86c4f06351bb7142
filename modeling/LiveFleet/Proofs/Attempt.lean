/-
This file holds what proofs about attempts have in common: how an attempt goes on
from a first step whose outcome is known, and what an attempt keeps true of the
state. Keeping a view of the state as it is, which the attempts themselves come
with, is the special case in which nothing changes.
-/
import LiveFleet.Attempt

namespace LiveFleet.Attempt

variable {State Error Value Next View : Type} {first : Attempt State Error Value}
  {rest : Value → Attempt State Error Next} {state reached : State}

/-! ### Going on from a first step -/

theorem bind_of_ok {value : Value} (answered : first state = (.ok value, reached)) :
    (first >>= rest) state = rest value reached := by
  rw [bind_apply, answered]

theorem bind_of_failed {error : Error} (failed : first state = (.error error, reached)) :
    (first >>= rest) state = (.error error, reached) := by
  rw [bind_apply, failed]

/-- Two steps fail if the first one does, or if it is answered and the second one does. -/
theorem bind_eq_error_iff {error : Error} :
    (first >>= rest) state = (.error error, reached) ↔
      first state = (.error error, reached) ∨
        ∃ value middle, first state = (.ok value, middle) ∧
          rest value middle = (.error error, reached) := by
  rw [bind_apply]
  rcases first state with ⟨_ | value, middle⟩
  · simp
  · simp only [Prod.mk.injEq, reduceCtorEq, false_and, false_or, Except.ok.injEq]
    constructor
    · exact fun failed => ⟨value, middle, ⟨rfl, rfl⟩, failed⟩
    · rintro ⟨_, _, ⟨rfl, rfl⟩, failed⟩
      exact failed

/-- A result that is passed on fails if it is a failure. -/
theorem ofExcept_eq_error_iff {Wider : Type} {widen : Error → Wider} {result : Except Error Value}
    {failure : Wider} :
    ofExcept widen result state = (.error failure, reached) ↔
      (∃ error, result = .error error ∧ widen error = failure) ∧ state = reached := by
  cases result <;> simp [ofExcept]

/-- Three steps may be read from either end. -/
theorem bind_bind_apply {Last : Type} (first : Attempt State Error Value)
    (rest : Value → Attempt State Error Next) (last : Next → Attempt State Error Last)
    (state : State) :
    (first >>= fun value => rest value >>= last) state = ((first >>= rest) >>= last) state := by
  rw [bind_apply, bind_apply, bind_apply]
  rcases first state with ⟨_ | _, _⟩ <;> rfl

/-- A step after which only an answer is given. -/
theorem bind_pure_apply (first : Attempt State Error Value) (answer : Next) (state : State) :
    (first >>= fun _ => pure answer) state =
      ((first state).1.map fun _ => answer, (first state).2) := by
  rw [bind_apply]
  rcases first state with ⟨_ | _, _⟩ <;> rfl

/-- However two steps end: the first one has failed, or the second one has ended so. -/
theorem bind_cases {Ends : Except Error Next → State → Prop}
    (failed : ∀ error, (first state).1 = .error error → Ends (.error error) (first state).2)
    (went : ∀ value, (first state).1 = .ok value →
      Ends (rest value (first state).2).1 (rest value (first state).2).2) :
    Ends ((first >>= rest) state).1 ((first >>= rest) state).2 := by
  rw [bind_apply]
  generalize first state = outcome at failed went
  rcases outcome with ⟨error | value, reached⟩
  · exact failed error rfl
  · exact went value rfl

/-- Wherever two steps end: where the first one has failed, or where the second one has come to. -/
theorem bind_reached {Ends : State → Prop}
    (failed : ∀ error, (first state).1 = .error error → Ends (first state).2)
    (went : ∀ value, (first state).1 = .ok value → Ends (rest value (first state).2).2) :
    Ends ((first >>= rest) state).2 := by
  rw [bind_apply]
  generalize first state = outcome at failed went
  rcases outcome with ⟨error | value, reached⟩
  · exact failed error rfl
  · exact went value rfl

/-- What the second step leaves alone is as the first one has left it. -/
theorem view_bind {view : State → View} (kept : ∀ value, Keeps view (rest value)) :
    view ((first >>= rest) state).2 = view (first state).2 := by
  rw [bind_apply]
  rcases first state with ⟨_ | value, reached⟩
  · rfl
  · exact kept value reached

theorem require_of {condition : Prop} [Decidable condition] (holds : condition) (error : Error) :
    require condition error state = (.ok (), state) := by
  unfold require
  rw [if_pos holds]

theorem require_of_not {condition : Prop} [Decidable condition] (fails : ¬ condition)
    (error : Error) : require condition error state = (.error error, state) := by
  unfold require
  rw [if_neg fails]

/-! ### What an attempt keeps true -/

/-- What holds of the state before the attempt holds after it, whether or not it ends with an
answer. -/
def Maintains (Holds : State → Prop) (attempt : Attempt State Error Value) : Prop :=
  ∀ state, Holds state → Holds (attempt state).2

variable {Holds : State → Prop}

theorem maintains_bind (firstMaintains : Maintains Holds first)
    (restMaintains : ∀ value, Maintains Holds (rest value)) : Maintains Holds (first >>= rest) := by
  intro state holds
  have reachedHolds := firstMaintains state holds
  rw [bind_apply]
  generalize first state = outcome at reachedHolds
  rcases outcome with ⟨_ | value, reached⟩
  · exact reachedHolds
  · exact restMaintains value reached reachedHolds

/-- What is true of a view that is left alone stays true. -/
theorem maintains_of_keeps {view : State → View} {Known : View → Prop} (kept : Keeps view first) :
    Maintains (fun state => Known (view state)) first := by
  intro state holds
  rw [kept state]
  exact holds

theorem maintains_pure (value : Value) :
    Maintains Holds (pure value : Attempt State Error Value) :=
  fun _ holds => holds

theorem maintains_get : Maintains Holds (get : Attempt State Error State) := fun _ holds => holds

/-- After a look at the state it is enough to go on from the state that was seen. -/
theorem maintains_get_bind {next : State → Attempt State Error Value}
    (kept : ∀ state, Holds state → Maintains Holds (next state)) :
    Maintains Holds (get >>= next) :=
  fun state holds => kept state holds state holds

end LiveFleet.Attempt
