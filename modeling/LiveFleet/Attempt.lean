/-
This file holds the two ways in which an operation can end without an answer.
A refusal is an error that the caller is told about and may act on. A crash
ends the computation: a number left the 64-bit range, an interval ran
backwards, a random draw was asked of an empty range. An attempt is an
operation on a state that may end in either way; the state it had reached is
kept, because a run that stops half-way through a tick still shows it.
-/

namespace LiveFleet

/-! ### Crashes -/

/-- Why a computation cannot go on. -/
inductive Crash where
  | addOverflow
  | subtractOverflow
  | multiplyOverflow
  | backwardLapse
  | emptyRange
  | lowBoundNotFinite
  | highBoundNotFinite
  | rangeOverflow
  | invalidProbability
  deriving DecidableEq, Repr

/-- The text that a crash is reported with. -/
def Crash.message : Crash → String
  | addOverflow => "attempt to add with overflow"
  | subtractOverflow => "attempt to subtract with overflow"
  | multiplyOverflow => "attempt to multiply with overflow"
  | backwardLapse => "time lapse must not run backwards"
  | emptyRange => "cannot sample empty range"
  | lowBoundNotFinite => "UniformSampler::sample_single called with `low` non-finite."
  | highBoundNotFinite => "UniformSampler::sample_single called with `high` non-finite."
  | rangeOverflow => "UniformSampler::sample_single: range overflow"
  | invalidProbability =>
    "called `Result::unwrap()` on an `Err` value: InvalidProbability"

/-! ### Attempts -/

/-- An operation either refuses, and says why, or crashes. -/
inductive Failure (Refusal : Type) where
  | refused (reason : Refusal)
  | crashed (crash : Crash)
  deriving DecidableEq, Repr

/-- Say the reason of a refusal in other words; a crash stays what it is. -/
def Failure.map {Refusal Wider : Type} (widen : Refusal → Wider) :
    Failure Refusal → Failure Wider
  | refused reason => .refused (widen reason)
  | crashed crash => .crashed crash

/-- An operation on a state that may fail part-way. The state reached is kept either way. -/
def Attempt (State Error Value : Type) := State → Except Error Value × State

namespace Attempt

variable {State Whole Error Wider Value : Type}

/-- Answer without touching the state. -/
@[inline]
def answer (value : Value) : Attempt State Error Value := fun state => (.ok value, state)

/-- Fail without touching the state. -/
@[inline]
def fail (error : Error) : Attempt State Error Value := fun state => (.error error, state)

/-- Go on with the answer of a first step, from the state that it has reached. -/
@[inline]
def andThen {Next : Type} (first : Attempt State Error Value)
    (rest : Value → Attempt State Error Next) : Attempt State Error Next := fun state =>
  match first state with
  | (.ok value, reached) => rest value reached
  | (.error error, reached) => (.error error, reached)

/-- Go on from a failure, from the state that has been reached. -/
@[inline]
def recover (first : Attempt State Error Value) (rest : Error → Attempt State Error Value) :
    Attempt State Error Value := fun state =>
  match first state with
  | (.ok value, reached) => (.ok value, reached)
  | (.error error, reached) => rest error reached

/-- Answer with a function of the state, and replace the state. -/
@[inline]
def update (change : State → Value × State) : Attempt State Error Value := fun state =>
  (.ok (change state).1, (change state).2)

@[always_inline]
instance : Monad (Attempt State Error) where
  pure := answer
  bind := andThen

@[always_inline]
instance : MonadStateOf State (Attempt State Error) where
  get := update fun state => (state, state)
  set state := update fun _ => (⟨⟩, state)
  modifyGet := update

@[always_inline]
instance : MonadExceptOf Error (Attempt State Error) where
  throw := fail
  tryCatch := recover

/-- Carry out an operation on a part of a larger state, and say its error in other words. -/
@[inline]
def within (part : Whole → State) (replace : State → Whole → Whole) (widen : Error → Wider)
    (attempt : Attempt State Error Value) : Attempt Whole Wider Value :=
  fun whole =>
    match attempt (part whole) with
    | (.ok value, state) => (.ok value, replace state whole)
    | (.error error, state) => (.error (widen error), replace state whole)

/-- Look something up in the state. -/
@[inline]
def inspect (find : State → Except Error Value) : Attempt State Error Value := fun state =>
  (find state, state)

/-- Fail unless a condition holds. -/
@[inline]
def require (condition : Prop) [Decidable condition] (error : Error) :
    Attempt State Error Unit := fun state =>
  (if condition then .ok () else .error error, state)

/-- A computation without a state, as one step of an attempt. -/
@[inline]
def ofExcept (widen : Error → Wider) (result : Except Error Value) :
    Attempt State Wider Value :=
  fun state =>
    match result with
    | .ok value => (.ok value, state)
    | .error error => (.error (widen error), state)

/-! ### Reading an attempt step by step -/

theorem bind_apply {Next : Type} (first : Attempt State Error Value)
    (rest : Value → Attempt State Error Next) (state : State) :
    (first >>= rest) state =
      match first state with
      | (.ok value, reached) => rest value reached
      | (.error error, reached) => (.error error, reached) := rfl

/-- Two steps end with an answer exactly if both do. -/
theorem bind_eq_ok_iff {Next : Type} {first : Attempt State Error Value}
    {rest : Value → Attempt State Error Next} {state final : State} {next : Next} :
    (first >>= rest) state = (.ok next, final) ↔
      ∃ value reached, first state = (.ok value, reached) ∧
        rest value reached = (.ok next, final) := by
  rw [bind_apply]
  rcases first state with ⟨_ | value, reached⟩
  · simp
  · simp only [Prod.mk.injEq, Except.ok.injEq]
    exact ⟨fun equal => ⟨value, reached, ⟨rfl, rfl⟩, equal⟩,
      fun ⟨_, _, ⟨sameValue, sameState⟩, equal⟩ => sameValue ▸ sameState ▸ equal⟩

theorem pure_apply (value : Value) (state : State) :
    (pure value : Attempt State Error Value) state = (.ok value, state) := rfl

theorem throw_apply (error : Error) (state : State) :
    (throw error : Attempt State Error Value) state = (.error error, state) := rfl

theorem get_apply (state : State) :
    (get : Attempt State Error State) state = (.ok state, state) := rfl

theorem get_bind_apply (rest : State → Attempt State Error Value) (state : State) :
    (get >>= rest) state = rest state state := rfl

theorem modify_apply (change : State → State) (state : State) :
    (modify change : Attempt State Error PUnit) state = (.ok ⟨⟩, change state) := rfl

theorem inspect_eq_ok_iff {find : State → Except Error Value} {state final : State}
    {value : Value} :
    inspect find state = (.ok value, final) ↔ find state = .ok value ∧ state = final := by
  simp [inspect]

theorem require_eq_ok_iff {condition : Prop} [Decidable condition] {error : Error}
    {state final : State} :
    require condition error state = (.ok (), final) ↔ condition ∧ state = final := by
  unfold require
  split <;> simp_all

theorem ofExcept_eq_ok_iff {widen : Error → Wider} {result : Except Error Value}
    {state final : State} {value : Value} :
    ofExcept widen result state = (.ok value, final) ↔ result = .ok value ∧ state = final := by
  cases result <;> simp [ofExcept]

/-- An operation on a part ends with an answer exactly if it does on the part alone. -/
theorem within_eq_ok_iff {part : Whole → State} {replace : State → Whole → Whole}
    {widen : Error → Wider} {attempt : Attempt State Error Value} {whole final : Whole}
    {value : Value} :
    within part replace widen attempt whole = (.ok value, final) ↔
      ∃ state, attempt (part whole) = (.ok value, state) ∧ replace state whole = final := by
  unfold within
  rcases attempt (part whole) with ⟨_ | _, state⟩
  · simp
  · simp only [Prod.mk.injEq, Except.ok.injEq]
    exact ⟨fun ⟨same, equal⟩ => ⟨state, ⟨same, rfl⟩, equal⟩,
      fun ⟨_, ⟨same, sameState⟩, equal⟩ => ⟨same, sameState ▸ equal⟩⟩

/-! ### What an attempt leaves alone -/

/-- The attempt leaves a view of the state as it is, whether or not it ends with an answer. -/
def Keeps {View : Type} (view : State → View) (attempt : Attempt State Error Value) : Prop :=
  ∀ state, view (attempt state).2 = view state

variable {View : Type} {view : State → View}

theorem view_of_eq {attempt : Attempt State Error Value} {state final : State}
    {result : Except Error Value} (reached : attempt state = (result, final))
    (kept : Keeps view attempt) : view final = view state := by
  have same := kept state
  rw [reached] at same
  exact same

theorem keeps_bind {Next : Type} {first : Attempt State Error Value}
    {rest : Value → Attempt State Error Next} (firstKeeps : Keeps view first)
    (restKeeps : ∀ value, Keeps view (rest value)) : Keeps view (first >>= rest) := by
  intro state
  have kept := firstKeeps state
  rw [bind_apply]
  generalize first state = outcome at kept
  rcases outcome with ⟨_ | value, reached⟩
  · exact kept
  · exact (restKeeps value reached).trans kept

theorem keeps_pure (value : Value) : Keeps view (pure value : Attempt State Error Value) :=
  fun _ => rfl

theorem keeps_throw (error : Error) : Keeps view (throw error : Attempt State Error Value) :=
  fun _ => rfl

theorem keeps_get : Keeps view (get : Attempt State Error State) := fun _ => rfl

theorem keeps_modify {change : State → State} (kept : ∀ state, view (change state) = view state) :
    Keeps view (modify change : Attempt State Error PUnit) := kept

theorem keeps_inspect (find : State → Except Error Value) : Keeps view (inspect find) :=
  fun _ => rfl

theorem keeps_require (condition : Prop) [Decidable condition] (error : Error) :
    Keeps view (require condition error) := fun _ => rfl

theorem keeps_ofExcept (widen : Error → Wider) (result : Except Error Value) :
    Keeps view (ofExcept widen result : Attempt State Wider Value) := by
  intro state
  cases result <;> rfl

/-- An operation on a part leaves alone what it leaves alone of the part. -/
theorem keeps_within {part : Whole → State} {replace : State → Whole → Whole}
    {widen : Error → Wider} {attempt : Attempt State Error Value} {wholeView : Whole → View}
    (kept : Keeps view attempt)
    (replaced : ∀ state whole, view state = view (part whole) →
      wholeView (replace state whole) = wholeView whole) :
    Keeps wholeView (within part replace widen attempt) := by
  intro whole
  have same := kept (part whole)
  unfold within
  generalize attempt (part whole) = outcome at same
  rcases outcome with ⟨_ | _, state⟩ <;> exact replaced state whole same

end Attempt

end LiveFleet
