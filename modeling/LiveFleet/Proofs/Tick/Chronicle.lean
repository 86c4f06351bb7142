/-
This file tells what any number of calls of one tick loop do, whatever the listeners
do and however they fail. A call begins with the tick after the last one that was
run to its end. Before each tick of a run it is asked once whether to stop, and only
when it is not to stop does the bound on its ticks count; then the callbacks of the
tick are made in their order. A callback that fails is the last one of its call,
which fails with it, and the same tick is the first one of the next call.

The tale of a call is told by the notes that are recorded in it. That it ends where
times leave their range is part of the tale, so nothing is asked of the calls.
-/
import LiveFleet.Proofs.Tick.Recording

namespace LiveFleet

namespace TickClock

/-- The lapse of a tick. -/
def lapseAt (tickLength tick : Nat) : TimeLapse :=
  ⟨tick, tick * tickLength, (tick + 1) * tickLength⟩

variable {clock : TickClock} {lapse : TimeLapse}

theorem lapse_eq_lapseAt (covered : clock.lapse = .ok lapse) :
    lapse = lapseAt clock.tickLength clock.tick := (lapse_eq_ok_iff.1 covered).1

theorem beyond_of_crash {crash : Crash} (crashed : clock.lapse = .error crash) :
    Checked.range ≤ (clock.tick + 1) * clock.tickLength := by
  refine Nat.le_of_not_lt fun bounded => ?_
  rw [lapse_eq_ok_iff.2 ⟨rfl, bounded⟩] at crashed
  cases crashed

/-- The clock moves on after every tick that lies in the range of times. -/
theorem advance_of_lapse (covered : clock.lapse = .ok lapse) :
    clock.advance = .ok { clock with tick := clock.tick + 1 } :=
  advance_eq_ok_iff.2 ⟨rfl, tick_lt_of_lapse covered⟩

end TickClock

namespace TickLoop

open Attempt TickClock

variable {Context Refusal : Type}

/-! ### Questions that work on the context -/

/-- Whether to stop before a lapse. To answer it, the context may be worked on. -/
abbrev Question (Context : Type) := TimeLapse → Context → Bool × Context

/-- A question that leaves the context as it is. -/
def Question.of (stop : Context → TimeLapse → Bool) : Question Context :=
  fun lapse context => (stop context lapse, context)

theorem Question.of_goes {stop : Context → TimeLapse → Bool} {lapse : TimeLapse} {context : Context}
    (goes : ¬ stop context lapse = true) : Question.of stop lapse context = (false, context) := by
  rw [Question.of, Bool.eq_false_iff.2 goes]

/-- Run ticks until the answer is to stop, the bound is reached or a tick fails, after the given
numbers of ticks have run. -/
def Setup.askFrom (setup : Setup Context Refusal) (ask : Question Context)
    (ticks realTimeTicks : Nat) (loop : TickLoop) (context : Context) :
    Reached Context Refusal RunSummary :=
  match loop.clock.lapse with
  | .error crash => (.error (.crashed crash), loop, context)
  | .ok lapse =>
    match ask lapse context with
    | (true, asked) => (.ok ⟨ticks, realTimeTicks, lapse.start, .condition⟩, loop, asked)
    | (false, asked) =>
      if loop.isExhausted ticks then
        (.ok ⟨ticks, realTimeTicks, lapse.start, .timeout⟩, loop, asked)
      else
        match runTick setup.listeners lapse asked with
        | (.error failure, reached) => (.error failure, loop, reached)
        | (.ok (), reached) =>
          match advanced : loop.clock.advance with
          | .error crash => (.error (.crashed crash), loop, reached)
          | .ok clock =>
            let paced := if setup.pace asked = .realTime then 1 else 0
            setup.askFrom ask (ticks + 1) (realTimeTicks + paced) { loop with clock } reached
termination_by Checked.range - loop.clock.tick
decreasing_by
  obtain ⟨next, bounded⟩ := TickClock.advance_eq_ok_iff.1 advanced
  simp only [next]
  omega

section AskFrom

variable {setup : Setup Context Refusal} {ask : Question Context} {ticks realTimeTicks : Nat}
  {loop : TickLoop} {context asked reached : Context} {lapse : TimeLapse}

theorem askFrom_of_crash {crash : Crash} (crashed : loop.clock.lapse = .error crash) :
    setup.askFrom ask ticks realTimeTicks loop context =
      (.error (.crashed crash), loop, context) := by
  rw [Setup.askFrom, crashed]

theorem askFrom_of_stop (covered : loop.clock.lapse = .ok lapse)
    (stops : ask lapse context = (true, asked)) :
    setup.askFrom ask ticks realTimeTicks loop context =
      (.ok ⟨ticks, realTimeTicks, lapse.start, .condition⟩, loop, asked) := by
  rw [Setup.askFrom, covered]
  simp only [stops]

theorem askFrom_of_exhausted (covered : loop.clock.lapse = .ok lapse)
    (goes : ask lapse context = (false, asked)) (exhausted : loop.isExhausted ticks = true) :
    setup.askFrom ask ticks realTimeTicks loop context =
      (.ok ⟨ticks, realTimeTicks, lapse.start, .timeout⟩, loop, asked) := by
  rw [Setup.askFrom, covered]
  simp only [goes, exhausted, if_true]

theorem askFrom_of_failed (covered : loop.clock.lapse = .ok lapse)
    (goes : ask lapse context = (false, asked)) (more : ¬ loop.isExhausted ticks = true)
    {failure : Failure (TickError Refusal)}
    (failed : runTick setup.listeners lapse asked = (.error failure, reached)) :
    setup.askFrom ask ticks realTimeTicks loop context = (.error failure, loop, reached) := by
  rw [Setup.askFrom, covered]
  simp only [goes, more, failed, if_false, Bool.false_eq_true]

theorem askFrom_of_tick (covered : loop.clock.lapse = .ok lapse)
    (goes : ask lapse context = (false, asked)) (more : ¬ loop.isExhausted ticks = true)
    (ran : runTick setup.listeners lapse asked = (.ok (), reached)) {clock : TickClock}
    (advanced : loop.clock.advance = .ok clock) :
    setup.askFrom ask ticks realTimeTicks loop context =
      setup.askFrom ask (ticks + 1)
        (realTimeTicks + if setup.pace asked = .realTime then 1 else 0) { loop with clock }
        reached := by
  rw [Setup.askFrom, covered]
  simp only [goes, more, ran, if_false, Bool.false_eq_true]
  split
  · rename_i crash crashed
    rw [advanced] at crashed
    cases crashed
  · rename_i next same
    rw [advanced] at same
    cases same
    rfl

/-- A loop that asks a question that leaves the context as it is, is the tick loop. -/
theorem askFrom_of (stop : Context → TimeLapse → Bool) :
    setup.askFrom (.of stop) ticks realTimeTicks loop context =
      setup.runFrom stop ticks realTimeTicks loop context := by
  fun_induction setup.runFrom stop ticks realTimeTicks loop context with
  | case1 ticks realTimeTicks loop context crash crashed => exact askFrom_of_crash crashed
  | case2 ticks realTimeTicks loop context lapse covered stops =>
    exact askFrom_of_stop covered (by rw [Question.of, stops])
  | case3 ticks realTimeTicks loop context lapse covered goes exhausted =>
    exact askFrom_of_exhausted covered (Question.of_goes goes) exhausted
  | case4 ticks realTimeTicks loop context lapse covered goes more failure reached failed =>
    exact askFrom_of_failed covered (Question.of_goes goes) more failed
  | case5 ticks realTimeTicks loop context lapse covered goes more reached ran crash crashed =>
    rw [advance_of_lapse covered] at crashed
    cases crashed
  | case6 ticks realTimeTicks loop context lapse covered goes more reached ran clock advanced paced
      inductionHypothesis =>
    rw [← inductionHypothesis]
    exact askFrom_of_tick covered (Question.of_goes goes) more ran advanced

end AskFrom

/-- Run ticks until the answer is to stop or the bound is reached. -/
def Setup.ask (setup : Setup Context Refusal) (ask : Question Context) (loop : TickLoop)
    (context : Context) : Reached Context Refusal RunSummary :=
  setup.askFrom ask 0 0 loop context

/-! ### Calls -/

/-- A call of the tick loop. -/
inductive Call (Context : Type) where
  /-- Run until the answer is to stop, or the bound is reached. -/
  | run (ask : Question Context)
  /-- Run so many ticks, whatever the bound says. -/
  | runTicks (count : Nat)

/-- Carry out one call. Only a run ends with a summary. -/
def Setup.call (setup : Setup Context Refusal) :
    Call Context → TickLoop → Context → Reached Context Refusal (Option RunSummary)
  | .run ask, loop, context =>
    ((setup.ask ask loop context).1.map some, (setup.ask ask loop context).2)
  | .runTicks count, loop, context =>
    ((setup.runTicks count loop context).1.map fun _ => none, (setup.runTicks count loop context).2)

/-- Carry out calls one after the other, also after one that has failed. -/
def Setup.calls (setup : Setup Context Refusal) :
    List (Call Context) → TickLoop → Context →
      List (Except (Failure (TickError Refusal)) (Option RunSummary)) × TickLoop × Context
  | [], loop, context => ([], loop, context)
  | call :: rest, loop, context =>
    let (answer, reached, seen) := setup.call call loop context
    let (answers, final) := setup.calls rest reached seen
    (answer :: answers, final)

/-- Ask a question, and note the answer and the pace that holds then. -/
def Question.recorded (ask : Question Context) (pace : Context → Pace) :
    Question (Context × List (Note Refusal)) := fun lapse seen =>
  ((ask lapse seen.1).1, (ask lapse seen.1).2,
    seen.2 ++ [.asked lapse (pace (ask lapse seen.1).2) (ask lapse seen.1).1])

/-- The same call, with notes on its questions. -/
def Call.recorded (pace : Context → Pace) : Call Context → Call (Context × List (Note Refusal))
  | .run ask => .run (ask.recorded pace)
  | .runTicks count => .runTicks count

/-! ### The tale of a call -/

/-- The notes on the callbacks of a tick that is run to its end. -/
def wholeTick (listeners : Nat) (lapse : TimeLapse) : List (Note Refusal) :=
  (Listener.schedule listeners).map (.called lapse · (.ok ()))

/-- The notes on ticks that are run to their end, from a first one on. -/
def wholeTicks (tickLength listeners first count : Nat) : List (Note Refusal) :=
  (List.range' first count).flatMap fun tick => wholeTick listeners (lapseAt tickLength tick)

/-- The notes on ticks that are run to their end, from a first one on. Before each of them it is
asked whether to stop, and then the given pace holds. -/
def askedTicks (tickLength listeners first : Nat) (paces : List Pace) : List (Note Refusal) :=
  (paces.zipIdx first).flatMap fun (pace, tick) =>
    .asked (lapseAt tickLength tick) pace false :: wholeTick listeners (lapseAt tickLength tick)

/-- What a run answers that begins with tick `first`, what is noted in it, and how many ticks it
runs to their end. The given numbers of ticks have run in it already. -/
inductive Ran (tickLength listeners : Nat) (bound : Option Nat)
    (ticks realTimeTicks first : Nat) :
    Except (Failure (TickError Refusal)) RunSummary → List (Note Refusal) → Nat → Prop where
  /-- The last answer is to stop, whether or not the bound is reached. -/
  | stopped (paces : List Pace) (pace : Pace)
      (within : ∀ most, bound = some most → ticks + paces.length ≤ most) :
      Ran tickLength listeners bound ticks realTimeTicks first
        (.ok ⟨ticks + paces.length, realTimeTicks + paces.count .realTime,
          (first + paces.length) * tickLength, .condition⟩)
        (askedTicks tickLength listeners first paces ++
          [.asked (lapseAt tickLength (first + paces.length)) pace true])
        paces.length
  /-- The last answer is not to stop, but the bound is reached. -/
  | exhausted (paces : List Pace) (pace : Pace) (full : bound = some (ticks + paces.length)) :
      Ran tickLength listeners bound ticks realTimeTicks first
        (.ok ⟨ticks + paces.length, realTimeTicks + paces.count .realTime,
          (first + paces.length) * tickLength, .timeout⟩)
        (askedTicks tickLength listeners first paces ++
          [.asked (lapseAt tickLength (first + paces.length)) pace false])
        paces.length
  /-- A callback of the last tick has failed. -/
  | failed (paces : List Pace) (pace : Pace) (reason : Failure Refusal)
      (notes : List (Note Refusal))
      (within : ∀ most, bound = some most → ticks + paces.length < most)
      (made : Made (.called (lapseAt tickLength (first + paces.length)))
        (Listener.schedule listeners) (.error reason) notes) :
      Ran tickLength listeners bound ticks realTimeTicks first
        (.error (reason.map (.listener (first + paces.length))))
        (askedTicks tickLength listeners first paces ++
          .asked (lapseAt tickLength (first + paces.length)) pace false :: notes)
        paces.length
  /-- The next tick does not lie in the range of times. -/
  | overflown (paces : List Pace) (crash : Crash)
      (within : ∀ most, bound = some most → ticks + paces.length ≤ most)
      (beyond : Checked.range ≤ (first + paces.length + 1) * tickLength) :
      Ran tickLength listeners bound ticks realTimeTicks first (.error (.crashed crash))
        (askedTicks tickLength listeners first paces) paces.length

/-- What a call answers that runs `count` ticks from tick `first` on, what is noted in it, and how
many ticks it runs to their end. -/
inductive RanTicks (tickLength listeners first count : Nat) :
    Except (Failure (TickError Refusal)) Unit → List (Note Refusal) → Nat → Prop where
  | all : RanTicks tickLength listeners first count (.ok ())
      (wholeTicks tickLength listeners first count) count
  /-- A callback of the last tick has failed. -/
  | failed (ticks : Nat) (reason : Failure Refusal) (notes : List (Note Refusal))
      (within : ticks < count)
      (made : Made (.called (lapseAt tickLength (first + ticks))) (Listener.schedule listeners)
        (.error reason) notes) :
      RanTicks tickLength listeners first count
        (.error (reason.map (.listener (first + ticks))))
        (wholeTicks tickLength listeners first ticks ++ notes) ticks
  /-- The next tick does not lie in the range of times. -/
  | overflown (ticks : Nat) (crash : Crash) (within : ticks < count)
      (beyond : Checked.range ≤ (first + ticks + 1) * tickLength) :
      RanTicks tickLength listeners first count (.error (.crashed crash))
        (wholeTicks tickLength listeners first ticks) ticks

/-- What calls answer of which the first one begins with tick `first`, what is noted in them, and
with which tick the next call would begin. Each call begins with the tick after those that have been
run to their end before it. -/
inductive Told (tickLength listeners : Nat) (bound : Option Nat) :
    List (Call Context) → Nat →
      List (Except (Failure (TickError Refusal)) (Option RunSummary)) → List (Note Refusal) →
      Nat → Prop where
  | none (first : Nat) : Told tickLength listeners bound [] first [] [] first
  | run {ask : Question Context} {calls : List (Call Context)} {first ticks next : Nat}
      {answer : Except (Failure (TickError Refusal)) RunSummary}
      {answers : List (Except (Failure (TickError Refusal)) (Option RunSummary))}
      {notes later : List (Note Refusal)}
      (ran : Ran tickLength listeners bound 0 0 first answer notes ticks)
      (rest : Told tickLength listeners bound calls (first + ticks) answers later next) :
      Told tickLength listeners bound (.run ask :: calls) first (answer.map some :: answers)
        (notes ++ later) next
  | runTicks {count : Nat} {calls : List (Call Context)} {first ticks next : Nat}
      {answer : Except (Failure (TickError Refusal)) Unit}
      {answers : List (Except (Failure (TickError Refusal)) (Option RunSummary))}
      {notes later : List (Note Refusal)}
      (ran : RanTicks tickLength listeners first count answer notes ticks)
      (rest : Told tickLength listeners bound calls (first + ticks) answers later next) :
      Told tickLength listeners bound (.runTicks count :: calls) first
        ((answer.map fun _ => .none) :: answers) (notes ++ later) next

/-! ### Recorded calls -/

/-- The loop so many ticks later. -/
def later (loop : TickLoop) (ticks : Nat) : TickLoop :=
  { loop with clock := { loop.clock with tick := loop.clock.tick + ticks } }

theorem isExhausted_iff {loop : TickLoop} {ticks : Nat} :
    loop.isExhausted ticks = true ↔ ∃ most, loop.maxTicks = some most ∧ most ≤ ticks := by
  rw [isExhausted]
  cases loop.maxTicks <;> simp

theorem later_later (loop : TickLoop) (first second : Nat) :
    (loop.later first).later second = loop.later (first + second) := by
  simp only [later, Nat.add_assoc]

section Ticks

variable {setup : Setup Context Refusal} {lapse : TimeLapse} {context reached : Context}

/-- The callbacks of a tick that ends well are all those of its schedule, and end well. -/
theorem runTick_recorded_ok (ran : runTick setup.listeners lapse context = (.ok (), reached))
    (notes : List (Note Refusal)) :
    runTick setup.recorded.listeners lapse (context, notes) =
      (.ok (), reached, notes ++ wholeTick setup.listeners.length lapse) := by
  obtain ⟨made, result, same, ended, complete⟩ := runTick_recorded setup lapse context notes
  rw [ran] at same ended
  cases complete with
  | all => exact same
  | upTo => cases ended

/-- The last callback of a tick that fails is the one that has failed, and the tick fails with its
reason. -/
theorem runTick_recorded_failed {failure : Failure (TickError Refusal)}
    (failed : runTick setup.listeners lapse context = (.error failure, reached))
    (notes : List (Note Refusal)) :
    ∃ made reason, runTick setup.recorded.listeners lapse (context, notes) =
        (.error failure, reached, notes ++ made) ∧
      failure = reason.map (.listener lapse.tick) ∧
      Made (.called lapse) (Listener.schedule setup.listeners.length) (.error reason) made := by
  obtain ⟨made, result, same, ended, complete⟩ := runTick_recorded setup lapse context notes
  rw [failed] at same ended
  rcases result with reason | ⟨⟩
  · exact ⟨made, reason, same, Except.error.inj ended, complete⟩
  · cases ended

end Ticks

/-- A run goes on in the same way after its first tick. -/
theorem Ran.cons {tickLength listeners ticks realTimeTicks first done : Nat} {bound : Option Nat}
    {answer : Except (Failure (TickError Refusal)) RunSummary} {notes : List (Note Refusal)}
    (pace : Pace)
    (rest : Ran tickLength listeners bound (ticks + 1)
      (realTimeTicks + if pace = .realTime then 1 else 0) (first + 1) answer notes done) :
    Ran tickLength listeners bound ticks realTimeTicks first answer
      (.asked (lapseAt tickLength first) pace false ::
        wholeTick listeners (lapseAt tickLength first) ++ notes) (done + 1) := by
  have shifted (start : Nat) (paces : List Pace) :
      start + 1 + paces.length = start + (pace :: paces).length := by
    rw [List.length_cons, Nat.add_right_comm, Nat.add_assoc]
  have counted (paces : List Pace) :
      (realTimeTicks + if pace = .realTime then 1 else 0) + paces.count .realTime =
        realTimeTicks + (pace :: paces).count .realTime := by
    rw [List.count_cons, Nat.add_assoc, Nat.add_comm (ite _ _ _)]
    simp only [beq_iff_eq]
  have cons (paces : List Pace) : (askedTicks tickLength listeners first (pace :: paces) :
      List (Note Refusal)) = .asked (lapseAt tickLength first) pace false ::
        wholeTick listeners (lapseAt tickLength first) ++
          askedTicks tickLength listeners (first + 1) paces := rfl
  cases rest with
  | stopped paces last within =>
    rw [← List.append_assoc, ← cons, shifted, shifted, counted]
    exact .stopped (pace :: paces) last (shifted _ _ ▸ within)
  | exhausted paces last full =>
    rw [← List.append_assoc, ← cons, shifted, shifted, counted]
    exact .exhausted (pace :: paces) last (shifted _ _ ▸ full)
  | failed paces last reason notes within made =>
    rw [shifted] at made within
    rw [← List.append_assoc, ← cons, shifted]
    exact .failed (pace :: paces) last reason notes within made
  | overflown paces crash within beyond =>
    rw [shifted] at beyond within
    rw [← cons]
    exact .overflown (pace :: paces) crash within beyond

/-- A call of ticks goes on in the same way after its first tick. -/
theorem RanTicks.cons {tickLength listeners first count done : Nat}
    {answer : Except (Failure (TickError Refusal)) Unit} {notes : List (Note Refusal)}
    (rest : RanTicks tickLength listeners (first + 1) count answer notes done) :
    RanTicks tickLength listeners first (count + 1) answer
      (wholeTick listeners (lapseAt tickLength first) ++ notes) (done + 1) := by
  have shifted (ticks : Nat) : first + 1 + ticks = first + (ticks + 1) := by
    rw [Nat.add_right_comm, Nat.add_assoc]
  have cons (ticks : Nat) : (wholeTicks tickLength listeners first (ticks + 1) :
      List (Note Refusal)) = wholeTick listeners (lapseAt tickLength first) ++
        wholeTicks tickLength listeners (first + 1) ticks := rfl
  cases rest with
  | all =>
    rw [← cons]
    exact .all
  | failed _ reason notes within made =>
    rw [shifted] at made
    rw [← List.append_assoc, ← cons, shifted]
    exact .failed (done + 1) reason notes (Nat.succ_lt_succ within) made
  | overflown _ crash within beyond =>
    rw [shifted] at beyond
    rw [← cons]
    exact .overflown (done + 1) crash (Nat.succ_lt_succ within) beyond

section Recorded

variable (setup : Setup Context Refusal)

theorem askFrom_recorded (ask : Question Context) (ticks realTimeTicks : Nat) (loop : TickLoop)
    (context : Context) (notes : List (Note Refusal))
    (within : ∀ most, loop.maxTicks = some most → ticks ≤ most) :
    ∃ answer done reached made,
      setup.askFrom ask ticks realTimeTicks loop context = (answer, loop.later done, reached) ∧
      setup.recorded.askFrom (ask.recorded setup.pace) ticks realTimeTicks loop (context, notes) =
        (answer, loop.later done, reached, notes ++ made) ∧
      Ran loop.clock.tickLength setup.listeners.length loop.maxTicks ticks realTimeTicks
        loop.clock.tick answer made done := by
  fun_induction setup.askFrom ask ticks realTimeTicks loop context generalizing notes with
  | case1 ticks realTimeTicks loop context crash crashed =>
    refine ⟨_, 0, context, [], rfl, ?_, .overflown [] crash within (beyond_of_crash crashed)⟩
    rw [askFrom_of_crash crashed, List.append_nil]
    rfl
  | case2 ticks realTimeTicks loop context lapse covered asked stops =>
    refine ⟨_, 0, asked, [.asked lapse (setup.pace asked) true], rfl, ?_, ?_⟩
    · refine askFrom_of_stop covered ?_
      rw [Question.recorded, stops]
    · rw [lapse_eq_lapseAt covered]
      exact .stopped [] _ within
  | case3 ticks realTimeTicks loop context lapse covered asked goes exhausted =>
    refine ⟨_, 0, asked, [.asked lapse (setup.pace asked) false], rfl, ?_, ?_⟩
    · refine askFrom_of_exhausted covered ?_ exhausted
      rw [Question.recorded, goes]
    · obtain ⟨most, bound, full⟩ := isExhausted_iff.1 exhausted
      have full : loop.maxTicks = some ticks :=
        bound.trans (congrArg some (Nat.le_antisymm full (within most bound)))
      rw [lapse_eq_lapseAt covered]
      exact .exhausted [] _ full
  | case4 ticks realTimeTicks loop context lapse covered asked goes more failure reached failed =>
    have goesRecorded : ask.recorded setup.pace lapse (context, notes) =
        (false, asked, notes ++ [.asked lapse (setup.pace asked) false]) := by
      rw [Question.recorded, goes]
    obtain ⟨made, reason, failedRecorded, rfl, upTo⟩ := runTick_recorded_failed failed
      (notes ++ [.asked lapse (setup.pace asked) false])
    refine ⟨_, 0, reached, .asked lapse (setup.pace asked) false :: made, rfl, ?_, ?_⟩
    · rw [askFrom_of_failed covered goesRecorded more failedRecorded, List.append_assoc]
      rfl
    · obtain rfl := lapse_eq_lapseAt covered
      exact .failed [] _ reason made (fun most bound => Nat.lt_of_not_le fun full =>
        more (isExhausted_iff.2 ⟨most, bound, full⟩)) upTo
  | case5 ticks realTimeTicks loop context lapse covered asked goes more reached ran crash crashed =>
    rw [advance_of_lapse covered] at crashed
    cases crashed
  | case6 ticks realTimeTicks loop context lapse covered asked goes more reached ran clock advanced
      paced inductionHypothesis =>
    have goesRecorded : ask.recorded setup.pace lapse (context, notes) =
        (false, asked, notes ++ [.asked lapse (setup.pace asked) false]) := by
      rw [Question.recorded, goes]
    have ranRecorded := runTick_recorded_ok ran (notes ++ [.asked lapse (setup.pace asked) false])
    obtain rfl := (advance_eq_ok_iff.1 advanced).1
    obtain ⟨answer, done, final, made, same, sameRecorded, rest⟩ := inductionHypothesis
      (notes ++ [.asked lapse (setup.pace asked) false] ++ wholeTick setup.listeners.length lapse)
      fun most bound => Nat.lt_of_not_le fun full => more (isExhausted_iff.2 ⟨most, bound, full⟩)
    have moved : (loop.later 1).later done = loop.later (done + 1) := by
      rw [later_later, Nat.add_comm]
    refine ⟨answer, done + 1, final, .asked lapse (setup.pace asked) false ::
      wholeTick setup.listeners.length lapse ++ made, ?_, ?_, ?_⟩
    · exact same.trans (by rw [← moved]; rfl)
    · rw [askFrom_of_tick covered goesRecorded more ranRecorded advanced]
      refine sameRecorded.trans ?_
      rw [← moved, List.append_assoc, List.append_assoc]
      rfl
    · obtain rfl := lapse_eq_lapseAt covered
      exact rest.cons (setup.pace asked)

theorem runTicks_recorded (count : Nat) (loop : TickLoop) (context : Context)
    (notes : List (Note Refusal)) :
    ∃ answer done reached made,
      setup.runTicks count loop context = (answer, loop.later done, reached) ∧
      setup.recorded.runTicks count loop (context, notes) =
        (answer, loop.later done, reached, notes ++ made) ∧
      RanTicks loop.clock.tickLength setup.listeners.length loop.clock.tick count answer made
        done := by
  induction count generalizing loop context notes with
  | zero => exact ⟨_, 0, context, [], rfl, by rw [List.append_nil]; rfl, .all⟩
  | succ count inductionHypothesis =>
    rcases covered : loop.clock.lapse with crash | lapse
    · refine ⟨.error (.crashed crash), 0, context, [], ?_, ?_,
        .overflown 0 crash (Nat.succ_pos count) (beyond_of_crash covered)⟩
      · rw [Setup.runTicks, covered]
        rfl
      · rw [Setup.runTicks, covered, List.append_nil]
        rfl
    rcases ran : runTick setup.listeners lapse context with ⟨failure | ⟨⟩, reached⟩
    · obtain ⟨made, reason, failedRecorded, rfl, upTo⟩ := runTick_recorded_failed ran notes
      refine ⟨.error (reason.map (.listener lapse.tick)), 0, reached, made, ?_, ?_, ?_⟩
      · rw [Setup.runTicks, covered]
        simp only [ran]
        rfl
      · rw [Setup.runTicks, covered]
        simp only [failedRecorded]
        rfl
      · obtain rfl := lapse_eq_lapseAt covered
        exact .failed 0 reason made (Nat.succ_pos count) upTo
    · have ranRecorded := runTick_recorded_ok ran notes
      obtain ⟨answer, done, final, made, same, sameRecorded, rest⟩ :=
        inductionHypothesis (loop.later 1) reached
          (notes ++ wholeTick setup.listeners.length lapse)
      rw [later_later, Nat.add_comm] at same sameRecorded
      refine ⟨answer, done + 1, final, wholeTick setup.listeners.length lapse ++ made, ?_, ?_, ?_⟩
      · rw [Setup.runTicks, covered]
        simp only [ran, advance_of_lapse covered]
        exact same
      · rw [Setup.runTicks, covered, ← List.append_assoc]
        simp only [ranRecorded, advance_of_lapse covered]
        exact sameRecorded
      · obtain rfl := lapse_eq_lapseAt covered
        exact rest.cons

/-- Recording calls changes nothing about them, and what is recorded tells what they do. -/
theorem calls_recorded (calls : List (Call Context)) (loop : TickLoop) (context : Context)
    (notes : List (Note Refusal)) :
    ∃ answers done reached made,
      setup.calls calls loop context = (answers, loop.later done, reached) ∧
      setup.recorded.calls (calls.map (.recorded setup.pace)) loop (context, notes) =
        (answers, loop.later done, reached, notes ++ made) ∧
      Told loop.clock.tickLength setup.listeners.length loop.maxTicks calls loop.clock.tick answers
        made (loop.clock.tick + done) := by
  induction calls generalizing loop context notes with
  | nil => exact ⟨[], 0, context, [], rfl, by rw [List.append_nil]; rfl, .none _⟩
  | cons call rest inductionHypothesis =>
    rw [List.map_cons, Setup.calls, Setup.calls]
    cases call with
    | run ask =>
      obtain ⟨answer, done, reached, made, same, sameRecorded, ran⟩ :=
        askFrom_recorded setup ask 0 0 loop context notes fun _ _ => Nat.zero_le _
      obtain ⟨answers, doneLater, final, madeLater, sameLater, sameRecordedLater, told⟩ :=
        inductionHypothesis (loop.later done) reached (notes ++ made)
      refine ⟨answer.map some :: answers, done + doneLater, final, made ++ madeLater, ?_, ?_, ?_⟩
      · rw [Setup.call, Setup.ask, same, ← later_later]
        simp only [sameLater]
      · rw [Call.recorded, Setup.call, Setup.ask, sameRecorded, ← later_later, ← List.append_assoc]
        simp only [sameRecordedLater]
      · rw [← Nat.add_assoc]
        exact .run ran told
    | runTicks count =>
      obtain ⟨answer, done, reached, made, same, sameRecorded, ran⟩ :=
        runTicks_recorded setup count loop context notes
      obtain ⟨answers, doneLater, final, madeLater, sameLater, sameRecordedLater, told⟩ :=
        inductionHypothesis (loop.later done) reached (notes ++ made)
      refine ⟨(answer.map fun _ => none) :: answers, done + doneLater, final, made ++ madeLater,
        ?_, ?_, ?_⟩
      · rw [Setup.call, same, ← later_later]
        simp only [sameLater]
      · rw [Call.recorded, Setup.call, sameRecorded, ← later_later, ← List.append_assoc]
        simp only [sameRecordedLater]
      · rw [← Nat.add_assoc]
        exact .runTicks ran told

end Recorded

/-! ### All calls of a loop -/

theorem start_eq_ok {settings : TickSettings} {loop : TickLoop}
    (started : (start settings : Except (TickError Refusal) TickLoop) = .ok loop) :
    loop.clock.tickLength = settings.tickLength ∧ loop.clock.tick = 0 ∧
      loop.maxTicks = settings.maxTicks := by
  unfold start TickClock.start at started
  split at started
  · cases started
  · split at started
    · rename_i clock counted
      split at counted
      · cases counted
        cases started
        exact ⟨rfl, rfl, rfl⟩
      · cases counted
    · cases started

/-- Whatever the listeners and the questions do, the calls of a tick loop do what is told of them
from tick `0` on: the tick that is run to its end as the `n`-th one has the lapse from `n` to
`n + 1` tick lengths, and one that fails is the first one of the next call. Recording the calls
changes nothing about them, and a run whose question leaves the context as it is, is a run of the
tick loop. -/
theorem calls_keep_schedule (setup : Setup Context Refusal) (calls : List (Call Context))
    (context : Context) {settings : TickSettings} {loop : TickLoop}
    (started : (start settings : Except (TickError Refusal) TickLoop) = .ok loop) :
    (∃ answers done reached notes,
      setup.calls calls loop context = (answers, loop.later done, reached) ∧
      setup.recorded.calls (calls.map (.recorded setup.pace)) loop (context, []) =
        (answers, loop.later done, reached, notes) ∧
      Told settings.tickLength setup.listeners.length settings.maxTicks calls 0 answers notes
        done) ∧
    ∀ stop : Context → TimeLapse → Bool, setup.ask (.of stop) = setup.run stop := by
  obtain ⟨tickLength, tick, maxTicks⟩ := start_eq_ok started
  obtain ⟨answers, done, reached, notes, same, sameRecorded, told⟩ :=
    calls_recorded setup calls loop context []
  rw [tickLength, tick, maxTicks, Nat.zero_add] at told
  refine ⟨⟨answers, done, reached, notes, same, sameRecorded, told⟩, fun stop => ?_⟩
  funext loop context
  exact askFrom_of stop

/-- One listener counts the ticks that begin and asks for the pace of the wall clock. Another one
refuses to end tick `1` as long as fewer than three ticks have begun. -/
def refusing : Setup (Nat × Pace) String where
  listeners := [
    { before := fun _ seen => (.ok (), seen.1 + 1, .realTime) },
    { after := fun lapse seen =>
        (if lapse.tick = 1 ∧ seen.1 < 3 then .error (.refused "busy") else .ok (), seen) }]
  pace := Prod.snd

/-- A run that fails in tick `1`, two ticks after it, tick `1` the first of them, and a run of two
ticks that stops at its bound: five ticks have been run to their end. -/
theorem calls_keep_schedule_refusing :
    let settings : TickSettings := ⟨10, .simulated, some 2⟩
    let loop : TickLoop := ⟨⟨10, 0, by decide⟩, some 2⟩
    let calls := [.run (.of fun _ _ => false), .runTicks 2, .run (.of fun _ _ => false)]
    let answers := [.error (.refused (.listener 1 "busy")), .ok none, .ok (some ⟨2, 2, 50, .timeout⟩)]
    (start settings : Except (TickError String) TickLoop) = .ok loop ∧
      refusing.calls calls loop (0, .simulated) = (answers, loop.later 5, (6, .realTime)) ∧
      ∃ notes, refusing.recorded.calls (calls.map (.recorded refusing.pace)) loop
          ((0, .simulated), []) = (answers, loop.later 5, (6, .realTime), notes) ∧
        Told 10 2 (some 2) calls 0 answers notes 5 := by
  intro settings loop calls answers
  have started : (start settings : Except (TickError String) TickLoop) = .ok loop := rfl
  have first : refusing.call (.run (.of fun _ _ => false)) loop (0, .simulated) =
      (.error (.refused (.listener 1 "busy")), loop.later 1, (2, .realTime)) := by
    rw [Setup.call, Setup.ask, askFrom_of_tick rfl rfl (by decide) rfl rfl,
      askFrom_of_failed rfl rfl (by decide) rfl]
    rfl
  have second : refusing.call (.runTicks 2) (loop.later 1) (2, .realTime) =
      (.ok none, loop.later 3, (4, .realTime)) := rfl
  have third : refusing.call (.run (.of fun _ _ => false)) (loop.later 3) (4, .realTime) =
      (.ok (some ⟨2, 2, 50, .timeout⟩), loop.later 5, (6, .realTime)) := by
    rw [Setup.call, Setup.ask, askFrom_of_tick rfl rfl (by decide) rfl rfl,
      askFrom_of_tick rfl rfl (by decide) rfl rfl, askFrom_of_exhausted rfl rfl (by decide)]
    rfl
  have ran : refusing.calls calls loop (0, .simulated) =
      (answers, loop.later 5, (6, .realTime)) := by
    simp only [Setup.calls, calls, first, second, third]
    rfl
  obtain ⟨_, done, _, notes, same, sameRecorded, told⟩ :=
    (calls_keep_schedule refusing calls (0, .simulated) started).1
  rw [ran] at same
  obtain ⟨rfl, later, rfl⟩ : _ ∧ _ ∧ _ := by
    simpa only [Prod.mk.injEq] using same
  obtain rfl : 5 = done := by
    simpa only [TickLoop.later, loop, TickLoop.mk.injEq, TickClock.mk.injEq, Nat.zero_add,
      true_and, and_true] using later
  exact ⟨started, ran, notes, sameRecorded, told⟩

end TickLoop

end LiveFleet
