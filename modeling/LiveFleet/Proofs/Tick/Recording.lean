/-
This file records a run of the tick loop. Next to the context a list of notes is
kept: one for every question whether to stop, and one for every callback of a
listener, with how it has ended. The question may work on the context, as the
listeners do; a loop that asks such a question is the tick loop when it does not.

Recording changes nothing: the recorded run answers what the run answers, and comes
to the same loop and the same context. What is recorded of one tick is known from
how the tick ends: every callback of its schedule if it ends well, and otherwise
the callbacks up to one, which has failed.
-/
import LiveFleet.Tick.Loop
import LiveFleet.Proofs.Attempt

namespace LiveFleet

/-! ### Noting how operations end -/

namespace Attempt

variable {State Error Member Other Note : Type}

instance : LawfulMonad (Attempt State Error) :=
  LawfulMonad.mk' _
    (fun first => funext fun state => by
      show (first >>= pure) state = first state
      rw [bind_apply]
      rcases first state with ⟨_ | _, _⟩ <;> rfl)
    (fun _ _ => rfl)
    fun first rest last => funext fun state => (bind_bind_apply first rest last state).symm

/-- Carry out an operation, and note how it has ended. -/
def noted (note : Except Error Unit → Note) (attempt : Attempt State Error Unit) :
    Attempt (State × List Note) Error Unit := fun seen =>
  ((attempt seen.1).1, (attempt seen.1).2, seen.2 ++ [note (attempt seen.1).1])

theorem noted_of_eq {note : Except Error Unit → Note} {attempt : Attempt State Error Unit}
    {state reached : State} {result : Except Error Unit} (ended : attempt state = (result, reached))
    (notes : List Note) :
    noted note attempt (state, notes) = (result, reached, notes ++ [note result]) := by
  rw [noted, ended]

/-- The notes on the members of a list that are told one after the other: all of them have ended
well, or those in front of one that has failed. -/
inductive Made (note : Member → Except Error Unit → Note) (members : List Member) :
    Except Error Unit → List Note → Prop where
  | all : Made note members (.ok ()) (members.map (note · (.ok ())))
  | upTo (front : List Member) (member : Member) (back : List Member) (error : Error)
      (split : members = front ++ member :: back) :
      Made note members (.error error)
        (front.map (note · (.ok ())) ++ [note member (.error error)])

variable {note : Member → Except Error Unit → Note} {members : List Member}
  {result : Except Error Unit} {made : List Note}

theorem Made.cons (rest : Made note members result made) (member : Member) :
    Made note (member :: members) result (note member (.ok ()) :: made) := by
  cases rest with
  | all => exact .all
  | upTo front other back error split =>
    exact .upTo (member :: front) other back error (congrArg (member :: ·) split)

/-- The notes do not tell members apart that are noted in the same way. -/
theorem Made.map {wider : Other → Except Error Unit → Note} (name : Member → Other)
    (named : Made (fun member => wider (name member)) members result made) :
    Made wider (members.map name) result made := by
  cases named with
  | all =>
    have whole : Made wider (members.map name) (.ok ()) _ := .all
    rw [List.map_map] at whole
    exact whole
  | upTo front member back error split =>
    have upTo : Made wider (members.map name) (.error error) _ :=
      .upTo (front.map name) (name member) (back.map name) error
        (by rw [split, List.map_append, List.map_cons])
    rw [List.map_map] at upTo
    exact upTo

/-- Members that note how they end are told as without notes. -/
theorem forM_noted (note : Member → Except Error Unit → Note)
    (told : Member → Attempt State Error Unit) (members : List Member) (state : State)
    (notes : List Note) :
    ∃ made, (members.forM fun member => noted (note member) (told member)) (state, notes) =
        ((members.forM told state).1, (members.forM told state).2, notes ++ made) ∧
      Made note members (members.forM told state).1 made := by
  induction members generalizing state notes with
  | nil => exact ⟨[], by rw [List.append_nil]; rfl, .all⟩
  | cons member rest inductionHypothesis =>
    let told' := fun member => noted (note member) (told member)
    rcases ended : told member state with ⟨error | ⟨⟩, reached⟩
    · have plain : (member :: rest).forM told state = (.error error, reached) :=
        bind_of_failed ended
      have recorded : (member :: rest).forM told' (state, notes) =
          (.error error, reached, notes ++ [note member (.error error)]) :=
        bind_of_failed (noted_of_eq ended notes)
      rw [plain]
      exact ⟨_, recorded, .upTo [] member rest error rfl⟩
    · have plain : (member :: rest).forM told state = rest.forM told reached := bind_of_ok ended
      have recorded : (member :: rest).forM told' (state, notes) =
          rest.forM told' (reached, notes ++ [note member (.ok ())]) :=
        bind_of_ok (noted_of_eq ended notes)
      obtain ⟨made, same, madeRest⟩ :=
        inductionHypothesis reached (notes ++ [note member (.ok ())])
      rw [plain]
      refine ⟨note member (.ok ()) :: made, recorded.trans (same.trans ?_), madeRest.cons member⟩
      rw [List.append_assoc, List.singleton_append]

end Attempt

open Attempt

/-! ### The callbacks of a tick -/

/-- The two moments of a tick at which listeners are called back. -/
inductive Moment where
  | before
  | after
  deriving DecidableEq, Repr

/-- A callback: the moment, and the place of the listener in the order of registration. -/
structure Callback where
  moment : Moment
  listener : Nat
  deriving DecidableEq, Repr

/-- What is written down in a run of the tick loop. -/
inductive Note (Refusal : Type) where
  /-- Whether to stop was asked before this lapse; then this pace held. -/
  | asked (lapse : TimeLapse) (pace : Pace) (answer : Bool)
  /-- This callback was made with this lapse, and ended so. -/
  | called (lapse : TimeLapse) (callback : Callback) (outcome : Except (Failure Refusal) Unit)

namespace Listener

variable {Context Refusal : Type}

/-- What the listener does at a moment of a tick. -/
def callAt (listener : Listener Context Refusal) :
    Moment → TimeLapse → Attempt Context (Failure Refusal) Unit
  | .before => listener.before
  | .after => listener.after

/-- The listener, with a note on each of its callbacks. -/
def recorded (listener : Listener Context Refusal) (place : Nat) :
    Listener (Context × List (Note Refusal)) Refusal where
  before lapse := noted (.called lapse ⟨.before, place⟩) (listener.before lapse)
  after lapse := noted (.called lapse ⟨.after, place⟩) (listener.after lapse)

/-- The listeners of a list, each with notes on its callbacks. -/
def recordedAll (listeners : List (Listener Context Refusal)) :
    List (Listener (Context × List (Note Refusal)) Refusal) :=
  listeners.zipIdx.map fun (listener, place) => listener.recorded place

/-- The callbacks of a tick in their order: first every listener is told that the tick begins, then
every listener, in the same order, that it ends. -/
def schedule (listeners : Nat) : List Callback :=
  (List.range listeners).map (⟨.before, ·⟩) ++ (List.range listeners).map (⟨.after, ·⟩)

/-- The callbacks of a tick, with the listeners that are called. -/
def callees (listeners : List (Listener Context Refusal)) :
    List (Moment × Listener Context Refusal × Nat) :=
  listeners.zipIdx.map (Moment.before, ·) ++ listeners.zipIdx.map (Moment.after, ·)

theorem callees_schedule (listeners : List (Listener Context Refusal)) :
    (callees listeners).map (fun (moment, _, place) => ⟨moment, place⟩) =
      schedule listeners.length := by
  rw [schedule, List.range_eq_range', ← List.zipIdx_map_snd 0 listeners, callees,
    List.map_append, List.map_map, List.map_map, List.map_map, List.map_map]
  rfl

theorem notify_eq (listeners : List (Listener Context Refusal)) (lapse : TimeLapse) :
    notify listeners lapse =
      (callees listeners).forM fun (moment, listener, _) => listener.callAt moment lapse := by
  have named (moment : Moment) : (listeners.forM fun listener => listener.callAt moment lapse) =
      (listeners.zipIdx.map (moment, ·)).forM fun (moment, listener, _) =>
        listener.callAt moment lapse := by
    conv => lhs; rw [← List.zipIdx_map_fst 0 listeners]
    rw [List.forM_eq_forM, List.forM_map, List.forM_eq_forM, List.forM_map]
  rw [callees, List.forM_eq_forM, List.forM_append, ← List.forM_eq_forM, ← named, ← named]
  rfl

theorem notify_recordedAll (listeners : List (Listener Context Refusal)) (lapse : TimeLapse) :
    notify (recordedAll listeners) lapse =
      (callees listeners).forM fun (moment, listener, place) =>
        noted (.called lapse ⟨moment, place⟩) (listener.callAt moment lapse) := by
  rw [notify, recordedAll, callees, List.forM_eq_forM, List.forM_eq_forM, List.forM_append,
    List.forM_map, List.forM_map, List.forM_map, List.forM_map]
  rfl

end Listener

namespace TickLoop

variable {Context Refusal : Type}

/-- The same listeners and the same pace, with notes on all callbacks. -/
def Setup.recorded (setup : Setup Context Refusal) :
    Setup (Context × List (Note Refusal)) Refusal where
  listeners := Listener.recordedAll setup.listeners
  pace seen := setup.pace seen.1

/-- A recorded tick is the tick, and its callbacks are those of its schedule. -/
theorem runTick_recorded (setup : Setup Context Refusal) (lapse : TimeLapse) (context : Context)
    (notes : List (Note Refusal)) :
    ∃ made result, runTick setup.recorded.listeners lapse (context, notes) =
        ((runTick setup.listeners lapse context).1, (runTick setup.listeners lapse context).2,
          notes ++ made) ∧
      (runTick setup.listeners lapse context).1 =
        result.mapError (Failure.map (.listener lapse.tick)) ∧
      Made (.called lapse) (Listener.schedule setup.listeners.length) result made := by
  obtain ⟨made, same, complete⟩ := forM_noted
    (fun (moment, _, place) => (Note.called lapse ⟨moment, place⟩ : _ → Note Refusal))
    (fun (moment, listener, _) => listener.callAt moment lapse)
    (Listener.callees setup.listeners) context notes
  rw [← Listener.notify_eq, ← Listener.notify_recordedAll] at same
  rw [← Listener.notify_eq] at complete
  refine ⟨made, _, ?_, ?_, Listener.callees_schedule setup.listeners ▸ complete.map _⟩
  · dsimp only [runTick, within, id, Setup.recorded]
    rw [same]
    rcases Listener.notify setup.listeners lapse context with ⟨_ | _, _⟩ <;> rfl
  · dsimp only [runTick, within, id]
    rcases Listener.notify setup.listeners lapse context with ⟨_ | _, _⟩ <;> rfl

end TickLoop

end LiveFleet
