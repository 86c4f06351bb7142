/-
This file writes down the ticks that a run begins, over any number of calls and
whatever becomes of them: the lapse of each tick, and the fleet at its start. What
is said of all earlier ticks together with the fleet is shown in the way in which
the list grows, one tick after the other.
-/
import LiveFleet.Proofs.Run.Upkeep

namespace LiveFleet

open Attempt

/-! ### The ticks of one call -/

namespace TickLoop

variable {Context Refusal : Type} {setup : Setup Context Refusal}
  {stop : Context → TimeLapse → Bool}

/-- The ticks that a call begins, after the given number of ticks have run. The last one may have
failed. -/
def Setup.begun (setup : Setup Context Refusal) (stop : Context → TimeLapse → Bool) (ticks : Nat)
    (loop : TickLoop) (context : Context) : List (TimeLapse × Context) :=
  match loop.clock.lapse with
  | .error _ => []
  | .ok lapse =>
    if stop context lapse then []
    else if loop.isExhausted ticks then []
    else
      (lapse, context) ::
        match runTick setup.listeners lapse context with
        | (.error _, _) => []
        | (.ok (), reached) =>
          match advanced : loop.clock.advance with
          | .error _ => []
          | .ok clock => setup.begun stop (ticks + 1) { loop with clock } reached
termination_by Checked.range - loop.clock.tick
decreasing_by
  obtain ⟨next, bounded⟩ := TickClock.advance_eq_ok_iff.1 advanced
  simp only [next]
  omega

section

variable {ticks : Nat} {loop : TickLoop} {context reached : Context} {lapse : TimeLapse}
  {failure : Failure (TickError Refusal)} {clock : TickClock}
  (covered : loop.clock.lapse = .ok lapse) (goes : stop context lapse = false)
  (allowed : loop.isExhausted ticks = false)

include covered

theorem begun_of_stop (stops : stop context lapse = true) :
    setup.begun stop ticks loop context = [] := by
  rw [Setup.begun, covered]
  exact if_pos stops

theorem begun_of_exhausted (exhausted : loop.isExhausted ticks = true) :
    setup.begun stop ticks loop context = [] := by
  rw [Setup.begun, covered]
  dsimp only
  rw [if_pos exhausted, ite_self]

include goes allowed

theorem begun_of_failed
    (failed : runTick setup.listeners lapse context = (.error failure, reached)) :
    setup.begun stop ticks loop context = [(lapse, context)] := by
  rw [Setup.begun, covered]
  simp only [goes, allowed, failed, Bool.false_eq_true, if_false]

theorem begun_of_tick (ran : runTick setup.listeners lapse context = (.ok (), reached))
    (advanced : loop.clock.advance = .ok clock) :
    setup.begun stop ticks loop context =
      (lapse, context) :: setup.begun stop (ticks + 1) { loop with clock } reached := by
  rw [Setup.begun, covered]
  simp only [goes, allowed, ran, Bool.false_eq_true, if_false]
  split <;> simp_all

end

/-- A tick keeps what is said of the ticks before it and of the context. -/
def Setup.Recounts (setup : Setup Context Refusal)
    (Holds : List (TimeLapse × Context) → Context → Prop) : Prop :=
  ∀ (clock : TickClock) lapse past context, clock.lapse = .ok lapse → Holds past context →
    Holds (past ++ [(lapse, context)]) (runTick setup.listeners lapse context).2

namespace Setup.Recounts

variable {Holds : List (TimeLapse × Context) → Context → Prop} (recounts : setup.Recounts Holds)

include recounts

/-- A call ends with what is said of all its ticks. -/
theorem runFrom (ticks realTimeTicks : Nat) (loop : TickLoop) (context : Context) :
    ∀ past, Holds past context →
      Holds (past ++ setup.begun stop ticks loop context)
        (setup.runFrom stop ticks realTimeTicks loop context).2.2 := by
  fun_induction setup.runFrom stop ticks realTimeTicks loop context with
  | case1 ticks realTimeTicks loop context crash lost =>
    intro past holds
    rw [Setup.begun, lost]
    rwa [List.append_nil]
  | case2 ticks realTimeTicks loop context lapse covered stops =>
    intro past holds
    rwa [begun_of_stop covered stops, List.append_nil]
  | case3 ticks realTimeTicks loop context lapse covered goes exhausted =>
    intro past holds
    rwa [begun_of_exhausted covered exhausted, List.append_nil]
  | case4 ticks realTimeTicks loop context lapse covered goes allowed failure reached ran =>
    intro past holds
    have kept := recounts _ lapse past context covered holds
    rw [ran] at kept
    rw [begun_of_failed covered (eq_false_of_ne_true goes) (eq_false_of_ne_true allowed) ran]
    exact kept
  | case5 ticks realTimeTicks loop context lapse covered goes allowed reached ran crash lost =>
    have next := TickClock.advance_eq_ok_iff.2 ⟨rfl, TickClock.tick_lt_of_lapse covered⟩
    rw [lost] at next
    cases next
  | case6 ticks realTimeTicks loop context lapse covered goes allowed reached ran clock advanced
      paced inductionHypothesis =>
    intro past holds
    have kept := recounts _ lapse past context covered holds
    rw [ran] at kept
    have later := inductionHypothesis _ kept
    rw [begun_of_tick covered (eq_false_of_ne_true goes) (eq_false_of_ne_true allowed) ran advanced]
    rwa [List.append_assoc] at later

/-- Every tick of a call begins with what is said of the ticks before it. -/
theorem of_begun {ticks : Nat} {loop : TickLoop} {later : List (TimeLapse × Context)}
    {context before : Context} {lapse : TimeLapse} :
    ∀ past earlier, Holds past context →
      setup.begun stop ticks loop context = earlier ++ (lapse, before) :: later →
        Holds (past ++ earlier) before ∧ ∃ clock : TickClock, clock.lapse = .ok lapse := by
  fun_induction Setup.begun setup stop ticks loop context with
  | case1 | case2 | case3 =>
    intro past earlier _ split
    cases (List.append_eq_nil_iff.1 split.symm).2
  | case4 ticks loop context first covered goes allowed inductionHypothesis =>
    intro past earlier holds split
    cases earlier with
    | nil =>
      cases (List.cons.inj split).1
      rw [List.append_nil]
      exact ⟨holds, _, covered⟩
    | cons tick earlier =>
      obtain ⟨rfl, rest⟩ := List.cons.inj split
      have kept := recounts _ first past context covered holds
      split at rest
      · cases (List.append_eq_nil_iff.1 rest.symm).2
      · rename_i reached ran
        rw [ran] at kept
        split at rest
        · cases (List.append_eq_nil_iff.1 rest.symm).2
        · rename_i clock advanced
          have later := inductionHypothesis reached clock advanced _ earlier kept rest
          rwa [List.append_assoc] at later

end Setup.Recounts

end TickLoop

/-! ### Any number of calls -/

namespace Fleet

variable {Surroundings : Type}

/-- A tick of a run with the given number of vehicles. -/
def tick (worker : Worker Surroundings) (vehicles : Nat) (lapse : TimeLapse) :
    Attempt (Fleet Surroundings) (Failure (TickError Refusal)) Unit :=
  TickLoop.runTick (members worker vehicles ++ []) lapse

/-- What is said of the ticks so far and of a fleet with the given number of vehicles is kept in a
run. -/
structure Recounts (worker : Worker Surroundings) (vehicles : Nat)
    (Holds : List (TimeLapse × Fleet Surroundings) → Fleet Surroundings → Prop) : Prop where
  counted : ∀ past fleet, Holds past fleet → fleet.couriers.length = vehicles
  turn : ∀ past, Maintains (Holds past) (turn worker)
  tick : ∀ (clock : TickClock) lapse past fleet, clock.lapse = .ok lapse → Holds past fleet →
    Holds (past ++ [(lapse, fleet)]) (tick worker vehicles lapse fleet).2

end Fleet

namespace Simulation

variable {Surroundings : Type} {worker : Worker Surroundings}

/-- The ticks that the next call begins: their lapses, and the fleet at the start of each. -/
def begun (worker : Worker Surroundings) (simulation : Simulation Surroundings) :
    List (TimeLapse × Fleet Surroundings) :=
  (simulation.setup worker []).begun
    (fun fleet lapse => simulation.stop.isMet fleet.scene lapse) 0 simulation.loop
    (Fleet.turn worker simulation.fleet).2

/-- The ticks that a number of calls begin, in order. -/
def history (worker : Worker Surroundings) (simulation : Simulation Surroundings) :
    Nat → List (TimeLapse × Fleet Surroundings)
  | 0 => []
  | calls + 1 => simulation.history worker calls ++ (simulation.after worker [] calls).begun worker

variable {Holds : List (TimeLapse × Fleet Surroundings) → Fleet Surroundings → Prop}
  {simulation : Simulation Surroundings} {past : List (TimeLapse × Fleet Surroundings)}

/-- What a fleet with its number of vehicles keeps is kept by the ticks of the next call. -/
theorem recounts_setup {vehicles : Nat} (recounts : Fleet.Recounts worker vehicles Holds)
    (holds : Holds past simulation.fleet) : (simulation.setup worker []).Recounts Holds := by
  intro clock lapse past' fleet covered holdsThen
  have kept := recounts.tick clock lapse past' fleet covered holdsThen
  rw [← recounts.counted past simulation.fleet holds] at kept
  exact kept

theorem recounts_run {vehicles : Nat} (recounts : Fleet.Recounts worker vehicles Holds)
    (holds : Holds past simulation.fleet) :
    Holds (past ++ simulation.begun worker) (run worker simulation).2.fleet := by
  let stop := fun (fleet : Fleet Surroundings) lapse => simulation.stop.isMet fleet.scene lapse
  have kept : Holds (past ++ simulation.begun worker)
      ((simulation.setup worker []).runFrom stop 0 0 simulation.loop _).2.2 :=
    (recounts_setup recounts holds).runFrom 0 0 simulation.loop
      (Fleet.turn worker simulation.fleet).2 past (recounts.turn past simulation.fleet holds)
  unfold run runObserved TickLoop.Setup.run
  dsimp only at kept ⊢
  generalize (simulation.setup worker []).runFrom _ 0 0 simulation.loop
    (Fleet.turn worker simulation.fleet).2 = outcome at kept
  rcases outcome with ⟨_ | _, _, _⟩ <;> exact kept

/-- What is said of no ticks and the fleet of a run is said of all its ticks, after any number of
calls, however they have ended. -/
theorem recounts_after {vehicles : Nat} (recounts : Fleet.Recounts worker vehicles Holds)
    (first : Holds [] simulation.fleet) (calls : Nat) :
    Holds (simulation.history worker calls) (simulation.after worker [] calls).fleet := by
  induction calls with
  | zero => exact first
  | succ calls inductionHypothesis => exact recounts_run recounts inductionHypothesis

/-- It is said of the ticks before any tick, and of the fleet at its start. -/
theorem recounts_begun {vehicles : Nat} (recounts : Fleet.Recounts worker vehicles Holds)
    (first : Holds [] simulation.fleet) (calls : Nat)
    {earlier later : List (TimeLapse × Fleet Surroundings)} {lapse : TimeLapse}
    {fleet : Fleet Surroundings}
    (begun : (simulation.after worker [] calls).begun worker = earlier ++ (lapse, fleet) :: later) :
    Holds (simulation.history worker calls ++ earlier) fleet ∧
      ∃ clock : TickClock, clock.lapse = .ok lapse := by
  have before := recounts_after recounts first calls
  exact (recounts_setup recounts before).of_begun _ earlier (recounts.turn _ _ before) begun

end Simulation

end LiveFleet
