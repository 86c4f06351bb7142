/-
This file lists the moments of a run at which its drivers can be seen: the start and
the end of every tick, and the moments after every look at the board and every round
of a drive, in the order in which they come. Whatever becomes of the ticks and calls,
these moments lie in this order on one history of the run. So what is said of every
moment of a history is said of them, and of what has happened between them.
-/
import LiveFleet.Proofs.Run.Handover
import LiveFleet.Proofs.Run.Paths

namespace LiveFleet

open Attempt

/-! ### What a driver sees -/

namespace Cab

variable {Board : Type}

/-- What a driver sees after each round of a drive, in order. -/
def rounds (read : ReadBoard Board) (lapse : TimeLapse) (mayReturn : Bool) (time : Nat)
    (cab : Cab Board) : List (Cab Board) :=
  match _ : round read lapse mayReturn time cab with
  | (.error _, reached) => [reached]
  | (.ok none, reached) => [reached]
  | (.ok (some next), reached) => reached :: rounds read lapse mayReturn next reached
termination_by cab.effort
decreasing_by exact round_less (by assumption)

/-- What a driver sees in a tick, in order: after its look at the board, and after each round. -/
def sights (read : ReadBoard Board) (lapse : TimeLapse) (mayReturn : Bool) (cab : Cab Board) :
    List (Cab Board) :=
  match adopt read cab with
  | (.error _, reached) => [reached]
  | (.ok (), reached) => reached :: rounds read lapse mayReturn lapse.start reached

end Cab

/-! ### Moments on one history -/

namespace Fleet

variable {Surroundings : Type} {worker : Worker Surroundings}
  {first now next fleet : Fleet Surroundings} {visited : List (Fleet Surroundings)} {index : Nat}

/-- The moments lie in this order on one history, which has come to the given moment. -/
def LieInOrder (worker : Worker Surroundings) (first : Fleet Surroundings)
    (visited : List (Fleet Surroundings)) (now : Fleet Surroundings) : Prop :=
  ∃ (moments : Nat → Fleet Surroundings) (length : Nat) (positions : List Nat),
    History worker first moments length ∧ moments length = now ∧
      positions.Pairwise (· ≤ ·) ∧ (∀ position ∈ positions, position ≤ length) ∧
      positions.map moments = visited

namespace LieInOrder

theorem start (worker : Worker Surroundings) (first : Fleet Surroundings) :
    LieInOrder worker first [] first :=
  ⟨fun _ => first, 0, [], ⟨rfl, nofun⟩, rfl, .nil, nofun, rfl⟩

variable (lie : LieInOrder worker first visited now)

include lie

/-- The moment to which the history has come is visited. -/
theorem visit : LieInOrder worker first (visited ++ [now]) now := by
  obtain ⟨moments, length, positions, history, rfl, ordered, within, rfl⟩ := lie
  refine ⟨moments, length, positions ++ [length], history, rfl, ?_, ?_, List.map_append⟩
  · refine List.pairwise_append.2 ⟨ordered, List.pairwise_singleton _ _, ?_⟩
    intro position earlier last isLast
    obtain rfl := List.mem_singleton.1 isLast
    exact within position earlier
  · intro position member
    rcases List.mem_append.1 member with earlier | isLast
    · exact within position earlier
    · exact Nat.le_of_eq (List.mem_singleton.1 isLast)

/-- The history goes on. -/
theorem step (takes : Takes worker now next) : LieInOrder worker first visited next := by
  obtain ⟨moments, length, positions, history, rfl, ordered, within, rfl⟩ := lie
  refine ⟨_, length + 1, positions, history.continued takes,
    if_neg (Nat.not_succ_le_self length), ordered,
    fun position member => Nat.le_succ_of_le (within position member), ?_⟩
  exact List.map_congr_left fun position member => if_pos (within position member)

theorem along (path : Path worker now next) : LieInOrder worker first visited next := by
  induction path with
  | refl => exact lie
  | tail _ takes inductionHypothesis => exact inductionHypothesis.step takes

end LieInOrder

/-! ### The moments of a tick -/

/-- The moments of a tick of the driver at a position of the list, in order. -/
def momentsOf (worker : Worker Surroundings) (lapse : TimeLapse) (index : Nat)
    (fleet : Fleet Surroundings) : List (Fleet Surroundings) :=
  match fleet.couriers[index]? with
  | none => []
  | some courier =>
    ((fleet.cab courier).sights (readBoard worker) lapse (fleet.scene.pending = 0)).map
      fun cab => putBack index cab fleet

/-- The moments when the drivers at these positions drive, one after the other, until one of them
fails. -/
def momentsOfAll (worker : Worker Surroundings) (lapse : TimeLapse) :
    List Nat → Fleet Surroundings → List (Fleet Surroundings)
  | [], _ => []
  | index :: rest, fleet =>
    fleet.momentsOf worker lapse index ++
      match driveOne worker index lapse fleet with
      | (.error _, _) => []
      | (.ok (), reached) => momentsOfAll worker lapse rest reached

/-- The moments of a tick, in order: its start, those of the drivers if it comes to them, and its
end. -/
def momentsIn (worker : Worker Surroundings) (lapse : TimeLapse) (fleet : Fleet Surroundings) :
    List (Fleet Surroundings) :=
  let drivers := List.range fleet.couriers.length
  [fleet] ++
    (match (reportNews worker lapse (fleet.announced lapse)).1 with
      | .error _ => []
      | .ok () => (fleet.informed worker lapse).momentsOfAll worker lapse drivers) ++
    [(tick worker fleet.couriers.length lapse fleet).2]

namespace LieInOrder

section

variable {courier : Courier} (found : fleet.couriers[index]? = some courier)

include found

/-- A round adds the moment after it. -/
theorem round {lapse : TimeLapse} {mayReturn : Bool} {time : Nat}
    {cab after : Cab (Desk × Surroundings)} {result : Except (Failure WorldError) (Option Nat)}
    (gone : Cab.round (readBoard worker) lapse mayReturn time cab = (result, after))
    (lie : LieInOrder worker first visited (putBack index cab fleet)) :
    LieInOrder worker first (visited ++ [putBack index after fleet])
      (putBack index after fleet) := by
  have takes : Takes worker (putBack index cab fleet) _ :=
    takes_round_of found cab lapse mayReturn time
  rw [gone] at takes
  exact (lie.step takes).visit

/-- The moments of a drive, however it ends. -/
theorem rounds (lapse : TimeLapse) (mayReturn : Bool) (time : Nat)
    (cab : Cab (Desk × Surroundings))
    (lie : LieInOrder worker first visited (putBack index cab fleet)) :
    LieInOrder worker first
      (visited ++ (Cab.rounds (readBoard worker) lapse mayReturn time cab).map
        fun seen => putBack index seen fleet)
      (putBack index (Cab.drive (readBoard worker) lapse mayReturn time cab).2 fleet) := by
  fun_induction Cab.rounds (readBoard worker) lapse mayReturn time cab generalizing visited with
  | case1 time cab failure reached gone =>
    rw [Cab.drive_of_failed gone]
    exact round found gone lie
  | case2 time cab reached gone =>
    rw [Cab.drive_of_over gone]
    exact round found gone lie
  | case3 time cab next reached gone inductionHypothesis =>
    have rest := inductionHypothesis (round found gone lie)
    rw [List.append_assoc] at rest
    rw [Cab.drive_of_next gone]
    exact rest

/-- What the driver sees in a tick, however the tick ends for it. -/
theorem sights (lapse : TimeLapse) (mayReturn : Bool)
    (lie : LieInOrder worker first visited fleet) :
    LieInOrder worker first
      (visited ++ ((fleet.cab courier).sights (readBoard worker) lapse mayReturn).map
        fun seen => putBack index seen fleet)
      (putBack index (Cab.tick (readBoard worker) lapse mayReturn (fleet.cab courier)).2
        fleet) := by
  have looks : Takes worker fleet _ := .inl (.adopted found)
  rw [Cab.tick_apply, Cab.sights]
  generalize Cab.adopt (readBoard worker) (fleet.cab courier) = outcome at looks
  have looked := (lie.step looks).visit
  rcases outcome with ⟨_ | _, cab⟩
  · exact looked
  · have rest := rounds found lapse mayReturn lapse.start cab looked
    rw [List.append_assoc] at rest
    exact rest

end

variable (lie : LieInOrder worker first visited fleet)

include lie

theorem driver (lapse : TimeLapse) (index : Nat) :
    LieInOrder worker first (visited ++ fleet.momentsOf worker lapse index)
      (driveOne worker index lapse fleet).2 := by
  unfold driveOne momentsOf
  rw [get_bind_apply]
  cases found : fleet.couriers[index]? with
  | none =>
    dsimp only
    rw [List.append_nil]
    exact lie
  | some courier =>
    have ticked := sights found lapse (fleet.scene.pending = 0) lie
    dsimp only [within]
    generalize Cab.tick (readBoard worker) lapse (fleet.scene.pending = 0) (fleet.cab courier) =
      outcome at ticked
    rcases outcome with ⟨_ | _, cab⟩ <;> exact ticked

theorem drivers (lapse : TimeLapse) (indices : List Nat) :
    LieInOrder worker first (visited ++ fleet.momentsOfAll worker lapse indices)
      (driveAll worker lapse indices fleet).2 := by
  induction indices generalizing visited fleet with
  | nil =>
    rw [momentsOfAll, List.append_nil]
    exact lie
  | cons index rest inductionHypothesis =>
    have drove := lie.driver lapse index
    rw [momentsOfAll, ← List.append_assoc]
    show LieInOrder worker first _
      ((driveOne worker index lapse >>= fun _ => driveAll worker lapse rest) fleet).2
    rw [bind_apply]
    generalize driveOne worker index lapse fleet = outcome at drove
    rcases outcome with ⟨_ | _, reached⟩
    · dsimp only
      rw [List.append_nil]
      exact drove
    · exact inductionHypothesis drove

/-- The moments of a tick, whatever becomes of it. -/
theorem tick (lapse : TimeLapse) :
    LieInOrder worker first (visited ++ fleet.momentsIn worker lapse)
      (Fleet.tick worker fleet.couriers.length lapse fleet).2 := by
  have announced : Ends worker [] fleet _ (fleet.announced lapse) := treads_announcing lapse fleet
  have told : Ends worker [] (fleet.announced lapse) _ (fleet.informed worker lapse) :=
    treads_reportNews lapse (fleet.announced lapse)
  have informed := (lie.visit.along announced.path).along told.path
  unfold momentsIn
  dsimp only
  rw [← List.append_assoc, ← List.append_assoc]
  rcases tick_cases worker fleet.couriers.length lapse fleet with
    ⟨refused, -, ends⟩ | ⟨healthy, rest⟩
  · rw [ends]
    cases failed : (reportNews worker lapse (fleet.announced lapse)).1 with
    | ok => exact absurd failed refused
    | error _ =>
      dsimp only
      rw [List.append_nil]
      exact informed.visit
  · rw [healthy]
    have driven := informed.drivers lapse (List.range fleet.couriers.length)
    rcases rest with ⟨-, ends⟩ | ⟨-, ends⟩
    · rw [ends]
      exact driven.visit
    · have closed : Ends worker [] (fleet.driven worker fleet.couriers.length lapse) _ _ :=
        treads_reportRepairs lapse _
      rw [ends]
      exact (driven.along closed.path).visit

end LieInOrder

/-- A tick adds its moments. -/
theorem recounts_lieInOrder (worker : Worker Surroundings) (first : Fleet Surroundings)
    (vehicles : Nat) :
    Recounts worker vehicles fun past fleet => fleet.couriers.length = vehicles ∧
      LieInOrder worker first (past.flatMap fun entry => entry.2.momentsIn worker entry.1)
        fleet where
  counted := fun _ _ known => known.1
  turn := by
    intro past fleet known
    have turned : Ends worker [] fleet _ _ := treads_turn fleet
    exact ⟨known.1, known.2.along turned.path⟩
  tick := by
    rintro clock lapse past fleet covered ⟨rfl, lie⟩
    have counted := counted_upkeep worker fleet.couriers.length
    refine ⟨TickLoop.maintains_runTick (counted.before covered) (counted.after clock) fleet rfl, ?_⟩
    rw [List.flatMap_append, List.flatMap_singleton]
    exact lie.tick lapse

end Fleet

/-! ### The moments of a run -/

namespace Simulation

open Fleet

variable {Surroundings : Type}

/-- The moments of a number of calls, in order. -/
def moments (worker : Worker Surroundings) (simulation : Simulation Surroundings) (calls : Nat) :
    List (Fleet Surroundings) :=
  (simulation.history worker calls).flatMap fun entry => entry.2.momentsIn worker entry.1

/-- They lie in order on one history, which goes on to the end of the last call. -/
theorem lieInOrder_moments (simulation : Simulation Surroundings) (worker : Worker Surroundings)
    (calls : Nat) :
    LieInOrder worker simulation.fleet (simulation.moments worker calls)
      (simulation.after worker [] calls).fleet :=
  (recounts_after (recounts_lieInOrder worker simulation.fleet simulation.fleet.couriers.length)
    ⟨rfl, .start _ _⟩ calls).2

end Simulation

end LiveFleet
