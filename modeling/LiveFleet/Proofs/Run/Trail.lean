/-
This file divides a run into its indivisible steps. A step is an announcement, the
opening of pickup windows, a look of a driver at the board, one round of driving,
or something that touches neither the world nor a driver. Every call of a run is a
sequence of such steps, whichever solver works at the desk, so what each of them
keeps holds at every moment of the run. There is one exception: a round in which
the end of a service lies beyond the range of times crashes after the service has
begun, and loses it. Nothing follows such a round in its call.
-/
import LiveFleet.Proofs.Run.Board
import LiveFleet.Proofs.World.Course
import LiveFleet.Run.Simulation
import Mathlib.Logic.Relation

namespace LiveFleet

/-! ### Driving, round by round -/

namespace Cab

variable {Board : Type} {read : ReadBoard Board} {lapse : TimeLapse} {mayReturn : Bool}
  {time next : Nat} {cab reached : Cab Board} {failure : Failure WorldError}

theorem tick_apply (read : ReadBoard Board) (lapse : TimeLapse) (mayReturn : Bool)
    (cab : Cab Board) :
    tick read lapse mayReturn cab =
      match adopt read cab with
      | (.ok _, reached) => drive read lapse mayReturn lapse.start reached
      | (.error failure, reached) => (.error failure, reached) := by
  show Attempt.andThen (adopt read) (fun _ => drive read lapse mayReturn lapse.start) cab = _
  unfold Attempt.andThen
  rcases adopt read cab with ⟨_ | _, _⟩ <;> rfl

theorem drive_of_failed (gone : round read lapse mayReturn time cab = (.error failure, reached)) :
    drive read lapse mayReturn time cab = (.error failure, reached) := by
  rw [drive]
  split <;> simp_all

theorem drive_of_over (gone : round read lapse mayReturn time cab = (.ok none, reached)) :
    drive read lapse mayReturn time cab = (.ok (), reached) := by
  rw [drive]
  split <;> simp_all

theorem drive_of_next (gone : round read lapse mayReturn time cab = (.ok (some next), reached)) :
    drive read lapse mayReturn time cab = drive read lapse mayReturn next reached := by
  rw [drive]
  split <;> simp_all

end Cab

namespace Fleet

variable {Surroundings : Type}

/-! ### Steps and trails -/

/-- A service has begun of which its driver does not know. -/
def HasLostService (fleet : Fleet Surroundings) : Prop :=
  LiveFleet.HasLostService fleet.scene.world fleet.couriers

/-- The result of one round of a driver, and the fleet after it. -/
def round (worker : Worker Surroundings) (fleet : Fleet Surroundings) (index : Nat)
    (courier : Courier) (lapse : TimeLapse) (mayReturn : Bool) (time : Nat) :
    Except (Failure WorldError) (Option Nat) × Fleet Surroundings :=
  let outcome := Cab.round (readBoard worker) lapse mayReturn time (fleet.cab courier)
  (outcome.1, putBack index outcome.2 fleet)

/-- One indivisible step of those who take part in a run. -/
inductive Stride (worker : Worker Surroundings) (observers : List (Member Surroundings)) :
    Fleet Surroundings → Fleet Surroundings → Prop where
  /-- The world and the drivers stay as they are, and at the desk the parties act. -/
  | aside {fleet after : Fleet Surroundings} (world : after.scene.world = fleet.scene.world)
      (couriers : after.couriers = fleet.couriers)
      (desk : fleet.desk.LeadsTo after.desk) : Stride worker observers fleet after
  | announced (fleet : Fleet Surroundings) (order : TransportOrder) :
      Stride worker observers fleet
        { fleet with
          scene := { fleet.scene with
            world := (fleet.scene.world.announce order order.announceTime).2 } }
  | opened (fleet : Fleet Surroundings) (time : Nat) :
      Stride worker observers fleet
        { fleet with scene := { fleet.scene with world := (fleet.scene.world.refresh time).2 } }
  | adopted {fleet : Fleet Surroundings} {index : Nat} {courier : Courier}
      (found : fleet.couriers[index]? = some courier) :
      Stride worker observers fleet
        (putBack index (Cab.adopt (readBoard worker) (fleet.cab courier)).2 fleet)
  | drove {fleet : Fleet Surroundings} {index : Nat} {courier : Courier}
      (found : fleet.couriers[index]? = some courier) (lapse : TimeLapse) (mayReturn : Bool)
      (time : Nat)
      (whole : (fleet.round worker index courier lapse mayReturn time).1 =
          .error (.crashed .addOverflow) →
        ¬ (fleet.round worker index courier lapse mayReturn time).2.HasLostService) :
      Stride worker observers fleet (fleet.round worker index courier lapse mayReturn time).2
  | observed {observer : Member Surroundings} (member : observer ∈ observers) (lapse : TimeLapse)
      (fleet : Fleet Surroundings) :
      Stride worker observers fleet (observer.before lapse fleet).2
  | observedEnd {observer : Member Surroundings} (member : observer ∈ observers) (lapse : TimeLapse)
      (fleet : Fleet Surroundings) :
      Stride worker observers fleet (observer.after lapse fleet).2

/-- The round that ends a call because the end of a service leaves the range of times. -/
inductive Stumble (worker : Worker Surroundings) :
    Fleet Surroundings → Fleet Surroundings → Prop where
  | drove {fleet : Fleet Surroundings} {index : Nat} {courier : Courier}
      (found : fleet.couriers[index]? = some courier) (lapse : TimeLapse) (mayReturn : Bool)
      (time : Nat)
      (crash : (fleet.round worker index courier lapse mayReturn time).1 =
        .error (.crashed .addOverflow))
      (lost : (fleet.round worker index courier lapse mayReturn time).2.HasLostService) :
      Stumble worker fleet (fleet.round worker index courier lapse mayReturn time).2

/-- Any number of steps, one after the other. -/
abbrev Trail (worker : Worker Surroundings) (observers : List (Member Surroundings)) :
    Fleet Surroundings → Fleet Surroundings → Prop :=
  Relation.ReflTransGen (Stride worker observers)

/-- How an operation with the given result leads from one fleet to another. -/
inductive Ends (worker : Worker Surroundings) (observers : List (Member Surroundings))
    (first : Fleet Surroundings) {Reason Value : Type} :
    Except (Failure Reason) Value → Fleet Surroundings → Prop where
  | whole {result : Except (Failure Reason) Value} {after : Fleet Surroundings}
      (trail : Trail worker observers first after) : Ends worker observers first result after
  | stumbled {before after : Fleet Surroundings} (trail : Trail worker observers first before)
      (stumble : Stumble worker before after) :
      Ends worker observers first (.error (.crashed .addOverflow)) after

/-- From every fleet the operation leads on by steps. -/
def Treads (worker : Worker Surroundings) (observers : List (Member Surroundings)) {Value : Type}
    (attempt : Step Surroundings Value) : Prop :=
  ∀ fleet, Ends worker observers fleet (attempt fleet).1 (attempt fleet).2

variable {worker : Worker Surroundings} {observers : List (Member Surroundings)}

namespace Ends

variable {Reason Other Value Next : Type} {first before after : Fleet Surroundings}
  {result : Except (Failure Reason) Value}

theorem later (trail : Trail worker observers first before)
    (ends : Ends worker observers before result after) :
    Ends worker observers first result after := by
  cases ends with
  | whole rest => exact .whole (trail.trans rest)
  | stumbled rest stumble => exact .stumbled (trail.trans rest) stumble

/-- Unless an overflow has lost a service, the operation has come to its end by steps. -/
theorem trail (ends : Ends worker observers first result after)
    (whole : result = .error (.crashed .addOverflow) → ¬ after.HasLostService) :
    Trail worker observers first after := by
  cases ends with
  | whole trail => exact trail
  | stumbled trail stumble =>
    cases stumble with
    | drove found lapse mayReturn time crash lost => exact absurd lost (whole rfl)

/-- An operation that has an answer has come to its end by steps. -/
theorem trail_of_ok {value : Value}
    (ends : Ends worker observers first (.ok value : Except (Failure Reason) Value) after) :
    Trail worker observers first after := by
  cases ends with
  | whole trail => exact trail

/-- Only an overflow matters of a result. -/
theorem reworded (ends : Ends worker observers first result after)
    {said : Except (Failure Other) Next}
    (crash : result = .error (.crashed .addOverflow) → said = .error (.crashed .addOverflow)) :
    Ends worker observers first said after := by
  cases ends with
  | whole trail => exact .whole trail
  | stumbled trail stumble =>
    rw [crash rfl]
    exact .stumbled trail stumble

/-- A failure is the same one for whoever passes it on. -/
theorem passedOn {failure : Failure Reason}
    (ends : Ends worker observers first (.error failure : Except (Failure Reason) Value) after) :
    Ends worker observers first (.error failure : Except (Failure Reason) Next) after := by
  apply ends.reworded
  intro crash
  rw [Except.error.inj crash]

/-- A failure that is told in other words is still an overflow or still none. -/
theorem told {failure : Failure Reason} (words : Reason → Other)
    (ends : Ends worker observers first (.error failure : Except (Failure Reason) Value) after) :
    Ends worker observers first
      (.error (failure.map words) : Except (Failure Other) Next) after := by
  apply ends.reworded
  intro crash
  rw [Except.error.inj crash]
  rfl

end Ends

/-! ### Operations that lead on by steps -/

section Operations

variable {Value Next : Type}

theorem treads_bind {operation : Step Surroundings Value}
    {rest : Value → Step Surroundings Next} (leads : Treads worker observers operation)
    (restLeads : ∀ value, Treads worker observers (rest value)) :
    Treads worker observers (operation >>= rest) := by
  intro fleet
  have reached := leads fleet
  rw [Attempt.bind_apply]
  generalize operation fleet = outcome at reached
  rcases outcome with ⟨failure | value, after⟩
  · exact reached.passedOn
  · exact .later reached.trail_of_ok (restLeads value after)

theorem treads_forM (lapse : TimeLapse) (members : List (Member Surroundings))
    (told : Member Surroundings → TimeLapse → Step Surroundings Unit)
    (leads : ∀ member ∈ members, Treads worker observers (told member lapse)) :
    Treads worker observers (members.forM fun member => told member lapse) := by
  induction members with
  | nil => exact fun _ => .whole .refl
  | cons member rest inductionHypothesis =>
    exact treads_bind (leads member List.mem_cons_self) fun _ =>
      inductionHypothesis fun other inRest => leads other (List.mem_cons_of_mem _ inRest)

/-- An operation that leaves the world and the drivers alone is one step. -/
theorem treads_of_aside {operation : Step Surroundings Value}
    (world : Attempt.Keeps (fun fleet => (fleet.scene.world, fleet.couriers)) operation)
    (desk : ∀ fleet : Fleet Surroundings, fleet.desk.LeadsTo (operation fleet).2.desk) :
    Treads worker observers operation := fun fleet =>
  .whole (.single (.aside (congrArg Prod.fst (world fleet)) (congrArg Prod.snd (world fleet))
    (desk fleet)))

/-- An operation that leaves the desk alone as well is one step. -/
theorem treads_of_same {operation : Step Surroundings Value}
    (same : Attempt.Keeps (fun fleet => ((fleet.scene.world, fleet.couriers), fleet.desk))
      operation) :
    Treads worker observers operation := by
  refine treads_of_aside (fun fleet => congrArg Prod.fst (same fleet)) ?_
  intro fleet
  have sameDesk : (operation fleet).2.desk = fleet.desk := congrArg Prod.snd (same fleet)
  rw [sameDesk]
  exact .refl

theorem treads_turn : Treads worker observers (turn worker) :=
  treads_of_aside (fun _ => rfl) fun fleet =>
    .moves fleet.desk (worker.turn fleet.surroundings fleet.desk).2

end Operations

/-! ### The announcer -/

theorem trail_announceAll (orders : List TransportOrder) (fleet : Fleet Surroundings) :
    Trail worker observers fleet
      { fleet with
        scene := { fleet.scene with
          world := Announcer.announceAll fleet.scene.world orders } } := by
  induction orders generalizing fleet with
  | nil => exact .refl
  | cons order rest inductionHypothesis =>
    exact .head (.announced fleet order) (inductionHypothesis _)

theorem treads_announcing (lapse : TimeLapse) :
    Treads worker observers (announcing.before lapse) := by
  intro fleet
  have announced : Trail worker observers fleet _ :=
    trail_announceAll (fleet.announcer.due lapse.finish) fleet
  exact .whole ((announced.tail (.opened _ lapse.start)).tail (.aside rfl rfl .refl))

/-! ### The liaison -/

theorem treads_report (time : Nat) : Treads worker observers (report worker time) := by
  refine treads_bind (treads_of_same fun _ => rfl) fun _ =>
    treads_bind (treads_of_same fun _ => rfl) fun fleet => treads_bind ?_ fun _ => treads_turn
  refine treads_of_aside ?_ ?_
  · intro reached
    unfold Attempt.within
    split <;> rfl
  · intro reached
    have leads := Desk.LeadsTo.dispatch reached.desk (Snapshot.capture fleet.scene.world time)
    unfold Attempt.within
    generalize Desk.dispatch (Snapshot.capture fleet.scene.world time) reached.desk = outcome
      at leads
    rcases outcome with ⟨_ | _, desk⟩ <;> exact leads

theorem treads_reportNews (lapse : TimeLapse) :
    Treads worker observers (reportNews worker lapse) := by
  refine treads_bind treads_turn fun _ => treads_bind (treads_of_same fun _ => rfl) fun _ =>
    treads_bind (treads_of_same fun _ => rfl) fun fleet =>
      treads_bind (treads_of_same fun _ => rfl) fun requested => ?_
  split
  · exact treads_report _
  · exact treads_of_same (Attempt.keeps_pure _)

theorem treads_reportRepairs (lapse : TimeLapse) :
    Treads worker observers (reportRepairs worker lapse) := by
  refine treads_bind treads_turn fun _ =>
    treads_bind (treads_of_same fun _ => rfl) fun requested => ?_
  split
  · exact treads_bind (treads_report _) fun _ => treads_turn
  · exact treads_turn

/-! ### The drivers -/

/-- A driver looks at the fleet that it has left. -/
theorem couriers_putBack {fleet : Fleet Surroundings} {index : Nat} {courier : Courier}
    (found : fleet.couriers[index]? = some courier) (cab : Cab (Desk × Surroundings)) :
    (putBack index cab fleet).couriers[index]? = some cab.courier := by
  obtain ⟨inside, -⟩ := List.getElem?_eq_some_iff.1 found
  exact List.getElem?_set_self inside

theorem putBack_putBack (index : Nat) (first second : Cab (Desk × Surroundings))
    (fleet : Fleet Surroundings) :
    putBack index second (putBack index first fleet) = putBack index second fleet := by
  unfold putBack
  rw [List.set_set]

/-- A round of driving is a step, unless it crashes with an overflow and loses a service. -/
theorem ends_round {fleet : Fleet Surroundings} {index : Nat} {courier : Courier}
    (found : fleet.couriers[index]? = some courier) (lapse : TimeLapse) (mayReturn : Bool)
    (time : Nat) :
    Ends worker observers fleet (fleet.round worker index courier lapse mayReturn time).1
      (fleet.round worker index courier lapse mayReturn time).2 := by
  by_cases broken : (fleet.round worker index courier lapse mayReturn time).1 =
      .error (.crashed .addOverflow) ∧
        (fleet.round worker index courier lapse mayReturn time).2.HasLostService
  · rw [broken.1]
    exact .stumbled .refl (.drove found lapse mayReturn time broken.1 broken.2)
  · refine .whole (.single (.drove found lapse mayReturn time fun crash lost => ?_))
    exact broken ⟨crash, lost⟩

/-- Round after round, a driver leads the fleet on. -/
theorem ends_drive (lapse : TimeLapse) (mayReturn : Bool) (index time : Nat)
    (cab : Cab (Desk × Surroundings)) (fleet : Fleet Surroundings)
    (found : fleet.couriers[index]? = some cab.courier) (seen : fleet.cab cab.courier = cab) :
    Ends worker observers fleet (Cab.drive (readBoard worker) lapse mayReturn time cab).1
      (putBack index (Cab.drive (readBoard worker) lapse mayReturn time cab).2 fleet) := by
  induction time, cab using Cab.drive.induct (readBoard worker) lapse mayReturn
    generalizing fleet with
  | case1 time cab failure reached gone =>
    have first : Ends worker observers fleet _ _ := ends_round found lapse mayReturn time
    rw [Fleet.round, seen, gone] at first
    rw [Cab.drive_of_failed gone]
    exact first.passedOn
  | case2 time cab reached gone =>
    have first : Ends worker observers fleet _ _ := ends_round found lapse mayReturn time
    rw [Fleet.round, seen, gone] at first
    rw [Cab.drive_of_over gone]
    exact .whole first.trail_of_ok
  | case3 time cab next reached gone inductionHypothesis =>
    have first : Ends worker observers fleet _ _ := ends_round found lapse mayReturn time
    rw [Fleet.round, seen, gone] at first
    have rest := inductionHypothesis (putBack index reached fleet)
      (couriers_putBack found reached) rfl
    rw [putBack_putBack] at rest
    rw [Cab.drive_of_next gone]
    exact .later first.trail_of_ok rest

theorem ends_tick {fleet : Fleet Surroundings} {index : Nat} {courier : Courier}
    (found : fleet.couriers[index]? = some courier) (lapse : TimeLapse) (mayReturn : Bool) :
    Ends worker observers fleet
      (Cab.tick (readBoard worker) lapse mayReturn (fleet.cab courier)).1
      (putBack index (Cab.tick (readBoard worker) lapse mayReturn (fleet.cab courier)).2
        fleet) := by
  have first : Trail worker observers fleet
      (putBack index (Cab.adopt (readBoard worker) (fleet.cab courier)).2 fleet) :=
    .single (.adopted found)
  rw [Cab.tick_apply]
  generalize Cab.adopt (readBoard worker) (fleet.cab courier) = outcome at first
  rcases outcome with ⟨_ | _, cab⟩
  · exact .whole first
  · have rest : Ends worker observers (putBack index cab fleet) _ _ :=
      ends_drive lapse mayReturn index lapse.start cab _ (couriers_putBack found cab) rfl
    rw [putBack_putBack] at rest
    exact .later first rest

theorem treads_driveOne (index : Nat) (lapse : TimeLapse) :
    Treads worker observers (driveOne worker index lapse) := by
  intro fleet
  unfold driveOne
  rw [Attempt.get_bind_apply]
  cases found : fleet.couriers[index]? with
  | none => exact .whole .refl
  | some courier =>
    have driven : Ends worker observers fleet _ _ := ends_tick found lapse (fleet.scene.pending = 0)
    dsimp only
    unfold Attempt.within
    generalize Cab.tick (readBoard worker) lapse (fleet.scene.pending = 0) (fleet.cab courier) =
      outcome at driven
    rcases outcome with ⟨failure | _, cab⟩
    · exact driven.told _
    · exact .whole driven.trail_of_ok

/-! ### Whole runs -/

/-- Whoever takes part in a tick leads the fleet on by steps. -/
theorem treads_notify (vehicles : Nat) (lapse : TimeLapse) :
    Treads worker observers (Listener.notify (members worker vehicles ++ observers) lapse) := by
  refine treads_bind (treads_forM lapse _ Listener.before fun member isMember => ?_) fun _ =>
    treads_forM lapse _ Listener.after fun member isMember => ?_
  · simp only [members, List.cons_append, List.mem_cons, List.mem_append, List.mem_map] at isMember
    rcases isMember with rfl | rfl | ⟨index, -, rfl⟩ | observing
    · exact treads_announcing lapse
    · exact treads_reportNews lapse
    · exact treads_driveOne index lapse
    · exact fun fleet => .whole (.single (.observed observing lapse fleet))
  · simp only [members, List.cons_append, List.mem_cons, List.mem_append, List.mem_map] at isMember
    rcases isMember with rfl | rfl | ⟨index, -, rfl⟩ | observing
    · exact treads_of_same (Attempt.keeps_pure _)
    · exact treads_reportRepairs lapse
    · exact treads_of_same (Attempt.keeps_pure _)
    · exact fun fleet => .whole (.single (.observedEnd observing lapse fleet))

end Fleet

end LiveFleet
