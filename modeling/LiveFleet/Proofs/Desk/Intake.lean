/-
This file says which snapshots a desk takes between two moments. The actions that
lie between them are not known, but the number of snapshots is: each of them is a
new generation, and nothing else is.
-/
import LiveFleet.Proofs.Desk.Sitting

namespace LiveFleet.Desk

/-- The snapshots that the desk takes while the given actions happen. -/
def taken (desk : Desk) : List Action → List Snapshot
  | [] => []
  | action :: rest => desk.handed action ++ (desk.act action).taken rest

theorem taken_append (desk : Desk) (first second : List Action) :
    desk.taken (first ++ second) = desk.taken first ++ (desk.acts first).taken second := by
  induction first generalizing desk with
  | nil => rfl
  | cons action rest inductionHypothesis =>
    show desk.handed action ++ (desk.act action).taken (rest ++ second) = _
    rw [inductionHypothesis, ← List.append_assoc]
    rfl

theorem taken_moves (desk : Desk) (steps : List Move) : desk.taken (steps.map .move) = [] := by
  induction steps generalizing desk with
  | nil => rfl
  | cons step rest inductionHypothesis => exact inductionHypothesis (desk.move step)

/-- What happens between two moments makes the desk take these snapshots, in order. Nobody closes
it. -/
def Takes (before : Desk) (snapshots : List Snapshot) (after : Desk) : Prop :=
  ∃ actions, .shutdown ∉ actions ∧ after = before.acts actions ∧ before.taken actions = snapshots

namespace Takes

variable {before middle after : Desk} {first second : List Snapshot} {snapshot : Snapshot}

theorem refl (desk : Desk) : desk.Takes [] desk := ⟨[], List.not_mem_nil, rfl, rfl⟩

theorem trans (early : before.Takes first middle) (late : middle.Takes second after) :
    before.Takes (first ++ second) after := by
  obtain ⟨actions, staysOpen, rfl, rfl⟩ := early
  obtain ⟨others, staysOpenThen, rfl, rfl⟩ := late
  refine ⟨actions ++ others, ?_, (acts_append before actions others).symm, taken_append _ _ _⟩
  exact fun closes => (List.mem_append.1 closes).elim staysOpen staysOpenThen

/-- The worker hands nothing over. -/
theorem moves (desk : Desk) (steps : List Move) : desk.Takes [] (desk.moves steps) := by
  refine ⟨steps.map .move, fun closes => ?_, (acts_moves desk steps).symm, taken_moves desk steps⟩
  obtain ⟨step, -, same⟩ := List.mem_map.1 closes
  exact Action.move_ne_shutdown step same

/-- A desk without a fault takes what is handed over. -/
theorem dispatch {desk : Desk} (retains : desk.Retains none) (healthy : desk.fault = none)
    (snapshot : Snapshot) : desk.Takes [snapshot] (Desk.dispatch snapshot desk).2 := by
  refine ⟨[.dispatch snapshot], fun closes => ?_, rfl, ?_⟩
  · cases List.mem_singleton.1 closes
  · rcases retains.handed_cases snapshot with ⟨faulty, -, -⟩ | ⟨-, -, handed⟩
    · exact absurd healthy faulty
    · exact (List.append_nil _).trans handed

theorem retains {fault : Option SolverError} (takes : before.Takes first after)
    (retains : before.Retains fault) : after.Retains fault := by
  obtain ⟨actions, staysOpen, rfl, -⟩ := takes
  induction actions generalizing before with
  | nil => exact retains
  | cons action rest inductionHypothesis =>
    exact inductionHypothesis (retains.act action fun same => staysOpen (same ▸ List.mem_cons_self))
      fun closes => staysOpen (List.mem_cons_of_mem _ closes)

/-- Every snapshot that is taken is a generation of its own. -/
theorem newest (takes : before.Takes first after) (retains : before.Retains none) :
    after.newest = before.newest + first.length := by
  obtain ⟨actions, staysOpen, rfl, rfl⟩ := takes
  induction actions generalizing before with
  | nil => rfl
  | cons action rest inductionHypothesis =>
    have open_ : action ≠ .shutdown := fun same => staysOpen (same ▸ List.mem_cons_self)
    have counted : (before.act action).newest =
        before.newest + (before.handed action).length := by
      cases action with
      | shutdown => exact absurd rfl open_
      | move step => exact (move_cases before step).1
      | dispatch snapshot =>
        rcases retains.handed_cases snapshot with ⟨-, same, handed⟩ | ⟨newest, -, handed⟩
        · rw [same, handed]
          rfl
        · rw [newest, handed]
          rfl
    have later := inductionHypothesis (retains.act action open_)
      fun closes => staysOpen (List.mem_cons_of_mem _ closes)
    show ((before.act action).acts rest).newest = _
    rw [later, counted, taken, List.length_append, Nat.add_assoc]

end Takes

end LiveFleet.Desk
