/-
This file says what a schedule owes the snapshot that it answers. A parcel that is
to be picked up and delivered is listed twice, one that is aboard at least once, and
no other parcel is listed. A thorough schedule, moreover, gives every parcel that
nobody has claimed to exactly one vehicle. The solver that assigns at random is
thorough: each parcel is given once, to a vehicle that exists, because a number that
is drawn below a bound is below it. As long as nobody cancels, it has an answer.
-/
import LiveFleet.Proofs.Attempt
import LiveFleet.Solver.RandomAssignment

namespace LiveFleet

open Attempt

/-! ### Snapshots and schedules -/

/-- The parcel is shown aboard the vehicle. -/
def VehicleView.Carries (view : VehicleView) (parcel : ParcelId) : Prop :=
  parcel ∈ view.contents.map ParcelView.id

namespace Snapshot

/-- The parcels that nobody has claimed. -/
def unclaimed (snapshot : Snapshot) : List ParcelId := snapshot.available.map ParcelView.id

/-- A snapshot of a fleet: there are vehicles, no parcel is listed twice, and none that is aboard is
unclaimed. -/
structure IsSound (snapshot : Snapshot) : Prop where
  staffed : snapshot.vehicles ≠ []
  distinct : snapshot.unclaimed.Nodup
  apart : ∀ view ∈ snapshot.vehicles, ∀ parcel, view.Carries parcel → parcel ∉ snapshot.unclaimed

/-- Every vehicle is to deliver what it is shown to carry, and nothing is listed but what the
snapshot shows. -/
structure IsCoveredBy (snapshot : Snapshot) (schedule : Schedule) : Prop where
  cargo : ∀ (vehicle : Nat) (view : VehicleView), snapshot.vehicles[vehicle]? = some view →
    ∀ parcel, view.Carries parcel →
      ∃ stops, schedule.routes[vehicle]? = some stops ∧ parcel ∈ stops
  shown : ∀ stops ∈ schedule.routes, ∀ stop ∈ stops,
    stop ∈ snapshot.unclaimed ∨ ∃ view ∈ snapshot.vehicles, view.Carries stop

/-- The schedule follows the convention: an unclaimed parcel is a stop of a vehicle not at all, or
twice. -/
structure IsFollowedBy (snapshot : Snapshot) (schedule : Schedule) : Prop
    extends snapshot.IsCoveredBy schedule where
  pairs : ∀ stops ∈ schedule.routes, ∀ parcel ∈ snapshot.unclaimed, stops.count parcel ≠ 1

/-- The schedule is thorough: every unclaimed parcel is given to exactly one vehicle, to be picked up
and delivered. -/
structure IsServedBy (snapshot : Snapshot) (schedule : Schedule) : Prop
    extends snapshot.IsCoveredBy schedule where
  given : ∀ parcel ∈ snapshot.unclaimed, ∃ (vehicle : Nat) (stops : List ParcelId),
    schedule.routes[vehicle]? = some stops ∧ 2 ≤ stops.count parcel ∧
      ∀ (other : Nat) (others : List ParcelId), schedule.routes[other]? = some others →
        parcel ∈ others → other = vehicle

/-- A thorough schedule follows the convention. -/
theorem IsServedBy.isFollowedBy {snapshot : Snapshot} {schedule : Schedule}
    (served : snapshot.IsServedBy schedule) : snapshot.IsFollowedBy schedule := by
  refine ⟨served.toIsCoveredBy, fun others isEntry parcel unclaimed once => ?_⟩
  obtain ⟨vehicle, stops, entry, twice, only⟩ := served.given parcel unclaimed
  obtain ⟨other, inside, rfl⟩ := List.getElem_of_mem isEntry
  have listed : parcel ∈ schedule.routes[other] := List.count_pos_iff.1 (by omega)
  obtain rfl := only other _ (List.getElem?_eq_getElem inside) listed
  rw [List.getElem?_eq_getElem inside] at entry
  cases entry
  omega

end Snapshot

/-! ### Drawing below a bound -/

namespace Generator

theorem nextBits_lt (generator : Generator) : (generator.nextBits 64).1 < Nat.pow 2 64 := by
  show generator.next.1.toNat / Nat.pow 2 (64 - 64) < _
  rw [Nat.sub_self]
  show generator.next.1.toNat / 1 < _
  rw [Nat.div_one]
  exact generator.next.1.toNat_lt

theorem drawBelow_lt {size : Nat} (positive : 0 < size) (attempts : Nat) (generator : Generator) :
    (drawBelow 64 size attempts generator).1 < size := by
  induction attempts generalizing generator with
  | zero => exact positive
  | succ attempts inductionHypothesis =>
    rw [drawBelow]
    dsimp only
    split
    · refine Nat.div_lt_of_lt_mul ?_
      exact Nat.mul_lt_mul_of_pos_right generator.nextBits_lt positive
    · exact inductionHypothesis _

theorem below_lt {size : Nat} (positive : 0 < size) (generator : Generator) :
    (generator.below size).1 < size := drawBelow_lt positive period generator

end Generator

/-! ### The random assignment -/

namespace Assignment

/-- The routes give each of the listed parcels to one vehicle, and let every vehicle deliver what it
carries. -/
structure Gives (snapshot : Snapshot) (parcels : List ParcelId) (routes : List (List ParcelId)) :
    Prop where
  sized : routes.length = snapshot.vehicles.length
  cargo : ∀ (vehicle : Nat) (view : VehicleView), snapshot.vehicles[vehicle]? = some view →
    ∀ parcel, view.Carries parcel → ∃ stops, routes[vehicle]? = some stops ∧ parcel ∈ stops
  shown : ∀ stops ∈ routes, ∀ stop ∈ stops,
    stop ∈ parcels ∨ ∃ view ∈ snapshot.vehicles, view.Carries stop
  given : ∀ parcel ∈ parcels, ∃ (vehicle : Nat) (stops : List ParcelId),
    routes[vehicle]? = some stops ∧ 2 ≤ stops.count parcel ∧
      ∀ (other : Nat) (others : List ParcelId), routes[other]? = some others →
        parcel ∈ others → other = vehicle

/-- The route of a vehicle after a parcel has been given to one. -/
def routeAfter (vehicle : Nat) (parcel : ParcelId) (other : Nat) (route : List ParcelId) :
    List ParcelId :=
  if vehicle = other then route ++ [parcel, parcel] else route

theorem getElem?_give (routes : List (List ParcelId)) (vehicle : Nat) (parcel : ParcelView)
    (other : Nat) :
    (give routes vehicle parcel)[other]? =
      (routes[other]?).map (routeAfter vehicle parcel.id other) := by
  rw [give, List.getElem?_modify]
  unfold routeAfter
  by_cases own : vehicle = other
  · simp [own]
  · simp [own]

theorem mem_routeAfter {vehicle other : Nat} {parcel stop : ParcelId} {route : List ParcelId} :
    stop ∈ routeAfter vehicle parcel other route ↔
      stop ∈ route ∨ vehicle = other ∧ stop = parcel := by
  unfold routeAfter
  split <;> simp_all

theorem count_routeAfter_of_ne {vehicle other : Nat} {parcel stop : ParcelId} {route : List ParcelId}
    (differs : stop ≠ parcel) :
    (routeAfter vehicle parcel other route).count stop = route.count stop := by
  unfold routeAfter
  split
  · simp [List.count_append, Ne.symm differs]
  · rfl

namespace Gives

variable {snapshot : Snapshot} {parcels : List ParcelId} {routes : List (List ParcelId)}

theorem cargoRoutes (snapshot : Snapshot) : Gives snapshot [] (cargoRoutes snapshot) where
  sized := List.length_map _
  cargo := fun vehicle view found parcel carried =>
    ⟨_, by rw [Assignment.cargoRoutes, List.getElem?_map, found]; rfl, carried⟩
  shown := by
    intro stops isRoute stop listed
    obtain ⟨view, member, rfl⟩ := List.mem_map.1 isRoute
    exact .inr ⟨view, member, listed⟩
  given := nofun

/-- One more parcel is given to a vehicle that exists. -/
theorem give (gives : Gives snapshot parcels routes) {vehicle : Nat}
    (inside : vehicle < routes.length) {parcel : ParcelView} (new : parcel.id ∉ parcels)
    (ashore : ∀ view ∈ snapshot.vehicles, ¬ view.Carries parcel.id) :
    Gives snapshot (parcels ++ [parcel.id]) (give routes vehicle parcel) := by
  have unlisted : ∀ stops ∈ routes, parcel.id ∉ stops := by
    intro stops isRoute listed
    rcases gives.shown stops isRoute _ listed with old | ⟨view, member, carried⟩
    · exact new old
    · exact ashore view member carried
  refine ⟨(List.length_modify ..).trans gives.sized, ?_, ?_, ?_⟩
  · intro other view found stop carried
    obtain ⟨stops, entry, listed⟩ := gives.cargo other view found stop carried
    refine ⟨_, by rw [getElem?_give, entry]; rfl, ?_⟩
    exact mem_routeAfter.2 (.inl listed)
  · intro stops isRoute stop listed
    obtain ⟨other, entry⟩ := List.mem_iff_getElem?.1 isRoute
    rw [getElem?_give] at entry
    obtain ⟨route, there, rfl⟩ := Option.map_eq_some_iff.1 entry
    rcases mem_routeAfter.1 listed with old | ⟨-, rfl⟩
    · exact (gives.shown route (List.mem_of_getElem? there) stop old).imp_left
        (List.mem_append_left _)
    · exact .inl (List.mem_append_right _ (List.mem_singleton_self _))
  · intro stop member
    rcases List.mem_append.1 member with old | isNew
    · have differs : stop ≠ parcel.id := fun same => new (same ▸ old)
      obtain ⟨holder, stops, entry, twice, only⟩ := gives.given stop old
      refine ⟨holder, _, by rw [getElem?_give, entry]; rfl, ?_, ?_⟩
      · rw [count_routeAfter_of_ne differs]
        exact twice
      · intro other others otherEntry listed
        rw [getElem?_give] at otherEntry
        obtain ⟨route, there, rfl⟩ := Option.map_eq_some_iff.1 otherEntry
        exact only other route there ((mem_routeAfter.1 listed).resolve_right fun both =>
          differs both.2)
    · obtain rfl := List.mem_singleton.1 isNew
      refine ⟨vehicle, _, by rw [getElem?_give, List.getElem?_eq_getElem inside]; rfl, ?_, ?_⟩
      · rw [routeAfter, if_pos rfl, List.count_append]
        simp
      · intro other others otherEntry listed
        rw [getElem?_give] at otherEntry
        obtain ⟨route, there, rfl⟩ := Option.map_eq_some_iff.1 otherEntry
        rcases mem_routeAfter.1 listed with old | ⟨same, -⟩
        · exact absurd old (unlisted route (List.mem_of_getElem? there))
        · exact same.symm

end Gives

/-- Routes that give all unclaimed parcels are a thorough schedule. -/
theorem Gives.isServedBy {snapshot : Snapshot} {routes : List (List ParcelId)}
    (gives : Gives snapshot snapshot.unclaimed routes) : snapshot.IsServedBy ⟨routes⟩ :=
  ⟨⟨gives.cargo, gives.shown⟩, gives.given⟩

end Assignment

namespace RandomAssignment

variable {snapshot : Snapshot} {token : CancelToken} {generator after : Generator}

/-- An answer of one assignment gives the parcel to a vehicle that exists. -/
theorem assign_eq_ok {routes assigned : List (List ParcelId)} {parcel : ParcelView}
    (staffed : 0 < routes.length)
    (answered : assign token routes parcel generator = (.ok assigned, after)) :
    ∃ vehicle < routes.length, assigned = Assignment.give routes vehicle parcel := by
  obtain ⟨_, _, -, answered⟩ := bind_eq_ok_iff.1 answered
  obtain ⟨vehicle, _, drawn, answered⟩ := bind_eq_ok_iff.1 answered
  cases drawn
  cases answered
  exact ⟨_, Generator.below_lt staffed _, rfl⟩

/-- One assignment is given up only because the token has been cancelled. -/
theorem assign_eq_error {routes : List (List ParcelId)} {parcel : ParcelView} {error : SolverError}
    (failed : assign token routes parcel generator = (.error error, after)) :
    error = .cancelled ∧ token.isCancelled = true := by
  unfold assign CancelToken.check at failed
  split at failed
  · rename_i withdrawn
    cases failed
    exact ⟨rfl, withdrawn⟩
  · cases failed

theorem foldlM_assign_eq_error {parcels : List ParcelView} {routes : List (List ParcelId)}
    {error : SolverError}
    (failed : parcels.foldlM (assign token) routes generator = (.error error, after)) :
    error = .cancelled ∧ token.isCancelled = true := by
  induction parcels generalizing routes generator with
  | nil => cases failed
  | cons parcel rest inductionHypothesis =>
    rw [List.foldlM_cons] at failed
    rcases bind_eq_error_iff.1 failed with failed | ⟨assigned, next, -, failed⟩
    · exact assign_eq_error failed
    · exact inductionHypothesis failed

/-- The random schedule is given up only because the token has been cancelled. -/
theorem schedule_eq_error {error : SolverError}
    (failed : schedule snapshot token generator = (.error error, after)) :
    error = .cancelled ∧ token.isCancelled = true := by
  unfold schedule at failed
  split at failed
  · cases failed
  · rcases bind_eq_error_iff.1 failed with failed | ⟨routes, next, -, answered⟩
    · exact foldlM_assign_eq_error failed
    · cases answered

/-- Assigning the parcels one after the other gives each of them. -/
theorem gives_assign (sound : snapshot.IsSound) {parcels rest : List ParcelView}
    (all : snapshot.available = parcels ++ rest) {routes assigned : List (List ParcelId)}
    (gives : Assignment.Gives snapshot (parcels.map ParcelView.id) routes)
    (answered : rest.foldlM (assign token) routes generator = (.ok assigned, after)) :
    Assignment.Gives snapshot snapshot.unclaimed assigned := by
  induction rest generalizing parcels routes generator with
  | nil =>
    cases answered
    rw [Snapshot.unclaimed, all, List.append_nil]
    exact gives
  | cons parcel rest inductionHypothesis =>
    rw [List.foldlM_cons] at answered
    obtain ⟨next, reached, assignedOne, answered⟩ := bind_eq_ok_iff.1 answered
    have staffed : 0 < routes.length := by
      rw [gives.sized]
      exact List.length_pos_iff.2 sound.staffed
    obtain ⟨vehicle, inside, rfl⟩ := assign_eq_ok staffed assignedOne
    have distinct := sound.distinct
    have unclaimed : parcel.id ∈ snapshot.unclaimed := by
      rw [Snapshot.unclaimed, all]
      simp
    rw [Snapshot.unclaimed, all, List.map_append, List.map_cons] at distinct
    have new : parcel.id ∉ parcels.map ParcelView.id := by
      intro old
      exact (List.nodup_append.1 distinct).2.2 _ old _ List.mem_cons_self rfl
    have more := gives.give inside new fun view member carried =>
      sound.apart view member _ carried unclaimed
    have allThen : snapshot.available = (parcels ++ [parcel]) ++ rest :=
      all.trans (List.append_cons parcels parcel rest)
    refine inductionHypothesis allThen ?_ answered
    rw [List.map_append]
    exact more

/-- However the numbers fall, the random schedule of a sound snapshot is thorough. -/
theorem isServedBy_schedule (sound : snapshot.IsSound) {made : Schedule}
    (answered : schedule snapshot token generator = (.ok made, after)) :
    snapshot.IsServedBy made := by
  unfold schedule at answered
  split at answered
  · rename_i empty
    exact absurd (List.isEmpty_iff.1 empty) sound.staffed
  · obtain ⟨routes, _, assigned, answered⟩ := bind_eq_ok_iff.1 answered
    cases answered
    exact (gives_assign sound (List.nil_append _).symm (.cargoRoutes snapshot)
      assigned).isServedBy

/-- As long as nobody cancels, the solver has an answer. -/
theorem solve_eq_ok (snapshot : Snapshot) (generator : Generator) :
    ∃ made after, schedule snapshot .fresh generator = (.ok made, after) ∧
      solver.solve snapshot (generator, .fresh) = (.ok made, after, .fresh) := by
  cases answer : schedule snapshot .fresh generator with
  | mk outcome after =>
    cases outcome with
    | error error =>
      have cancelled := (schedule_eq_error answer).2
      cases cancelled
    | ok made =>
      refine ⟨made, after, rfl, ?_⟩
      unfold solver
      dsimp only
      rw [answer]

end RandomAssignment

end LiveFleet
