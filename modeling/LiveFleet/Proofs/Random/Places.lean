/-
This file holds where the shared generators of a model are. A consumer that asks
for the generator of its kind is given a handle, and keeps it. The model finds
generators by their kind; a handle is a place, counted from the kind that was
asked for first. A kind keeps its place whatever is asked for later, no two
kinds have the same one, and a draw at one place changes no other.
-/
import Mathlib
import LiveFleet.Random.Model

namespace LiveFleet

namespace RandomModel

variable {Kind : Type} {model : RandomModel Kind}

/-- The kinds that have a generator to share, from the one that was asked for last. -/
def kinds (model : RandomModel Kind) : List Kind := model.shared.map Prod.fst

/-- The kind whose generator is at a place. -/
def kindAt? (model : RandomModel Kind) (place : Nat) : Option Kind := model.kinds.reverse[place]?

theorem mem_kinds_of_kindAt? {kind : Kind} {place : Nat}
    (here : model.kindAt? place = some kind) : kind ∈ model.kinds :=
  List.mem_reverse.mp (List.mem_of_getElem? here)

/-- No kind is at two places. -/
theorem kindAt?_inj {kind : Kind} {place elsewhere : Nat} (distinct : model.kinds.Nodup)
    (here : model.kindAt? place = some kind) (there : model.kindAt? elsewhere = some kind) :
    place = elsewhere := by
  obtain ⟨bound, -⟩ := List.getElem?_eq_some_iff.mp here
  exact (List.getElem?_inj bound (List.nodup_reverse.mpr distinct)).mp (here.trans there.symm)

variable [DecidableEq Kind] {kind other : Kind}

/-- The place of a kind that has been asked for. -/
def placeOf (model : RandomModel Kind) (kind : Kind) : Nat := model.kinds.reverse.idxOf kind

/-! ### What is found by its kind -/

theorem sharedGenerator?_eq_none_iff : model.sharedGenerator? kind = none ↔ kind ∉ model.kinds := by
  rw [sharedGenerator?, List.lookup_eq_none_iff, kinds, List.mem_map, not_exists]
  refine forall_congr' fun entry => ?_
  rw [bne_iff_ne, not_and]
  exact imp_congr_right fun _ => ne_comm

theorem share_of_mem (asked : kind ∈ model.kinds) : model.share kind = model := by
  unfold share
  split
  · rfl
  next unknown => exact absurd asked (sharedGenerator?_eq_none_iff.mp unknown)

theorem share_of_not_mem (unasked : kind ∉ model.kinds) :
    model.share kind =
      { model.seed.2 with shared := (kind, Generator.ofSeed model.seed.1) :: model.shared } := by
  rw [share, sharedGenerator?_eq_none_iff.mpr unasked]

theorem kinds_share (model : RandomModel Kind) (kind : Kind) :
    (model.share kind).kinds = if kind ∈ model.kinds then model.kinds else kind :: model.kinds := by
  split
  next asked => rw [share_of_mem asked]
  next unasked =>
    rw [share_of_not_mem unasked]
    rfl

theorem mem_kinds_share (model : RandomModel Kind) (kind : Kind) :
    kind ∈ (model.share kind).kinds := by
  rw [kinds_share]
  split
  · assumption
  · exact List.mem_cons_self

theorem sharedGenerator?_share (unasked : kind ∉ model.kinds) :
    (model.share kind).sharedGenerator? kind = some (Generator.ofSeed model.seed.1) := by
  rw [share_of_not_mem unasked]
  exact List.lookup_cons_self

/-- A kind that was asked for earlier keeps its generator. -/
theorem sharedGenerator?_share_of_mem (asked : other ∈ model.kinds) :
    (model.share kind).sharedGenerator? other = model.sharedGenerator? other := by
  by_cases known : kind ∈ model.kinds
  · rw [share_of_mem known]
  · have differs : (other == kind) = false := beq_false_of_ne fun same => known (same ▸ asked)
    rw [share_of_not_mem known, sharedGenerator?, List.lookup_cons, differs]
    rfl

/-! ### What a draw puts back -/

theorem kinds_setShared (model : RandomModel Kind) (kind : Kind) (generator : Generator) :
    (model.setShared kind generator).kinds = model.kinds := by
  rw [kinds, kinds, setShared, List.map_map]
  refine List.map_congr_left fun entry _ => ?_
  rw [Function.comp_apply]
  split
  next same => exact same.symm
  next => rfl

/-- A draw puts its generator back under its kind, and leaves the others alone. -/
theorem sharedGenerator?_setShared (model : RandomModel Kind) (kind other : Kind)
    (generator : Generator) :
    (model.setShared kind generator).sharedGenerator? other =
      if other = kind then (model.sharedGenerator? other).map fun _ => generator
      else model.sharedGenerator? other := by
  simp only [sharedGenerator?, setShared]
  induction model.shared with
  | nil => simp
  | cons entry shared later =>
    obtain ⟨name, held⟩ := entry
    have changed : (if name = kind then (kind, generator) else (name, held)) =
        (name, if name = kind then generator else held) := by
      split
      next same => rw [same]
      next => rfl
    rw [List.map_cons, changed, List.lookup_cons, List.lookup_cons, later]
    by_cases wanted : other = name
    · subst wanted
      simp only [beq_self_eq_true, Option.map_some]
      split <;> rfl
    · simp only [beq_false_of_ne wanted]

/-! ### What is found by its place -/

/-- The generator at a place, if there is one. -/
def streamAt? (model : RandomModel Kind) (place : Nat) : Option Generator :=
  (model.kindAt? place).bind model.sharedGenerator?

/-- Put the generator at a place back after a draw. -/
def setAt (model : RandomModel Kind) (place : Nat) (generator : Generator) : RandomModel Kind :=
  match model.kindAt? place with
  | some kind => model.setShared kind generator
  | none => model

theorem kindAt?_placeOf (asked : kind ∈ model.kinds) :
    model.kindAt? (model.placeOf kind) = some kind := by
  rw [kindAt?, placeOf, List.getElem?_idxOf (List.mem_reverse.mpr asked)]

theorem placeOf_inj (asked : kind ∈ model.kinds) (same : model.placeOf kind = model.placeOf other) :
    kind = other :=
  (List.idxOf_inj (List.mem_reverse.mpr asked)).mp same

/-- Kinds that are asked for later come behind the others. -/
theorem placeOf_of_suffix {later : RandomModel Kind} (kept : model.kinds <:+ later.kinds)
    (asked : kind ∈ model.kinds) : later.placeOf kind = model.placeOf kind := by
  obtain ⟨new, same⟩ := kept
  rw [placeOf, placeOf, ← same, List.reverse_append]
  exact List.idxOf_append_of_mem (List.mem_reverse.mpr asked)

theorem kinds_suffix_share (model : RandomModel Kind) (kind : Kind) :
    model.kinds <:+ (model.share kind).kinds := by
  rw [kinds_share]
  split
  · exact List.suffix_refl _
  · exact List.suffix_cons _ _

theorem kindAt?_share {place : Nat} (here : model.kindAt? place = some other) :
    (model.share kind).kindAt? place = some other := by
  obtain ⟨new, same⟩ := model.kinds_suffix_share kind
  obtain ⟨bound, -⟩ := List.getElem?_eq_some_iff.mp here
  rw [kindAt?, ← same, List.reverse_append, List.getElem?_append_left bound]
  exact here

theorem streamAt?_share {place : Nat} {generator : Generator}
    (here : model.streamAt? place = some generator) :
    (model.share kind).streamAt? place = some generator := by
  obtain ⟨name, found, held⟩ := Option.bind_eq_some_iff.mp here
  rw [streamAt?, kindAt?_share found, Option.bind_some,
    sharedGenerator?_share_of_mem (mem_kinds_of_kindAt? found), held]

/-- A kind that is asked for the first time gets a place where nothing was. -/
theorem streamAt?_placeOf_share (unasked : kind ∉ model.kinds) :
    model.streamAt? ((model.share kind).placeOf kind) = none ∧
      (model.share kind).streamAt? ((model.share kind).placeOf kind) =
        some (Generator.ofSeed model.seed.1) := by
  have there := kindAt?_placeOf (model.mem_kinds_share kind)
  constructor
  · rw [streamAt?, Option.bind_eq_none_iff]
    intro name found
    have same := (kindAt?_share found).symm.trans there
    cases same
    exact absurd (mem_kinds_of_kindAt? found) unasked
  · rw [streamAt?, there, Option.bind_some, sharedGenerator?_share unasked]

theorem kinds_setAt (model : RandomModel Kind) (place : Nat) (generator : Generator) :
    (model.setAt place generator).kinds = model.kinds := by
  unfold setAt
  split
  · exact kinds_setShared _ _ _
  · rfl

theorem master_setAt (model : RandomModel Kind) (place : Nat) (generator : Generator) :
    (model.setAt place generator).master = model.master := by
  unfold setAt
  split <;> rfl

/-- A draw at a place changes the stream there and no other. -/
theorem streamAt?_setAt (distinct : model.kinds.Nodup) {place elsewhere : Nat}
    {generator new : Generator} (there : model.streamAt? elsewhere = some generator) :
    (model.setAt place new).streamAt? elsewhere =
      some (if place = elsewhere then new else generator) := by
  obtain ⟨name, found, held⟩ := Option.bind_eq_some_iff.mp there
  have found_still : (model.setAt place new).kindAt? elsewhere = some name := by
    rw [kindAt?, kinds_setAt]
    exact found
  rw [streamAt?, found_still, Option.bind_some]
  unfold setAt
  split
  next kind here =>
    have iff_same : name = kind ↔ place = elsewhere := by
      constructor
      · intro same
        cases same
        exact kindAt?_inj distinct here found
      · intro same
        cases same
        exact Option.some.inj (found.symm.trans here)
    rw [sharedGenerator?_setShared, held, Option.map_some]
    simp only [iff_same]
    split <;> rfl
  next nothing =>
    have differs : place ≠ elsewhere := fun same => by
      rw [same, found] at nothing
      contradiction
    rw [if_neg differs, held]

end RandomModel

end LiveFleet
