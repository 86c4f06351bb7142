/-
This file holds what consumers do with a random model. They ask it for seeds,
for generators of their own and for generators to share, and they draw from what
they were given, in any order. A request that needs a word of the master stream
takes the next one; to ask again for a generator that is shared takes nothing.
A draw goes on with the stream that it is made from, and touches no other. So
the requests alone decide which seeds and streams are handed out.
-/
import LiveFleet.Proofs.Random.Places

namespace LiveFleet

/-! ### Streams -/

namespace Generator

/-- The stream behind the given number of words. -/
def skip (generator : Generator) : Nat → Generator
  | 0 => generator
  | count + 1 => generator.next.2.skip count

theorem next_skip (generator : Generator) (count : Nat) :
    (generator.skip count).next.1 = generator.nth count := by
  induction count generalizing generator with
  | zero => rfl
  | succ count later => exact later generator.next.2

/-- What a consumer does with a generator: it reads off a value and leaves the stream behind it. -/
abbrev Draw (Value : Type) := Generator → Value × Generator

/-- The stream behind draws that are made one after another. -/
def play {Value : Type} (draws : List (Draw Value)) (generator : Generator) : Generator :=
  draws.foldl (fun generator draw => (draw generator).2) generator

end Generator

/-! ### Requests and draws -/

/-- A random model, and the generators that it has handed out to single consumers. -/
structure Supply (Kind : Type) where
  model : RandomModel Kind
  own : List Generator

namespace Supply

/-- What can be asked of a random model. -/
inductive Request (Kind : Type) where
  | seed
  | newGenerator
  | share (kind : Kind)

/-- How a consumer gets at a generator: its own by a number, a shared one by its place. -/
inductive Hold where
  | own (number : Nat)
  | shared (place : Nat)
  deriving DecidableEq

/-- What a request is answered with. -/
inductive Handout where
  | seed (word : UInt64)
  | generator (hold : Hold)

/-- One thing that consumers do. -/
inductive Use (Kind Value : Type) where
  | ask (request : Request Kind)
  | draw (hold : Hold) (draw : Generator.Draw Value)

variable {Kind Value : Type}

/-- The kind whose generator is asked for. -/
def Request.kind? : Request Kind → Option Kind
  | .share kind => some kind
  | _ => none

/-- The request is for the generator of one of these kinds. -/
def Request.Repeats (known : List Kind) : Request Kind → Prop
  | .share kind => kind ∈ known
  | _ => False

instance [DecidableEq Kind] (known : List Kind) : (request : Request Kind) →
    Decidable (request.Repeats known)
  | .share kind => inferInstanceAs (Decidable (kind ∈ known))
  | .seed => inferInstanceAs (Decidable False)
  | .newGenerator => inferInstanceAs (Decidable False)

/-- The request that is made, if it is one. -/
def Use.request? : Use Kind Value → Option (Request Kind)
  | .ask request => some request
  | .draw _ _ => none

/-- The draw that is made from a certain generator, if it is one. -/
def Use.drawFrom? (hold : Hold) : Use Kind Value → Option (Generator.Draw Value)
  | .draw other made => if other = hold then some made else none
  | .ask _ => none

/-- All requests that are made. -/
def requests (uses : List (Use Kind Value)) : List (Request Kind) := uses.filterMap Use.request?

/-- The kinds whose generators are asked for. -/
def asked (uses : List (Use Kind Value)) : List Kind := (requests uses).filterMap Request.kind?

/-- All draws that are made from a certain generator. -/
def drawsFrom (hold : Hold) (uses : List (Use Kind Value)) : List (Generator.Draw Value) :=
  uses.filterMap (Use.drawFrom? hold)

/-- The requests without those that only repeat. -/
def firsts [DecidableEq Kind] (known : List Kind) : List (Request Kind) → List (Request Kind)
  | [] => []
  | request :: requests =>
    if request.Repeats known then firsts known requests
    else request :: firsts (request.kind?.toList ++ known) requests

/-! ### What comes of them -/

/-- The generator that a consumer gets at, if it is there. -/
def generator? [DecidableEq Kind] (supply : Supply Kind) : Hold → Option Generator
  | .own number => supply.own[number]?
  | .shared place => supply.model.streamAt? place

variable [DecidableEq Kind] {supply : Supply Kind} {request : Request Kind} {hold : Hold}
  {draw : Generator.Draw Value}

/-- The supply of a run with the given seed. -/
def ofSeed (seed : Nat) : Supply Kind := ⟨RandomModel.ofSeed seed, []⟩

/-- The answer to a request. A handle is the place of the kind. -/
def handout (supply : Supply Kind) : Request Kind → Handout
  | .seed => .seed supply.model.seed.1
  | .newGenerator => .generator (.own supply.own.length)
  | .share kind => .generator (.shared ((supply.model.share kind).placeOf kind))

/-- The supply after a request. -/
def ask (supply : Supply Kind) : Request Kind → Supply Kind
  | .seed => { supply with model := supply.model.seed.2 }
  | .newGenerator =>
    { model := supply.model.newGenerator.2
      own := supply.own ++ [supply.model.newGenerator.1] }
  | .share kind => { supply with model := supply.model.share kind }

/-- Put a generator back after a draw. -/
def put (supply : Supply Kind) (generator : Generator) : Hold → Supply Kind
  | .own number => { supply with own := supply.own.set number generator }
  | .shared place => { supply with model := supply.model.setAt place generator }

/-- The value of a draw, unless there is no such generator. -/
def value? (supply : Supply Kind) (hold : Hold) (draw : Generator.Draw Value) : Option Value :=
  (supply.generator? hold).map fun generator => (draw generator).1

/-- The supply after a use. -/
def use (supply : Supply Kind) : Use Kind Value → Supply Kind
  | .ask request => supply.ask request
  | .draw hold draw =>
    match supply.generator? hold with
    | some generator => supply.put (draw generator).2 hold
    | none => supply

/-- The supply after uses, one after another. -/
def after (supply : Supply Kind) (uses : List (Use Kind Value)) : Supply Kind :=
  uses.foldl use supply

theorem after_cons (supply : Supply Kind) (one : Use Kind Value) (uses : List (Use Kind Value)) :
    supply.after (one :: uses) = (supply.use one).after uses :=
  rfl

theorem after_append (supply : Supply Kind) (uses more : List (Use Kind Value)) :
    supply.after (uses ++ more) = (supply.after uses).after more :=
  List.foldl_append

/-! ### Requests -/

theorem ask_of_repeats (repeats : request.Repeats supply.model.kinds) :
    supply.ask request = supply := by
  cases request with
  | share kind => rw [ask, RandomModel.share_of_mem repeats]
  | seed => cases repeats
  | newGenerator => cases repeats

theorem kinds_ask (new : ¬ request.Repeats supply.model.kinds) :
    (supply.ask request).model.kinds = request.kind?.toList ++ supply.model.kinds := by
  cases request with
  | share kind => exact (RandomModel.kinds_share _ _).trans (if_neg new)
  | seed => rfl
  | newGenerator => rfl

theorem master_ask (new : ¬ request.Repeats supply.model.kinds) :
    (supply.ask request).model.master = supply.model.master.next.2 := by
  cases request with
  | share kind =>
    rw [ask, RandomModel.share_of_not_mem new]
    rfl
  | seed => rfl
  | newGenerator => rfl

/-- A request leaves the generators that are there as they are. -/
theorem generator?_ask {generator : Generator} (there : supply.generator? hold = some generator) :
    (supply.ask request).generator? hold = some generator := by
  cases hold with
  | own number =>
    cases request with
    | newGenerator =>
      obtain ⟨bound, -⟩ := List.getElem?_eq_some_iff.mp there
      exact (List.getElem?_append_left bound).trans there
    | seed => exact there
    | share kind => exact there
  | shared place =>
    cases request with
    | share kind => exact RandomModel.streamAt?_share there
    | seed => exact there
    | newGenerator => exact there

/-- What a request hands out if it takes the given word: the word itself, or a generator that was
not there before and begins with it. -/
def Issues (supply : Supply Kind) (request : Request Kind) (word : UInt64) : Prop :=
  match supply.handout request with
  | .seed handed => handed = word
  | .generator hold =>
    supply.generator? hold = none ∧
      (supply.ask request).generator? hold = some (Generator.ofSeed word)

theorem issues_next (new : ¬ request.Repeats supply.model.kinds) :
    supply.Issues request supply.model.master.next.1 := by
  cases request with
  | seed => rfl
  | newGenerator =>
    exact ⟨List.getElem?_eq_none (Nat.le_refl _), List.getElem?_concat_length⟩
  | share kind => exact RandomModel.streamAt?_placeOf_share new

/-! ### Draws -/

theorem kinds_put (supply : Supply Kind) (generator : Generator) (hold : Hold) :
    (supply.put generator hold).model.kinds = supply.model.kinds := by
  cases hold with
  | own number => rfl
  | shared place => exact supply.model.kinds_setAt place generator

theorem master_put (supply : Supply Kind) (generator : Generator) (hold : Hold) :
    (supply.put generator hold).model.master = supply.model.master := by
  cases hold with
  | own number => rfl
  | shared place => exact supply.model.master_setAt place generator

theorem generator?_put (distinct : supply.model.kinds.Nodup) {other : Hold}
    {generator new : Generator} (there : supply.generator? other = some generator) :
    (supply.put new hold).generator? other = some (if hold = other then new else generator) := by
  cases hold with
  | own number =>
    cases other with
    | own another =>
      obtain ⟨bound, held⟩ := List.getElem?_eq_some_iff.mp there
      rw [put, generator?, List.getElem?_set]
      simp only [Hold.own.injEq]
      split
      next same => rw [same, if_pos bound]
      next => exact there
    | shared place => exact there
  | shared place =>
    cases other with
    | own number => exact there
    | shared elsewhere =>
      rw [put, generator?, RandomModel.streamAt?_setAt distinct there]
      simp only [Hold.shared.injEq]

theorem kinds_draw (supply : Supply Kind) (hold : Hold) (draw : Generator.Draw Value) :
    (supply.use (.draw hold draw)).model.kinds = supply.model.kinds := by
  unfold use
  simp only
  split
  · exact supply.kinds_put _ _
  · rfl

theorem master_draw (supply : Supply Kind) (hold : Hold) (draw : Generator.Draw Value) :
    (supply.use (.draw hold draw)).model.master = supply.model.master := by
  unfold use
  simp only
  split
  · exact supply.master_put _ _
  · rfl

/-- A draw goes on with its own stream and with no other. -/
theorem generator?_draw (distinct : supply.model.kinds.Nodup) {other : Hold} {generator : Generator}
    (there : supply.generator? other = some generator) :
    (supply.use (.draw hold draw)).generator? other =
      some (if hold = other then (draw generator).2 else generator) := by
  unfold use
  simp only
  split
  next drawn found =>
    rw [generator?_put distinct there]
    split
    next same =>
      rw [same, there] at found
      cases found
      rfl
    next => rfl
  next nothing =>
    have differs : hold ≠ other := fun same => by
      rw [same, there] at nothing
      contradiction
    rw [if_neg differs, there]

end Supply

end LiveFleet
