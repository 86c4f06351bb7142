/-
This file holds the one source of all randomness in a run. A master stream gives
one word to each consumer that asks: as a seed, as the seed of a new generator
of its own, or as the seed of the generator that all consumers of one kind
share. A shared generator is seeded when it is first asked for; asking again
takes nothing from the master stream. So the same seed and the same order of
requests give the same streams, whatever is drawn from them in between.
-/
import LiveFleet.Random.Generator

namespace LiveFleet

/-- The master stream, and the shared generators by the kind of their consumers. -/
structure RandomModel (Kind : Type) where
  master : Generator
  shared : List (Kind × Generator)

namespace RandomModel

variable {Kind : Type} [DecidableEq Kind]

/-- The seed of a run that names none. -/
def defaultSeed : Nat := 123

/-- The model of a run with the given seed. -/
def ofSeed (seed : Nat) : RandomModel Kind := ⟨Generator.ofSeed (UInt64.ofNat seed), []⟩

/-- The next word of the master stream. -/
def seed (model : RandomModel Kind) : UInt64 × RandomModel Kind :=
  (model.master.next.1, { model with master := model.master.next.2 })

/-- A new generator for a single consumer. -/
def newGenerator (model : RandomModel Kind) : Generator × RandomModel Kind :=
  (Generator.ofSeed model.seed.1, model.seed.2)

/-- The generator shared by the consumers of a kind, if one has been asked for. -/
def sharedGenerator? (model : RandomModel Kind) (kind : Kind) : Option Generator :=
  model.shared.lookup kind

/-- Make sure that the consumers of a kind have a generator to share. -/
def share (model : RandomModel Kind) (kind : Kind) : RandomModel Kind :=
  match model.sharedGenerator? kind with
  | some _ => model
  | none =>
    { model.seed.2 with shared := (kind, Generator.ofSeed model.seed.1) :: model.shared }

/-- Put back the generator of a kind after a draw. -/
def setShared (model : RandomModel Kind) (kind : Kind) (generator : Generator) :
    RandomModel Kind :=
  { model with
    shared := model.shared.map fun entry =>
      if entry.1 = kind then (kind, generator) else entry }

end RandomModel

end LiveFleet
