/-
This file holds the source of random words: the generator xoshiro256++, whose
state is four 64-bit words, and its seeding from one word by a linear
congruential sequence whose outputs are permuted. Equal seeds give equal
streams. All arithmetic is on 64-bit words and wraps.
-/

namespace LiveFleet

/-- The state of a random stream. -/
structure Generator where
  first : UInt64
  second : UInt64
  third : UInt64
  fourth : UInt64
  deriving DecidableEq, Repr

namespace Generator

/-- Rotate a 64-bit word to the left by a distance between 1 and 63. -/
def rotateLeft (word distance : UInt64) : UInt64 :=
  (word <<< distance) ||| (word >>> (64 - distance))

/-- Rotate a 32-bit word to the right. -/
def rotateRight (word distance : UInt32) : UInt32 :=
  if distance = 0 then word else (word >>> distance) ||| (word <<< (32 - distance))

/-- The next 64-bit word of the stream, and the stream after it. -/
def next (generator : Generator) : UInt64 × Generator :=
  let word := rotateLeft (generator.first + generator.fourth) 23 + generator.first
  let shifted := generator.second <<< 17
  let third := generator.third ^^^ generator.first
  let fourth := generator.fourth ^^^ generator.second
  let second := generator.second ^^^ third
  let first := generator.first ^^^ fourth
  (word, ⟨first, second, third ^^^ shifted, rotateLeft fourth 45⟩)

/-- One step of the sequence that spreads a seed over the state. -/
def seedStep (word : UInt64) : UInt64 :=
  word * 6364136223846793005 + 11634580027462260723

/-- The 32 bits that a word of the seeding sequence contributes. -/
def seedOutput (word : UInt64) : UInt32 :=
  rotateRight (((word >>> 18) ^^^ word) >>> 27).toUInt32 (word >>> 59).toUInt32

/-- The word of the state that begins after the given word of the seeding sequence, and the word
of the sequence behind it. The low half comes first. -/
def seedWord (word : UInt64) : UInt64 × UInt64 :=
  let low := seedStep word
  let high := seedStep low
  ((seedOutput low).toUInt64 ||| ((seedOutput high).toUInt64 <<< 32), high)

/-- The stream that belongs to a seed. -/
def ofSeed (seed : UInt64) : Generator :=
  let (first, seed) := seedWord seed
  let (second, seed) := seedWord seed
  let (third, seed) := seedWord seed
  let (fourth, _) := seedWord seed
  ⟨first, second, third, fourth⟩

/-- A 32-bit word: the upper half of the next word. -/
def next32 (generator : Generator) : UInt32 × Generator :=
  let (word, generator) := generator.next
  ((word >>> 32).toUInt32, generator)

/-- A fair coin: the highest bit of the next word. -/
def nextBool (generator : Generator) : Bool × Generator :=
  let (word, generator) := generator.next
  (word >>> 63 = 1, generator)

/-- A double in `[0, 1)`: 53 bits of the next word. -/
def nextUnit (generator : Generator) : Float × Generator :=
  let (word, generator) := generator.next
  ((word >>> 11).toFloat / 9007199254740992, generator)

/-- The word after the given number of words. -/
def nth (generator : Generator) : Nat → UInt64
  | 0 => generator.next.1
  | count + 1 => generator.next.2.nth count

end Generator

end LiveFleet
