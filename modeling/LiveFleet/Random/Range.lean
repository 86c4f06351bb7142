/-
This file draws numbers uniformly from a range. An integer is drawn by
multiplying a random word by the size of the range and keeping the upper half;
words whose lower half lies beyond the last full block are drawn again, so every
integer of the range is met by equally many words. A double is drawn by scaling
a double between one and two. An empty range crashes before anything is drawn.
-/
import LiveFleet.Attempt
import LiveFleet.Random.Generator

namespace LiveFleet

/-- A type of integers that can be drawn. -/
structure IntegerKind where
  width : Nat
  signed : Bool
  deriving DecidableEq, Repr

namespace IntegerKind

/-- Integers from `0` to `2 ^ 64 - 1`. -/
def unsigned64 : IntegerKind := ⟨64, false⟩

/-- Integers from `0` to `2 ^ 32 - 1`. -/
def unsigned32 : IntegerKind := ⟨32, false⟩

/-- Integers from `-2 ^ 63` to `2 ^ 63 - 1`. -/
def signed64 : IntegerKind := ⟨64, true⟩

end IntegerKind

namespace Generator

/-- A random word of the given width: the upper bits of the next word. -/
def nextBits (width : Nat) (generator : Generator) : Nat × Generator :=
  let (word, generator) := generator.next
  (word.toNat / Nat.pow 2 (64 - width), generator)

/-- The period of a stream is below this, so that many words contain every word that occurs. -/
def period : Nat := Nat.pow 2 256

/-- The largest lower half that is accepted for a range of the given size. -/
def acceptedLow (width size : Nat) : Nat := size * Nat.pow 2 (width - 1 - size.log2) - 1

/-- Draw until a word is accepted, at most the given number of times. -/
def drawBelow (width size : Nat) : Nat → Generator → Nat × Generator
  | 0, generator => (0, generator)
  | attempts + 1, generator =>
    let (word, generator) := generator.nextBits width
    let product := word * size
    if product % Nat.pow 2 width ≤ acceptedLow width size then
      (product / Nat.pow 2 width, generator)
    else drawBelow width size attempts generator

/-- A number below a positive size, each equally likely. -/
def below (size : Nat) (generator : Generator) : Nat × Generator :=
  drawBelow 64 size period generator

/-- An integer from `low` to `high`, both included, of the given kind. A range of all integers
of the kind takes the word as it is. -/
def within (kind : IntegerKind) (low high : Int) (generator : Generator) :
    Except Crash (Int × Generator) :=
  if high < low then .error .emptyRange
  else
    let size := (high - low + 1).toNat % Nat.pow 2 kind.width
    if size = 0 then
      let (word, generator) := generator.nextBits kind.width
      .ok (if kind.signed then (word : Int).bmod (Nat.pow 2 kind.width) else word, generator)
    else
      let (offset, generator) := drawBelow kind.width size period generator
      .ok (low + offset, generator)

/-- A double in `[1, 2)`, less one: 52 bits of the next word. -/
def nextFraction (generator : Generator) : Float × Generator :=
  let (word, generator) := generator.next
  (Float.ofBits ((0x3ff0000000000000 : UInt64) ||| (word >>> 12)) - 1.0, generator)

/-- Scale a random fraction until the result, rounded, lies below `high`, at most the given number
of times. -/
def drawScaled (low high : Float) : Nat → Generator → Float × Generator
  | 0, generator => (low, generator)
  | attempts + 1, generator =>
    let (fraction, generator) := generator.nextFraction
    let drawn := fraction * (high - low) + low
    if drawn < high then (drawn, generator) else drawScaled low high attempts generator

/-- A double in `[low, high)`. -/
def withinFloats (low high : Float) (generator : Generator) :
    Except Crash (Float × Generator) :=
  if !(low < high) then .error .emptyRange
  else if !low.isFinite then .error .lowBoundNotFinite
  else if !high.isFinite then .error .highBoundNotFinite
  else if !(high - low).isFinite then .error .rangeOverflow
  else .ok (drawScaled low high period generator)

/-- True with the given probability, which is first brought into `[0, 1]`. A certain event needs
no draw. -/
def chance (probability : Float) (generator : Generator) : Except Crash (Bool × Generator) :=
  let bounded :=
    if probability < 0 then 0 else if probability > 1 then 1 else probability
  if bounded == 1 then .ok (true, generator)
  else if 0 ≤ bounded && bounded < 1 then
    let (word, generator) := generator.next
    .ok (decide (word < (bounded * 18446744073709551616).toUInt64), generator)
  else .error .invalidProbability

end Generator

end LiveFleet
