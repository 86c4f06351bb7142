/-
This file reads a double as an exact number and writes an exact number back as
the nearest double. A finite double is a whole mantissa times a power of two;
the other way round, a mantissa of any size is cut to 53 bits, and a value
half-way between two doubles goes to the one with the even mantissa. Lengths
and the decimal text of doubles are computed on these exact numbers.
-/

namespace LiveFleet

/-- The number `mantissa * 2 ^ exponent`. -/
structure Dyadic where
  mantissa : Nat
  exponent : Int
  deriving DecidableEq, Repr

namespace Binary64

/-- The leading bit of a mantissa of full size, `2 ^ 52`. The bits of a double leave it out. -/
def leadingBit : Nat := 4503599627370496

/-- The sign bit of a double is set. -/
def isNegative (value : Float) : Bool := value.toBits >>> 63 = 1

/-- The absolute value of a finite double, exactly. -/
def magnitude (value : Float) : Dyadic :=
  let fraction := (value.toBits &&& 0xfffffffffffff).toNat
  let scale := ((value.toBits >>> 52) &&& 0x7ff).toNat
  if scale = 0 then ⟨fraction, -1074⟩ else ⟨leadingBit + fraction, Int.ofNat scale - 1075⟩

/-- Positive infinity. -/
def infinity : Float := Float.ofBits 0x7ff0000000000000

/-- The positive double whose mantissa and exponent are already of the right size. A mantissa
of `2 ^ 53` carries over into the exponent. -/
def pack (mantissa : Nat) (exponent : Int) : Float :=
  if mantissa < leadingBit then Float.ofBits (UInt64.ofNat mantissa)
  else
    let bits := (exponent + 1075).toNat * leadingBit + (mantissa - leadingBit)
    if bits < 0x7ff0000000000000 then Float.ofBits (UInt64.ofNat bits) else infinity

/-- The double nearest to a positive number that is at least `number`, and less than one unit of
its last mantissa bit above it; `inexact` says that it is above. The mantissa has at least 55
bits, so that it decides the rounding together with `inexact`. -/
def nearest (number : Dyadic) (inexact : Bool) : Float :=
  let surplus : Int := number.mantissa.log2 - 52
  let exponent : Int := max (number.exponent + surplus) (-1074)
  let cut := (exponent - number.exponent).toNat
  let kept := number.mantissa >>> cut
  let dropped := number.mantissa % Nat.pow 2 cut
  let half := Nat.pow 2 cut / 2
  let up := half < dropped || (dropped = half && (inexact || kept % 2 = 1))
  pack (if up then kept + 1 else kept) exponent

/-- The square root of an exact number, as the nearest double. -/
def squareRoot (number : Dyadic) : Float :=
  if number.mantissa = 0 then 0
  else
    -- An even exponent can be halved, and a root of 56 bits decides the rounding.
    let widened : Dyadic :=
      if number.exponent % 2 = 0 then number
      else ⟨2 * number.mantissa, number.exponent - 1⟩
    let shift := 55 - widened.mantissa.log2 / 2
    let radicand := widened.mantissa * Nat.pow 4 shift
    let root := radicand.sqrt
    nearest ⟨root, widened.exponent / 2 - shift⟩ (root * root ≠ radicand)

/-- The sum of the squares of two exact numbers. -/
def sumOfSquares (left right : Dyadic) : Dyadic :=
  let common := min left.exponent right.exponent
  let square (number : Dyadic) : Nat :=
    number.mantissa * number.mantissa * Nat.pow 4 (number.exponent - common).toNat
  ⟨square left + square right, 2 * common⟩

/-- The length of the hypotenuse over two sides, correctly rounded. An infinite side makes it
infinite, whatever the other side is, and over a side of no length it is the other side. -/
def hypotenuse (left right : Float) : Float :=
  if left.isInf || right.isInf then infinity
  else if left.isNaN || right.isNaN then left + right
  else if left == 0 then right.abs
  else if right == 0 then left.abs
  else squareRoot (sumOfSquares (magnitude left) (magnitude right))

/-- The hypotenuse over two sides is shorter than a bound. It is never shorter than a side, so a
side that reaches the bound decides without a root. -/
def isHypotenuseBelow (bound left right : Float) : Bool :=
  if bound ≤ left.abs || bound ≤ right.abs then false else hypotenuse left right < bound

end Binary64

end LiveFleet
