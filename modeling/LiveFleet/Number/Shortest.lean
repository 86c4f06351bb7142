/-
This file writes a double as the decimal number with the fewest digits that is
read back as the same double. The doubles around a value leave it an interval:
every decimal number inside is read back as this value. The search walks
through decimal grids from one that is coarser than the value to ever finer
ones and takes the first that has a point in the interval, so no number with
fewer digits lies in it; of two points the nearer is taken, and of two equally
near ones the larger. The text is positional, without an exponent.
-/
import LiveFleet.Number.Binary64

namespace LiveFleet

namespace Decimal

/-- The number `digits * 10 ^ exponent`. -/
structure Number where
  digits : Nat
  exponent : Int
  deriving DecidableEq, Repr

/-- The reals that are read back as one double, in quarters of the unit of its mantissa; both
ends belong to it when `closed` is set. -/
structure Interval where
  low : Nat
  value : Nat
  high : Nat
  closed : Bool

/-- The interval of a positive double. The gap below a power of two is half as wide as the gap
above it. -/
def Interval.around (number : Dyadic) : Interval :=
  let narrow := number.mantissa = Binary64.leadingBit ∧ -1074 < number.exponent
  { low := 4 * number.mantissa - if narrow then 1 else 2
    value := 4 * number.mantissa
    high := 4 * number.mantissa + 2
    closed := number.mantissa % 2 = 0 }

/-- The grid of multiples of `10 ^ exponent`, measured so that a length `n` in the unit of the
interval is `n * scale` and grid point `c` is `c * step`. -/
structure Grid where
  scale : Nat
  step : Nat

/-- The grid of multiples of `10 ^ exponent`, for an interval in units of `2 ^ unit`. -/
def Grid.make (unit exponent : Int) : Grid :=
  { scale := Nat.pow 2 unit.toNat * Nat.pow 10 (-exponent).toNat
    step := Nat.pow 10 exponent.toNat * Nat.pow 2 (-unit).toNat }

/-- The grid point lies in the interval. -/
def Grid.hits (grid : Grid) (interval : Interval) (point : Nat) : Bool :=
  let place := point * grid.step
  let low := interval.low * grid.scale
  let high := interval.high * grid.scale
  if interval.closed then low ≤ place && place ≤ high else low < place && place < high

/-- The grid point in the interval that is nearest to its value, if there is one. -/
def Grid.nearest? (grid : Grid) (interval : Interval) : Option Nat :=
  let value := interval.value * grid.scale
  let below := value / grid.step
  let above := below + 1
  match grid.hits interval below, grid.hits interval above with
  | true, true =>
    some (if value - below * grid.step < above * grid.step - value then below else above)
  | true, false => some below
  | false, true => some above
  | false, false => none

/-- Walk from a coarse grid to finer ones; `steps` bounds the walk. -/
def search (interval : Interval) (unit : Int) : Nat → Int → Number
  | 0, exponent => ⟨0, exponent⟩
  | steps + 1, exponent =>
    match (Grid.make unit exponent).nearest? interval with
    | some point => ⟨point, exponent⟩
    | none => search interval unit steps (exponent - 1)

/-- The shortest decimal number that is read back as the positive double. The first grid is
coarser than the value: three decimal digits are less than ten binary ones. -/
def shortest (number : Dyadic) : Number :=
  let unit := number.exponent - 2
  let magnitude : Int := number.mantissa.log2 + number.exponent + 1
  search (Interval.around number) unit 40 (max (magnitude * 3 / 10) (magnitude * 31 / 100) + 2)

/-- A decimal number in positional notation. -/
def Number.text (number : Number) : String :=
  if 0 ≤ number.exponent then
    toString number.digits ++ String.ofList (List.replicate number.exponent.toNat '0')
  else
    let places := (-number.exponent).toNat
    let whole := number.digits / Nat.pow 10 places
    let fraction := toString (number.digits % Nat.pow 10 places)
    toString whole ++ "." ++
      String.ofList (List.replicate (places - fraction.length) '0') ++ fraction

end Decimal

/-- The shortest positional text of a double; a zero keeps its sign. -/
def floatText (value : Float) : String :=
  if value.isNaN then "NaN"
  else
    let sign := if Binary64.isNegative value then "-" else ""
    if value.isInf then sign ++ "inf"
    else
      let number := Binary64.magnitude value
      sign ++ (if number.mantissa = 0 then "0" else (Decimal.shortest number).text)

end LiveFleet
