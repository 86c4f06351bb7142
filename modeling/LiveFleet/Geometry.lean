/-
This file holds the plane on which vehicles drive: points, the distance between
them, and the move of a vehicle towards a target. Two points closer than a
billionth of a unit count as one place, so a vehicle that has arrived is not
sent on by the last bit of a coordinate.
-/
import LiveFleet.Number.Binary64
import LiveFleet.Number.Shortest

namespace LiveFleet

/-- A point on the plane. -/
structure Point where
  x : Float
  y : Float

namespace Point

/-- The point at which both coordinates are zero. -/
def origin : Point := ⟨0, 0⟩

instance : Inhabited Point := ⟨origin⟩

/-- Points closer than this are the same place. -/
def tolerance : Float := 1e-9

/-- The straight-line distance between two points. -/
def distance (source target : Point) : Float :=
  Binary64.hypotenuse (target.x - source.x) (target.y - source.y)

/-- Two points are the same place: their distance is below the tolerance. -/
def samePlace (source target : Point) : Bool :=
  Binary64.isHypotenuseBelow tolerance (target.x - source.x) (target.y - source.y)

/-- Go from a point towards a target, by at most `reach`. The answer is where that ends and how
far it is; a target within reach is met exactly. -/
def stepTowards (source target : Point) (reach : Float) : Point × Float :=
  let distance := source.distance target
  if distance ≤ reach || distance < tolerance then (target, distance)
  else
    let ratio := reach / distance
    (⟨source.x + (target.x - source.x) * ratio, source.y + (target.y - source.y) * ratio⟩, reach)

/-- How a point is written. -/
def text (point : Point) : String := "(" ++ floatText point.x ++ ", " ++ floatText point.y ++ ")"

end Point

end LiveFleet
