import TabDeck.Geometry

/-!
# Which rectangle a finger meant

Tabs that overlap by a column are searched from the right. In flick mode a finger may miss a tab:
the tab at the least distance counts, if that is within a tolerance. Distances are Euclidean,
rounded to the nearest whole number of pixels.
-/

namespace TabDeck

/-- The largest number whose square is not above `value`. -/
def squareRoot (value : Nat) : Nat :=
  if value = 0 then 0
  else
    let guess := 2 * squareRoot (value / 4)
    if (guess + 1) * (guess + 1) ≤ value then guess + 1 else guess
termination_by value

/-- The square root of a number, rounded to the nearest whole number. -/
def roundedRoot (value : Nat) : Nat :=
  let root := squareRoot value
  if root * root + root < value then root + 1 else root

namespace Rect

/-- How far a column lies outside a rectangle; the first column past it counts as inside. -/
def columnGap (rect : Rect) (point : Point) : Nat :=
  (max (rect.origin.x - point.x) (point.x - rect.right)).toNat

/-- How far a row lies outside a rectangle; the first row past it counts as inside. -/
def rowGap (rect : Rect) (point : Point) : Nat :=
  (max (rect.origin.y - point.y) (point.y - rect.bottom)).toNat

/-- The square of the distance between a point and a rectangle. -/
def squaredDistance (rect : Rect) (point : Point) : Nat :=
  rect.columnGap point * rect.columnGap point + rect.rowGap point * rect.rowGap point

/-- The distance between a point and a rectangle. -/
def distance (rect : Rect) (point : Point) : Nat := roundedRoot (rect.squaredDistance point)

/-- The distance between a point and a rectangle, unless it certainly exceeds a limit. -/
def distanceWithin (rect : Rect) (point : Point) (limit : Nat) : Option Nat :=
  if (limit + 1) * (limit + 1) < rect.squaredDistance point then none
  else some (rect.distance point)

/-- The last of some rectangles that contains a point. -/
def lastContaining (point : Point) : List Rect → Option Nat
  | [] => none
  | rect :: rest =>
    match lastContaining point rest with
    | some index => some (index + 1)
    | none => if rect.Contains point then some 0 else none

/-- Searches rectangles from the last to the first for the nearest to a point, with a limit that
shrinks to the least distance found. -/
def searchNearest (point : Point) (tolerance : Nat) : List Rect → Nat × Option Nat
  | [] => (tolerance, none)
  | rect :: rest =>
    let (limit, found) := searchNearest point tolerance rest
    let found := found.map (· + 1)
    match rect.distanceWithin point limit with
    | some distance => if distance ≤ limit then (distance, some 0) else (limit, found)
    | none => (limit, found)

/-- The nearest of some rectangles to a point within a tolerance, of several the first. -/
def nearestWithin (point : Point) (tolerance : Nat) (rects : List Rect) : Option Nat :=
  (searchNearest point tolerance rects).2

end Rect

end TabDeck
