import TabDeck.Geometry

/-!
# Input

What a host passes on to a deck: touches, drags and keys. Arrow keys and drags share the four
directions.
-/

namespace TabDeck

/-- A direction on the display, of an arrow key or of a drag. -/
inductive Direction where
  | left
  | right
  | up
  | down
  deriving DecidableEq, Repr, Inhabited

namespace Direction

/-- Whether the direction is up or down. -/
def isVertical : Direction → Bool
  | .up | .down => true
  | .left | .right => false

/-- Whether the direction is left or right. -/
def isHorizontal : Direction → Bool
  | .left | .right => true
  | .up | .down => false

/-- The direction in which the content travels when a finger drags this way. -/
def opposite : Direction → Direction
  | .left => .right
  | .right => .left
  | .up => .down
  | .down => .up

/-- The main direction of a movement. It is sideways only when the movement is wider than high. -/
def ofMovement? (movement : Point) : Option Direction :=
  if movement.x = 0 ∧ movement.y = 0 then none
  else if movement.y.natAbs < movement.x.natAbs then
    some (if movement.x < 0 then .left else .right)
  else
    some (if movement.y < 0 then .up else .down)

end Direction

/-- A place where a finger can touch the display. -/
structure Touch where
  x : UInt16
  y : UInt16
  deriving DecidableEq, Repr, Inhabited

namespace Touch

/-- The touched pixel. -/
def point (touch : Touch) : Point := ⟨touch.x.toNat, touch.y.toNat⟩

/-- The touch at a pixel, each coordinate cut to sixteen bits. -/
def ofPoint (point : Point) : Touch :=
  ⟨UInt16.ofNat (point.x % 65536).toNat, UInt16.ofNat (point.y % 65536).toNat⟩

end Touch

/-- One event of the host's event loop. -/
inductive Input where
  | press (touch : Touch)
  /-- A finger on the display moved since the last event, at a time in milliseconds. -/
  | drag (touch : Touch) (movement : Point) (time : Nat)
  | release (touch : Touch)
  /-- Something else took the finger's movement over. -/
  | abandon
  | key (direction : Direction)
  /-- The confirming key. -/
  | action
  /-- The deck was given the keyboard focus. -/
  | focus
  deriving DecidableEq, Repr

end TabDeck
