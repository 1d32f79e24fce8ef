import TabDeck.Input
import TabDeck.PaneRow

/-!
# Gestures on the panes

A sideways drag takes hold of the row of panes, moves it with the finger, and when the finger goes
up lets it settle on the nearest pane, a little further with every tick:

    resting -- drag accepted --> dragging -- release --> settling -- arrived --> resting

A press interrupts the settling, and abandoning the gesture goes back to the remembered offset.
Velocities are single-precision numbers in pixels per millisecond, every operation rounded once.
-/

namespace TabDeck

/-- What a gesture is doing. -/
inductive Gesture.Phase where
  | resting
  | dragging
  /-- The row travels toward a pane. -/
  | settling (target : Nat)
  deriving DecidableEq, Repr, Inhabited

/-- What came of a tick. -/
inductive Gesture.Progress where
  | idle
  | moving
  /-- The row reached a pane, which should become active. -/
  | arrived (target : Nat)
  deriving DecidableEq, Repr

/-- When a drag may page into a neighbouring tab. -/
structure PagingRule where
  active : Nat
  /-- For every tab whether it refuses to be entered. -/
  blocked : List Bool
  /-- Tabs may be entered all the same. -/
  intoDisabled : Bool
  deriving DecidableEq, Repr

namespace PagingRule

/-- Whether the content may travel in a direction. Between two panes it always may. -/
def permits (rule : PagingRule) (direction : Direction) (isAligned : Bool) : Except Fault Bool :=
  if !isAligned then .ok true
  else
    let neighbour? : Option Nat := match direction with
      | .left => if 0 < rule.active then some (rule.active - 1) else none
      | .right => if rule.active + 1 < rule.blocked.length then some (rule.active + 1) else none
      | .up | .down => none
    match neighbour? with
    | none => .ok false
    | some neighbour =>
      if rule.intoDisabled then .ok true
      else (entry rule.blocked neighbour).map fun isBlocked => !isBlocked

end PagingRule

/-- The state of a gesture. -/
structure Gesture where
  phase : Gesture.Phase := .resting
  /-- The gesture began in the strip of tabs. -/
  inStrip : Bool := false
  /-- The smoothed velocity of the finger. -/
  velocity : Float32 := 0.0
  lastTime : Option Nat := none
  deriving Inhabited

namespace Gesture

/-- The time assumed to lie before the first movement, in milliseconds. -/
def firstInterval : Float32 := 16.0

/-- Movements this far apart, in milliseconds, say nothing about the velocity. -/
def staleInterval : Nat := 500

/-- The weight of the latest movement in the velocity. -/
def smoothing : Float32 := 0.3

/-- The part of the velocity that is left after a tick. -/
def friction : Float32 := 0.9

/-- The least velocity of a settling row. -/
def leastSpeed : Float32 := 0.5

/-- Whether a finger is dragging the row. -/
def isDragging (gesture : Gesture) : Bool := gesture.phase = .dragging

/-- The pane toward which the row is settling. -/
def target (gesture : Gesture) : Option Nat :=
  match gesture.phase with
  | .settling target => some target
  | .resting | .dragging => none

/-- Forgets the gesture, but not where it began. -/
def forget (gesture : Gesture) : Gesture :=
  { gesture with phase := .resting, velocity := 0.0, lastTime := none }

/-- A finger comes down. The offset is remembered only when a pane is aligned, so that a settling
that is interrupted goes back to where it began. -/
def press (gesture : Gesture) (inStrip : Bool) (row : PaneRow) : Gesture × PaneRow :=
  ({ gesture.forget with inStrip }, if row.aligned.isSome then row.remember else row)

/-- Takes a movement into the velocity. -/
def track (gesture : Gesture) (distance : Int) (time : Nat) : Gesture :=
  let velocity := match gesture.lastTime with
    | none => Float32.ofInt distance / firstInterval
    | some last =>
      let interval := time - last
      if 0 < interval ∧ interval < staleInterval then
        let latest := Float32.ofInt distance / Float32.ofNat interval
        gesture.velocity * (1.0 - smoothing) + latest * smoothing
      else gesture.velocity
  { gesture with velocity, lastTime := some time }

/-- Whether a movement may take hold of a row at rest: it must go sideways, the strip must overflow,
and the tab it leads to must be open. -/
def takesHold (row : PaneRow) (rule : PagingRule) (movement : Point) : Except Fault Bool :=
  match Direction.ofMovement? movement with
  | none => .ok false
  | some direction =>
    if direction.isHorizontal && row.overflows then
      rule.permits direction.opposite row.aligned.isSome
    else .ok false

/-- The finger moves. The answer is whether the row took the movement. -/
def drag (gesture : Gesture) (row : PaneRow) (rule : PagingRule) (movement : Point) (time : Nat) :
    Except Fault (Bool × Gesture × PaneRow) := do
  let tracked := gesture.track movement.x time
  match gesture.phase with
  | .dragging => return (true, tracked, ← row.moveBy (-movement.x))
  | .settling _ => return (false, tracked, row)
  | .resting =>
    if ← takesHold row rule movement then
      return (true, { tracked with phase := .dragging }, ← row.moveBy (-movement.x))
    else return (false, tracked, row)

/-- The finger goes up. Unless a pane is aligned and nothing was dragged, the row starts to settle
on the nearest pane. -/
def release (gesture : Gesture) (row : PaneRow) : Gesture :=
  if !gesture.isDragging && row.aligned.isSome then { gesture with phase := .resting }
  else
    match row.nearest with
    | some target => { gesture with phase := .settling target }
    | none => { gesture with phase := .resting }

/-- How far a settling row travels in some milliseconds: at least one pixel. -/
def stride (gesture : Gesture) (elapsed : Nat) : Int :=
  let speed := if gesture.velocity < 0.0 then -gesture.velocity else gesture.velocity
  let speed := if speed < leastSpeed then leastSpeed else speed
  let distance := (speed * Float32.ofNat elapsed).toUInt64.toNat
  max (min (distance : Int) Word.maxSigned) 1

/-- Time passes. A settling row travels toward its pane and stops there. -/
def tick (gesture : Gesture) (row : PaneRow) (elapsed : Nat) :
    Except Fault (Progress × Gesture × PaneRow) :=
  match gesture.phase with
  | .resting | .dragging => .ok (.idle, gesture, row)
  | .settling target => do
    let remaining := (← row.offsetOf target) - row.offset
    let step := gesture.stride elapsed
    if remaining.natAbs ≤ step then
      let row ← row.alignTo target
      return (.arrived target, { gesture with phase := .resting, velocity := 0.0 }, row)
    else
      let row ← row.moveTo (row.offset + step * remaining.sign)
      return (.moving, { gesture with velocity := gesture.velocity * friction }, row)

/-- Something else took the movement over: the row goes back to the remembered offset. -/
def abandon (gesture : Gesture) (row : PaneRow) : Gesture × PaneRow := (gesture.forget, row.goBack)

end Gesture

end TabDeck
