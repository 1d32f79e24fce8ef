import TabDeck.Deck.Operations
import TabDeck.Touching

/-!
# Fingers on a deck

A finger that comes down on an arrow or on a tab makes another tab active; a flat tab waits for the
finger to go up. In flick mode a finger that moves drags the panes along.
-/

namespace TabDeck

namespace Deck

variable {μ σ : Type} [PaneHost σ]

/-- The tappable arrow at a point relative to the bounds; the answer is whether it points on. -/
def arrowAt (deck : Deck μ σ) (point : Point) : Option Bool :=
  match deck.arrows with
  | none => none
  | some arrows =>
    if arrows.leftEnabled ∧ arrows.left.Contains point then some false
    else if arrows.rightEnabled ∧ arrows.right.Contains point then some true
    else none

/-- The tab that a tap at a point relative to the bounds means. In flick mode a tap may miss. -/
def tabAt (deck : Deck μ σ) (point : Point) : Option Nat :=
  if deck.settings.flicks then
    Rect.nearestWithin point deck.settings.touchTolerance deck.stripRects
  else if deck.inStrip point then Rect.lastContaining point deck.stripRects
  else none

/-- A tap on an arrow goes to the next tab in its direction that takes input. -/
def tapArrow (deck : Deck μ σ) (forward : Bool) : Except Fault (Outcome × Deck μ σ) := do
  let (outcome, deck) ← deck.select (nextAvailable deck.active forward deck.blockedFlags)
  deck.finish { outcome with consumed := true }

/-- A tap on a tab that may be entered. A flat tab is only pressed. -/
def tapOpenTab (deck : Deck μ σ) (index : Nat) : Except Fault (Outcome × Deck μ σ) :=
  let tap : Outcome := { consumed := true, click := deck.settings.clickSound }
  match deck.settings.style with
  | .classic => deck.thenSelect tap index
  | .material =>
    finish { tap with dirty := some deck.stripBand } { deck with pressed := some index }

/-- A tap on a tab. The active tab and blocked ones only use it up. -/
def tapTab (deck : Deck μ σ) (index : Nat) : Except Fault (Outcome × Deck μ σ) :=
  if deck.active = some index then deck.finish .usedUp
  else do
    if ← deck.isBlocked index then deck.finish .usedUp else deck.tapOpenTab index

/-- A new gesture begins at a point relative to the bounds. -/
def beginGesture (deck : Deck μ σ) (point : Point) : Deck μ σ :=
  if deck.settings.flicks then
    let (gesture, row) := deck.gesture.press (deck.inStrip point) deck.row
    { deck with gesture, row, pressed := none }
  else { deck with pressed := none }

/-- A finger comes down. Arrows come first, and what they cover cannot be tapped. -/
def press (deck : Deck μ σ) (touch : Touch) : Except Fault (Outcome × Deck μ σ) :=
  let point := touch.point - deck.bounds.origin
  let deck := deck.beginGesture point
  match deck.arrowAt point with
  | some forward => deck.tapArrow forward
  | none =>
    if deck.stripLimit ≤ point.x then deck.finish .nothing
    else
      match deck.tabAt point with
      | some index => deck.tapTab index
      | none => deck.finish .nothing

/-- A finger moves. When the panes take the movement, a pressed tab is pressed no more. -/
def drag (deck : Deck μ σ) (movement : Point) (time : Nat) :
    Except Fault (Outcome × Deck μ σ) := do
  match deck.settings.mode, deck.active with
  | .paged, _ | _, none => deck.finish .nothing
  | .flick, some active =>
    let rule : PagingRule :=
      { active, blocked := deck.blockedFlags, intoDisabled := deck.settings.flickIntoDisabled }
    let (taken, gesture, row) ← deck.gesture.drag deck.row rule movement time
    let deck := { deck with gesture, row }
    if taken then
      let outcome := if deck.pressed.isSome then deck.repaintAll else deck.repaintPanes
      let deck ← { deck with pressed := none }.moveAll
      deck.finish { outcome with consumed := true }
    else deck.finish .nothing

/-- The panes settle when a finger goes up, unless one is aligned already. -/
def letGo (deck : Deck μ σ) (outcome : Outcome) : Outcome × Deck μ σ :=
  if deck.settings.flicks then
    let deck := { deck with gesture := deck.gesture.release deck.row }
    if deck.gesture.target.isSome then
      ({ outcome with consumed := true }.andThen deck.repaintPanes, deck)
    else (outcome, deck)
  else (outcome, deck)

/-- A finger goes up. A pressed tab becomes active, unless the panes were dragged. -/
def release (deck : Deck μ σ) : Except Fault (Outcome × Deck μ σ) := do
  let pressed := deck.pressed
  let deck := { deck with pressed := none }
  let (outcome, deck) ← match pressed with
    | some index => if deck.gesture.isDragging then deck.finish .nothing else deck.select index
    | none => deck.finish .nothing
  return deck.letGo outcome

end Deck

end TabDeck
