import TabDeck.Input
import TabDeck.Settings

/-!
# Keyboard focus

The focus is outside the deck, on the strip, or in the active pane. On the strip the left and right
keys change tabs and the key toward the panes enters the active pane, whose own traversal then moves
the focus until it runs off an end.
-/

namespace TabDeck

/-- Where the keyboard focus is. -/
inductive KeyFocus where
  | outside
  | onStrip
  | inPane
  deriving DecidableEq, Repr, Inhabited

/-- What can happen to the focus. -/
inductive KeyFocus.Event where
  /-- The deck was given the focus. -/
  | enter
  | key (direction : Direction)
  /-- The confirming key. -/
  | action
  /-- The traversal of the active pane ran off an end. -/
  | paneExhausted
  deriving DecidableEq, Repr

/-- What a deck has to do when something happened to the focus. -/
inductive KeyFocus.Task where
  | nothing
  /-- Activate the next enabled tab, or the previous one. -/
  | changeTab (forward : Bool)
  /-- Focus the first or the last child of the active pane. -/
  | enterPane (forward : Bool)
  | reclaim
  | release
  deriving DecidableEq, Repr

/-- The key that points from the strip to the panes. -/
def StripEdge.keyTowardPanes : StripEdge → Direction
  | .top => .down
  | .bottom => .up

namespace KeyFocus

/-- Where the focus is after an event, and what has to be done. Most events do nothing in most
places. -/
def respond (place : KeyFocus) (event : Event) (edge : StripEdge) : KeyFocus × Task :=
  match place, event with
  | .outside, .enter => (.onStrip, .nothing)
  | .onStrip, .key .left => (.onStrip, .changeTab false)
  | .onStrip, .key .right => (.onStrip, .changeTab true)
  | .onStrip, .key direction =>
    if direction = edge.keyTowardPanes then (.inPane, .enterPane (direction = .down))
    else (.onStrip, .nothing)
  | .inPane, .paneExhausted => (.onStrip, .reclaim)
  | .onStrip, .action => (.outside, .release)
  | place, _ => (place, .nothing)

/-- Where the focus is after the active pane refused it. -/
def refused : KeyFocus → KeyFocus
  | .inPane => .onStrip
  | place => place

end KeyFocus

/-- Where an arrow key leads in a window that moves the focus by position. -/
inductive KeyRoute where
  /-- To a neighbour of the deck. -/
  | leave
  | enterPane
  /-- To another tab. -/
  | stay
  deriving DecidableEq, Repr

/-- Where an arrow key leads while the focus is on the strip: the ends of the strip lead outside. -/
def keyRoute (direction : Direction) (edge : StripEdge) (active count : Nat) : KeyRoute :=
  match direction with
  | .left => if active = 0 then .leave else .stay
  | .right => if count ≤ active + 1 then .leave else .stay
  | .up | .down => if direction = edge.keyTowardPanes then .enterPane else .leave

end TabDeck
