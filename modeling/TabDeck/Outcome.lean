import TabDeck.Geometry

/-!
# Outcomes

Every operation of a deck tells its host what came of it: whether an event was used up, what must
be painted anew, which tab became active, where the keyboard focus went, and whether to click. A
host gathers the outcomes of a frame with `Outcome.andThen`.
-/

namespace TabDeck

/-- Another tab became active. -/
structure TabChange where
  previous : Nat
  current : Nat
  deriving DecidableEq, Repr

/-- A movement of the keyboard focus that the host has to carry out. -/
inductive FocusMove where
  /-- The focus moved into the active pane. -/
  | delegated
  | reclaimed
  /-- The deck gave the focus up. -/
  | released
  deriving DecidableEq, Repr

/-- What came of an operation. -/
structure Outcome where
  /-- The event is used up and must not be offered to others. -/
  consumed : Bool := false
  /-- The region to paint anew. -/
  dirty : Option Rect := none
  /-- The change of the active tab; the first activation is not reported. -/
  change : Option TabChange := none
  focus : Option FocusMove := none
  /-- The host should click. -/
  click : Bool := false
  deriving DecidableEq, Repr

namespace Outcome

/-- Nothing came of it. -/
def nothing : Outcome := {}

/-- Nothing came of it, but the event is used up. -/
def usedUp : Outcome := { consumed := true }

/-- A region has to be painted anew. -/
def repaint (region : Rect) : Outcome := { dirty := some region }

/-- Whether anything has to be painted anew. -/
def needsRedraw (outcome : Outcome) : Bool := outcome.dirty.isSome

/-- Two outcomes in a row: regions are joined, and of two changes or signals the later counts. -/
def andThen (first second : Outcome) : Outcome where
  consumed := first.consumed || second.consumed
  dirty := joinRegions first.dirty second.dirty
  change := second.change.or first.change
  focus := second.focus.or first.focus
  click := first.click || second.click

end Outcome

end TabDeck
