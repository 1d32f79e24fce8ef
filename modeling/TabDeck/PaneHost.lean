import TabDeck.Geometry

/-!
# Hosts of panes

A deck never looks inside a pane. It asks a host to create panes, to mount, move and unmount them
and to give them the focus, and knows them by handle only. `PaneLink` carries the host's state and
keeps a history of what was asked and answered.
-/

namespace TabDeck

/-- The name of a pane. -/
structure PaneId where
  id : Nat
  deriving DecidableEq, Repr, Inhabited

/-- What can own the panes of a deck, with `σ` for its state. -/
class PaneHost (σ : Type) where
  /-- Creates a pane for a tab that was given none. -/
  create : σ → Nat → PaneId × σ
  /-- Shows a pane in a rectangle of the display, or moves a shown pane there. -/
  mount : σ → PaneId → Rect → σ
  /-- Takes a pane off the display. -/
  unmount : σ → PaneId → σ
  /-- Moves the top-left corner of a shown pane. -/
  move : σ → PaneId → Point → σ
  /-- Focuses the first child of a pane, or the last, and answers whether there is one. -/
  takeFocus : σ → PaneId → Bool → Bool × σ

/-- One request to a host, with its answer. -/
inductive PaneCall where
  | create (tab : Nat) (handle : PaneId)
  | mount (handle : PaneId) (rect : Rect)
  | unmount (handle : PaneId)
  | move (handle : PaneId) (corner : Point)
  | takeFocus (handle : PaneId) (forward granted : Bool)
  deriving DecidableEq, Repr

/-- A host and the requests made to it so far, the latest first. -/
structure PaneLink (σ : Type) where
  host : σ
  /-- The requests, the latest first. -/
  calls : List PaneCall := []
  deriving Repr

namespace PaneLink

variable {σ : Type} [PaneHost σ]

/-- Has a pane created for a tab. -/
def create (link : PaneLink σ) (tab : Nat) : PaneId × PaneLink σ :=
  let (handle, host) := PaneHost.create link.host tab
  (handle, { host, calls := .create tab handle :: link.calls })

/-- Has a pane shown in a rectangle. -/
def mount (link : PaneLink σ) (handle : PaneId) (rect : Rect) : PaneLink σ :=
  { host := PaneHost.mount link.host handle rect, calls := .mount handle rect :: link.calls }

/-- Has a pane taken off the display. -/
def unmount (link : PaneLink σ) (handle : PaneId) : PaneLink σ :=
  { host := PaneHost.unmount link.host handle, calls := .unmount handle :: link.calls }

/-- Has a shown pane moved. -/
def move (link : PaneLink σ) (handle : PaneId) (corner : Point) : PaneLink σ :=
  { host := PaneHost.move link.host handle corner, calls := .move handle corner :: link.calls }

/-- Offers the focus to a pane and answers whether it was taken. -/
def takeFocus (link : PaneLink σ) (handle : PaneId) (forward : Bool) : Bool × PaneLink σ :=
  let (granted, host) := PaneHost.takeFocus link.host handle forward
  (granted, { host, calls := .takeFocus handle forward granted :: link.calls })

end PaneLink

/-- The requests that one link has beyond an earlier one, in the order in which they were made. -/
def PaneLink.callsSince {σ : Type} (link earlier : PaneLink σ) : List PaneCall :=
  (link.calls.take (link.calls.length - earlier.calls.length)).reverse

end TabDeck
