import TabDeck.Error
import TabDeck.Word

/-!
# The row of panes

In flick mode all panes lie side by side, each one viewport to the right of its neighbour, and share
one offset. The offset lies between `lowest`, at which the last pane is in view, and zero, at which
the first one is. A gesture that is called off goes back to the offset remembered before it.
-/

namespace TabDeck

/-- The panes side by side, and how far they are shifted. -/
structure PaneRow where
  /-- The left edge of the first pane in the viewport. -/
  offset : Int
  /-- The offset to go back to when a gesture is called off. -/
  remembered : Int
  /-- The distance between neighbouring panes. -/
  stride : Nat
  viewport : Nat
  count : Nat
  /-- The width that the strip of tabs wants. -/
  stripWidth : Nat
  deriving DecidableEq, Repr, Inhabited

namespace PaneRow

/-- A row of panes at rest on the first one. -/
def ofPanes (count viewport : Nat) : PaneRow where
  offset := 0
  remembered := 0
  stride := viewport
  viewport
  count
  stripWidth := 0

/-- The offset at which the last pane is in view. -/
def lowest (row : PaneRow) : Int :=
  -Word.signed (max ((row.stride * row.count : Nat) - (row.viewport : Int)) 0)

/-- The offset at which the first pane is in view, whatever the row. -/
def highest (_ : PaneRow) : Int := 0

/-- The offset of the range that is closest to a value. -/
def confine (row : PaneRow) (value : Int) : Except Fault Int :=
  if 0 < row.lowest then .error (.emptyRange row.lowest 0)
  else .ok (max row.lowest (min value 0))

/-- Takes on new dimensions and confines both offsets to them. -/
def resize (row : PaneRow) (count viewport stripWidth : Nat) : Except Fault PaneRow := do
  let row := { row with count, viewport, stride := viewport, stripWidth }
  let offset ← row.confine row.offset
  let remembered ← row.confine row.remembered
  return { row with offset, remembered }

/-- Takes on another width of the strip. -/
def withStripWidth (row : PaneRow) (stripWidth : Nat) : PaneRow := { row with stripWidth }

/-- There is more than one pane, and the strip wants more than the viewport has. -/
def overflows (row : PaneRow) : Bool := 1 < row.count && row.viewport < row.stripWidth

/-- Goes to an offset, or as far toward it as the range allows. -/
def moveTo (row : PaneRow) (offset : Int) : Except Fault PaneRow := do
  return { row with offset := ← row.confine offset }

/-- Goes toward later panes by a distance. A row whose strip fits does not move. -/
def moveBy (row : PaneRow) (distance : Int) : Except Fault PaneRow :=
  if row.overflows then row.moveTo (Word.saturate (row.offset - distance)) else .ok row

/-- The offset at which a pane is in view. -/
def offsetOf (row : PaneRow) (pane : Nat) : Except Fault Int :=
  row.confine (-Word.signed (pane * row.stride : Nat))

/-- Brings a pane into view and remembers the offset. -/
def alignTo (row : PaneRow) (pane : Nat) : Except Fault PaneRow := do
  let offset ← row.offsetOf pane
  return { row with offset, remembered := offset }

/-- The left edge of a pane in the viewport. -/
def paneLeft (row : PaneRow) (pane : Nat) : Int :=
  row.offset + Word.signed (pane * row.stride : Nat)

/-- One step of the search for the nearest pane: a pane must be strictly nearer than the best. -/
def nearer (row : PaneRow) (best : Nat × Option Nat) (pane : Nat) : Nat × Option Nat :=
  let distance := (row.paneLeft pane).natAbs
  if distance < best.1 then (distance, some pane) else best

/-- The nearest pane with its distance from the left edge of the viewport. -/
def nearestWithin (row : PaneRow) : Nat × Option Nat :=
  (List.range row.count).foldl row.nearer (row.stride, none)

/-- The pane nearest to the left edge of the viewport, of two the lower one. Panes a stride away or
further do not count. -/
def nearest (row : PaneRow) : Option Nat := row.nearestWithin.2

/-- The pane that stands exactly at the left edge of the viewport. -/
def aligned (row : PaneRow) : Option Nat :=
  if row.nearestWithin.1 = 0 then row.nearestWithin.2 else none

/-- Remembers the offset. -/
def remember (row : PaneRow) : PaneRow := { row with remembered := row.offset }

/-- Goes back to the remembered offset. -/
def goBack (row : PaneRow) : PaneRow := { row with offset := row.remembered }

/-- Whether another row is shifted differently. -/
def movedFrom (row before : PaneRow) : Bool := row.offset != before.offset

end PaneRow

end TabDeck
