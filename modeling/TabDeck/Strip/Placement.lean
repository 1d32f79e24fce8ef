import TabDeck.Strip.Basic

/-!
# Placing a strip in its deck

Tabs are placed side by side from column one on, and neighbours share a column so that their
outlines coincide. A strip that does not fit has arrows at its right end, and is shifted so that the
active tab stays in view. All coordinates are measured from the deck's top-left corner.
-/

namespace TabDeck

/-- The row in which a strip of some height begins. -/
def stripTop (edge : StripEdge) (deckHeight stripHeight : Nat) : Int :=
  match edge with
  | .top => 0
  | .bottom => Word.signed deckHeight - Word.signed stripHeight

namespace Strip

/-- Places tabs from an index and a column on. -/
def placeFrom (active : Option Nat) (top : Int) : Nat → Int → List TabMeasure → List Rect
  | _, _, [] => []
  | index, left, tab :: rest =>
    let rect := if active = some index then tab.selected else tab.unselected
    ⟨⟨left, rect.origin.y + top⟩, rect.size⟩ ::
      placeFrom active top (index + 1) (left + (Word.signed rect.size.width - 1)) rest

/-- The rectangles of all tabs; the active one takes its selected size. -/
def place (strip : Strip) (active : Option Nat) (edge : StripEdge) (deckHeight : Nat) :
    List Rect :=
  placeFrom active (stripTop edge deckHeight strip.height) 0 1 strip.tabs

end Strip

/-- The two arrows at the right end of an overflowing strip. -/
structure Arrows where
  /-- The arrow to the previous tab. -/
  left : Rect
  /-- The arrow to the next tab. -/
  right : Rect
  leftEnabled : Bool := false
  rightEnabled : Bool := false
  deriving DecidableEq, Repr, Inhabited

namespace Arrows

/-- The arrows of a deck. For fingers they are larger. -/
def fit (deck : Size) (stripHeight lineHeight : Nat) (edge : StripEdge) (touch : Bool) : Arrows :=
  let side := if touch then lineHeight * 3 / 4 else max (lineHeight / 2) (stripHeight / 4)
  let width := if touch then side + lineHeight else side
  let rise := Word.signed ((stripHeight + side) / 2 : Nat)
  let top := match edge with
    | .top => Word.signed stripHeight - rise
    | .bottom => Word.signed deck.height - rise
  let rightStart := Word.signed deck.width - Word.signed width
  { left := ⟨⟨rightStart - 2 - Word.signed width, top⟩, ⟨width, side⟩⟩
    right := ⟨⟨rightStart, top⟩, ⟨width, side⟩⟩ }

/-- The column from which on captions are hidden. -/
def limit (arrows : Arrows) : Int := arrows.left.origin.x - 2

/-- Each arrow can be tapped while there is a tab in its direction. -/
def enableFor (arrows : Arrows) (active : Option Nat) (count : Nat) (deckEnabled : Bool) :
    Arrows :=
  { arrows with
    leftEnabled := deckEnabled && 0 < active.getD 0
    rightEnabled := deckEnabled && active.getD 0 + 1 < count }

/-- The arrows moved by a displacement. -/
def shiftBy (arrows : Arrows) (offset : Point) : Arrows :=
  { arrows with left := arrows.left.shiftBy offset, right := arrows.right.shiftBy offset }

end Arrows

/-- The shift that brings a tab of a strip into view. Of the tab before it `peek` columns stay
visible; the strip is pulled back to end at `limit` when it would leave a gap there, or when the
last tab is asked for. -/
def stripShift (tab : Nat) (placed : List Rect) (unselectedWidths : List Nat) (limit peek : Int) :
    Int :=
  if placed.length < 2 ∨ placed.length ≤ tab then 0
  else
    let shift :=
      if tab = 0 then 0
      else
        peek - (unselectedWidths.take tab).foldr
          (fun (width : Nat) columns => Word.signed width - 1 + columns) 0
    match placed.getLast? with
    | none => shift
    | some last =>
      let lastColumn := last.right - 1 + shift
      if lastColumn < limit ∨ tab = placed.length - 1 then shift + (limit - lastColumn) else shift

end TabDeck
