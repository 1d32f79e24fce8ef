import TabDeck.Colour

/-!
# Palettes

The colours in which a deck is painted, with a dark and a light set. The colour of a single tab
overrides `tab`, and `activeTab`, where it is given, overrides both for the active tab.
-/

namespace TabDeck

/-- The colours in which a deck is painted. -/
structure Palette where
  /-- The fill behind the whole deck. -/
  background : Colour
  tab : Colour
  /-- The fill of the active tab, where it differs. -/
  activeTab : Option Colour
  /-- The fill of a tab that is pressed and not yet released. -/
  pressed : Option Colour
  caption : Colour
  disabledCaption : Colour
  /-- The outlines of the tabs and the frame around the panes. -/
  border : Colour
  /-- The arrows beside an overflowing strip. -/
  arrows : Colour
  /-- The ring around the active tab, and its underline in flat style. -/
  focus : Colour
  deriving DecidableEq, Repr, Inhabited

namespace Palette

/-- Light captions on dark tabs. -/
def dark : Palette where
  background := .background
  tab := .surface
  activeTab := some .raised
  pressed := some .accent
  caption := .white
  disabledCaption := .grey
  border := .stroke
  arrows := .lightGrey
  focus := .accent

/-- Dark captions on light tabs. -/
def light : Palette where
  background := .white
  tab := .lightGrey
  activeTab := some .white
  pressed := some .accent
  caption := .background
  disabledCaption := .grey
  border := .darkGrey
  arrows := .darkGrey
  focus := .accent

/-- The palette with another fill for the active tab. -/
def recolourActive (palette : Palette) (colour : Colour) : Palette :=
  { palette with activeTab := some colour }

/-- The palette with another fill for a pressed tab. -/
def recolourPressed (palette : Palette) (colour : Colour) : Palette :=
  { palette with pressed := some colour }

/-- The palette with another text colour, in which the arrows are drawn too. -/
def recolourText (palette : Palette) (colour : Colour) : Palette :=
  { palette with caption := colour, arrows := colour }

end Palette

end TabDeck
