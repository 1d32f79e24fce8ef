/-!
# Colours of a 16-bit display

A colour has five bits of red, six of green and five of blue. The named colours are those that the
palettes are made of.
-/

namespace TabDeck

/-- A colour with 32 levels of red, 64 of green and 32 of blue. -/
structure Colour where
  red : Fin 32
  green : Fin 64
  blue : Fin 32
  deriving DecidableEq, Repr, Inhabited

namespace Colour

/-- A colour of the low bits of three channels. -/
def ofChannels (red green blue : Nat) : Colour :=
  ⟨Fin.ofNat 32 red, Fin.ofNat 64 green, Fin.ofNat 32 blue⟩

/-- The colour as one 16-bit word, red in the high bits. -/
def packed (colour : Colour) : Nat :=
  colour.red.val * 2048 + colour.green.val * 32 + colour.blue.val

/-- Every channel at half its level, rounded down. -/
def faded (colour : Colour) : Colour :=
  ⟨⟨colour.red.val / 2, by omega⟩, ⟨colour.green.val / 2, by omega⟩,
    ⟨colour.blue.val / 2, by omega⟩⟩

/-- The dark colour of a screen behind all controls. -/
def background : Colour := ofChannels 2 5 3

/-- A surface slightly lighter than the background. -/
def surface : Colour := ofChannels 3 8 4

/-- The colour of outlines. -/
def stroke : Colour := ofChannels 5 13 7

/-- The bright colour of pressed tabs and of the focus ring. -/
def accent : Colour := ofChannels 11 46 17

/-- The surface of a raised tab. -/
def raised : Colour := ofChannels 4 11 6

/-- All channels at their highest level. -/
def white : Colour := ofChannels 31 63 31

/-- All channels at their lowest level. -/
def black : Colour := ofChannels 0 0 0

/-- Red and green at their highest level. -/
def yellow : Colour := ofChannels 31 63 0

/-- A light grey for secondary text. -/
def lightGrey : Colour := ofChannels 21 42 21

/-- A grey for disabled text. -/
def grey : Colour := ofChannels 16 32 16

/-- A dark grey for subtle text. -/
def darkGrey : Colour := ofChannels 10 20 10

end Colour

end TabDeck
