import TabDeck.Strip.Caption

/-!
# Fonts

Two ways of measuring: `FixedAdvance` knows only how far a character advances, and `FontPair` has
two monospaced fonts with glyphs, so that captions can be painted too. A font inks a row of a glyph
as runs of columns.
-/

namespace TabDeck

/-- Measures by a fixed advance per character; widths are unsigned words. -/
structure FixedAdvance where
  /-- The advance of a plain character. -/
  plain : Nat
  /-- The advance of a bold character. -/
  bold : Nat
  height : Nat
  deriving DecidableEq, Repr

instance : FontMetrics FixedAdvance where
  textWidth metrics weight content :=
    let advance := match weight with
      | .plain => metrics.plain
      | .bold => metrics.bold
    Word.unsigned (content.length * advance)
  lineHeight metrics _ := metrics.height
  boldDiffers _ := true

/-- The shapes of the characters of a font. -/
inductive Glyphs where
  /-- Every character is a full block, but the space is blank. -/
  | blocks
  /-- A bitmap for each character from `first` on, and one for all others. -/
  | bitmaps (first : Nat) (table : Array Nat) (other : Nat)
  deriving Repr

/-- A font whose characters all have one size. -/
structure MonoFont where
  width : Nat
  height : Nat
  /-- The blank columns between two characters. -/
  spacing : Nat
  glyphs : Glyphs
  deriving Repr

namespace MonoFont

/-- The width of a run of characters, without a gap after the last. -/
def runWidth (font : MonoFont) (count : Nat) : Nat :=
  count * font.width + (count - 1) * font.spacing

/-- The distance from one character to the next. -/
def advance (font : MonoFont) : Nat := font.width + font.spacing

/-- The bits of one row of a bitmap; rows are bytes, the first one highest. -/
def bitmapRow (font : MonoFont) (bitmap row : Nat) : Nat :=
  bitmap >>> (8 * (font.height - 1 - row)) % 256

/-- The inked columns of a row of a character, as runs from a first to a last column. -/
def ink (font : MonoFont) (character : Char) (row : Nat) : List (Nat × Nat) :=
  if font.height ≤ row then []
  else
    match font.glyphs with
    | .blocks => if character = ' ' ∨ font.width = 0 then [] else [(0, font.width - 1)]
    | .bitmaps first table other =>
      let code := character.toNat
      let bitmap := if code < first then other else table.getD (code - first) other
      let bits := font.bitmapRow bitmap row
      (List.range font.width).filterMap fun column =>
        if bits.testBit (font.width - 1 - column) then some (column, column) else none

end MonoFont

/-- A plain font and, where there is one, a bold font beside it. -/
structure FontPair where
  /-- The font of inactive captions. -/
  plain : MonoFont
  /-- The bold font; without one the plain font serves for both weights. -/
  bold : Option MonoFont
  deriving Repr

namespace FontPair

/-- The font of a weight. -/
def face (fonts : FontPair) : Weight → MonoFont
  | .plain => fonts.plain
  | .bold => fonts.bold.getD fonts.plain

instance : FontMetrics FontPair where
  textWidth fonts weight content := (fonts.face weight).runWidth content.length
  lineHeight fonts weight := (fonts.face weight).height
  boldDiffers fonts := fonts.bold.isSome

end FontPair

end TabDeck
