import TabDeck.Colour
import TabDeck.Picture.Shape

/-!
# Pictures and canvases

A picture is a list of shapes in their colours, painted one over the other; a shape may be clipped
to a rectangle. A canvas has a colour for each pixel, and painting beyond its edges does nothing.
-/

namespace TabDeck

/-- A shape in a colour. -/
structure Painted where
  shape : Shape
  colour : Colour
  /-- The rectangle outside of which nothing is painted. -/
  clip : Option Rect := none
  deriving Repr

/-- Shapes to be painted one after the other. -/
abbrev Picture := List Painted

/-- A picture with everything clipped to a rectangle. -/
def Picture.clippedTo (picture : Picture) (clip : Rect) : Picture :=
  picture.map fun painted => { painted with clip := some clip }

/-- The pixels of a display. -/
structure Canvas where
  width : Nat
  height : Nat
  /-- The pixels row by row. -/
  pixels : Array Colour
  deriving DecidableEq, Repr

namespace Canvas

/-- A canvas of one colour. -/
def filled (size : Size) (colour : Colour) : Canvas :=
  ⟨size.width, size.height, Array.replicate (size.width * size.height) colour⟩

/-- The colour of a pixel. -/
def get? (canvas : Canvas) (point : Point) : Option Colour :=
  if 0 ≤ point.x ∧ point.x < canvas.width ∧ 0 ≤ point.y ∧ point.y < canvas.height then
    canvas.pixels[point.y.toNat * canvas.width + point.x.toNat]?
  else none

/-- The rows from top to bottom. -/
def rows (canvas : Canvas) : List (List Colour) :=
  (List.range canvas.height).map fun row =>
    (canvas.pixels.extract (row * canvas.width) ((row + 1) * canvas.width)).toList

/-- Gives some pixels in a row a colour. -/
def fill (colour : Colour) : Nat → Nat → Array Colour → Array Colour
  | _, 0, pixels => pixels
  | index, count + 1, pixels => fill colour (index + 1) count (pixels.setIfInBounds index colour)

/-- The columns of a row that can be painted, from the first to before the last. -/
def openColumns (width : Nat) (clip : Option Rect) (row : Int) : Nat × Nat :=
  match clip with
  | none => (0, width)
  | some clip =>
    if clip.origin.y ≤ row ∧ row < clip.origin.y + clip.size.height then
      (clip.origin.x.toNat, min width (clip.origin.x + clip.size.width).toNat)
    else (0, 0)

/-- Paints a run of pixels as far as it lies in the open columns of its row. -/
def paintRun (width : Nat) (columns : Nat × Nat) (row : Nat) (colour : Colour)
    (pixels : Array Colour) (run : PixelRun) : Array Colour :=
  let first := max columns.1 run.first.toNat
  let stop := min columns.2 (run.last + 1).toNat
  fill colour (row * width + first) (stop - first) pixels

/-- Paints one row of a shape. -/
def paintRow (width : Nat) (painted : Painted) (pixels : Array Colour) (row : Nat) :
    Array Colour :=
  let columns := openColumns width painted.clip row
  if columns.1 < columns.2 then
    (painted.shape.runs row).foldl (paintRun width columns row painted.colour) pixels
  else pixels

/-- Paints a shape. -/
def paint (canvas : Canvas) (painted : Painted) : Canvas :=
  let rows := List.range canvas.height
  ⟨canvas.width, canvas.height, rows.foldl (paintRow canvas.width painted) canvas.pixels⟩

/-- Paints a picture. -/
def draw (canvas : Canvas) (picture : Picture) : Canvas := picture.foldl paint canvas

end Canvas

end TabDeck
