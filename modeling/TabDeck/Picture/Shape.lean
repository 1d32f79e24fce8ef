import TabDeck.Font

/-!
# Shapes made of pixels

A shape is known by the runs of pixels that it has in each row, `Shape.runs`. Slanted edges follow
the line that steps along the longer axis and keeps to the nearest pixel of the shorter one.
-/

namespace TabDeck

/-- Neighbouring pixels of a row, from a first to a last column, both included. -/
structure PixelRun where
  first : Int
  last : Int
  deriving DecidableEq, Repr

namespace PixelRun

/-- The one pixel in a column. -/
def single (column : Int) : PixelRun := ⟨column, column⟩

/-- The smallest run that holds some columns. -/
def hull : List Int → Option PixelRun
  | [] => none
  | column :: rest => some ⟨rest.foldl min column, rest.foldl max column⟩

end PixelRun

/-- The runs of a rectangle in a row. -/
def Rect.runs (rect : Rect) (row : Int) : List PixelRun :=
  if rect.origin.y ≤ row ∧ row < rect.origin.y + rect.size.height ∧ 0 < rect.size.width then
    [⟨rect.origin.x, rect.origin.x + rect.size.width - 1⟩]
  else []

/-- The runs of the outermost pixels of a rectangle in a row. -/
def Rect.outlineRuns (rect : Rect) (row : Int) : List PixelRun :=
  if row = rect.origin.y ∨ row = rect.origin.y + rect.size.height - 1 then rect.runs row
  else (rect.runs row).flatMap fun run => [.single run.first, .single run.last]

/-- A straight line of pixels between two points. -/
structure Segment where
  start : Point
  stop : Point
  deriving DecidableEq, Repr

namespace Segment

/-- The sign of a step toward the other end. -/
def direction (difference : Int) : Int := if 0 ≤ difference then 1 else -1

/-- How far a line has moved along its shorter axis after some steps along the longer one. -/
def drift (major minor steps : Nat) : Nat := (2 * minor * steps + major - 1) / (2 * major)

/-- The columns of the line in a row. -/
def columns (segment : Segment) (row : Int) : List Int :=
  let wide := segment.stop.x - segment.start.x
  let high := segment.stop.y - segment.start.y
  let down := (row - segment.start.y) * direction high
  if down < 0 ∨ high.natAbs < down then []
  else if wide.natAbs ≤ high.natAbs then
    [segment.start.x + direction wide * drift high.natAbs wide.natAbs down.toNat]
  else
    (List.range (wide.natAbs + 1)).filterMap fun steps =>
      if drift wide.natAbs high.natAbs steps = down then
        some (segment.start.x + direction wide * steps)
      else none

end Segment

/-- The order of points by rows, and within a row by columns. -/
def Point.before (first second : Point) : Bool :=
  first.y < second.y || (first.y = second.y && first.x ≤ second.x)

/-- Three corners. -/
structure Triangle where
  first : Point
  second : Point
  third : Point
  deriving DecidableEq, Repr

namespace Triangle

/-- Twice the signed area. -/
def doubleArea (triangle : Triangle) : Int :=
  (triangle.second.x - triangle.first.x) * (triangle.third.y - triangle.first.y) -
    (triangle.third.x - triangle.first.x) * (triangle.second.y - triangle.first.y)

/-- The corners from top to bottom. -/
def corners (triangle : Triangle) : List Point :=
  [triangle.first, triangle.second, triangle.third].mergeSort Point.before

/-- The edges, each from top to bottom; a flat triangle only has its longest. -/
def edges (triangle : Triangle) : List Segment :=
  match triangle.corners with
  | [top, middle, bottom] =>
    if triangle.doubleArea = 0 then [⟨top, bottom⟩]
    else [⟨top, middle⟩, ⟨top, bottom⟩, ⟨middle, bottom⟩]
  | _ => []

/-- The run of a filled triangle in a row: everything between its edges. -/
def runs (triangle : Triangle) (row : Int) : List PixelRun :=
  (PixelRun.hull (triangle.edges.flatMap fun edge => edge.columns row)).toList

end Triangle

/-- The runs of a line of text in a row, with its top-left corner at a point. -/
def MonoFont.runs (font : MonoFont) (corner : Point) (line : List Char) (row : Int) :
    List PixelRun :=
  if row < corner.y then []
  else
    line.zipIdx.flatMap fun (character, index) =>
      let left := corner.x + (index * font.advance : Nat)
      (font.ink character (row - corner.y).toNat).map fun (first, last) =>
        ⟨left + first, left + last⟩

/-- Something that can be painted in one colour. -/
inductive Shape where
  /-- A filled rectangle. -/
  | block (rect : Rect)
  /-- The outermost pixels of a rectangle. -/
  | outline (rect : Rect)
  /-- A level line between two columns, both included, in either order. -/
  | level (row first last : Int)
  | triangle (corners : Triangle)
  /-- A line of text with its top-left corner. -/
  | text (font : MonoFont) (corner : Point) (line : List Char)
  deriving Repr

/-- The runs of pixels of a shape in a row. -/
def Shape.runs : Shape → Int → List PixelRun
  | .block rect, row => rect.runs row
  | .outline rect, row => rect.outlineRuns row
  | .level own first last, row => if row = own then [⟨min first last, max first last⟩] else []
  | .triangle corners, row => corners.runs row
  | .text font corner line, row => font.runs corner line row

/-- The lines of a text. -/
def linesOf : List Char → List (List Char)
  | [] => [[]]
  | '\n' :: rest => [] :: linesOf rest
  | character :: rest =>
    match linesOf rest with
    | [] => [[character]]
    | line :: lines => (character :: line) :: lines

/-- A line without a carriage return at its end, which takes room but is not drawn. -/
def drawnPart (line : List Char) : List Char :=
  if line.getLast? = some '\r' then line.dropLast else line

/-- The lines of a text, each centred on a column, the first also on a row. -/
def MonoFont.centred (font : MonoFont) (anchor : Point) (content : String) : List Shape :=
  (linesOf content.toList).zipIdx.map fun (line, index) =>
    let width : Int := max ((line.length * font.advance : Nat) - (font.spacing : Int)) 0
    let corner : Point :=
      ⟨anchor.x - (width - 1).tdiv 2,
        anchor.y + (index * font.height : Nat) - ((font.height - 1) / 2 : Nat)⟩
    .text font corner (drawnPart line)

end TabDeck
