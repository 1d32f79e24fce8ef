import TabDeck.Word

/-!
# Points, sizes and rectangles

Coordinates grow to the right and downwards. A rectangle covers the columns from its origin up to,
and without, `origin.x + width`, and the rows likewise. `Rect.right` and `Rect.bottom` are those
first coordinates past the rectangle, computed in words.
-/

namespace TabDeck

/-- A position on the display, or a displacement between two of them. -/
structure Point where
  x : Int
  y : Int
  deriving DecidableEq, Repr, Inhabited

namespace Point

/-- The top-left corner of the display. -/
def zero : Point := ⟨0, 0⟩

instance : Add Point := ⟨fun first second => ⟨first.x + second.x, first.y + second.y⟩⟩

instance : Sub Point := ⟨fun first second => ⟨first.x - second.x, first.y - second.y⟩⟩

@[simp] theorem add_x (first second : Point) : (first + second).x = first.x + second.x := rfl

@[simp] theorem add_y (first second : Point) : (first + second).y = first.y + second.y := rfl

@[simp] theorem sub_x (first second : Point) : (first - second).x = first.x - second.x := rfl

@[simp] theorem sub_y (first second : Point) : (first - second).y = first.y - second.y := rfl

theorem add_comm (first second : Point) : first + second = second + first := by
  show Point.mk (first.x + second.x) (first.y + second.y) =
    Point.mk (second.x + first.x) (second.y + first.y)
  rw [Int.add_comm first.x, Int.add_comm first.y]

theorem add_left_cancel {first second third : Point} (same : first + second = first + third) :
    second = third := by
  have columns : first.x + second.x = first.x + third.x := congrArg Point.x same
  have rows : first.y + second.y = first.y + third.y := congrArg Point.y same
  cases second
  cases third
  rw [Point.mk.injEq]
  exact ⟨Int.add_left_cancel columns, Int.add_left_cancel rows⟩

end Point

/-- The extent of something on the display. -/
structure Size where
  width : Nat
  height : Nat
  deriving DecidableEq, Repr, Inhabited

/-- An upright rectangle of pixels. -/
structure Rect where
  /-- The top-left pixel. -/
  origin : Point
  /-- The extent; either side may be zero. -/
  size : Size
  deriving DecidableEq, Repr, Inhabited

namespace Rect

/-- The empty rectangle in the corner of the display. -/
def zero : Rect := ⟨⟨0, 0⟩, ⟨0, 0⟩⟩

/-- The first column past the rectangle. -/
def right (rect : Rect) : Int := rect.origin.x + Word.signed rect.size.width

/-- The first row past the rectangle. -/
def bottom (rect : Rect) : Int := rect.origin.y + Word.signed rect.size.height

/-- A rectangle moved by a displacement. -/
def shiftBy (rect : Rect) (offset : Point) : Rect := ⟨rect.origin + offset, rect.size⟩

/-- A pixel lies in a rectangle when its column and its row do. -/
def Contains (rect : Rect) (point : Point) : Prop :=
  rect.origin.x ≤ point.x ∧ point.x < rect.origin.x + rect.size.width ∧
    rect.origin.y ≤ point.y ∧ point.y < rect.origin.y + rect.size.height

instance (rect : Rect) (point : Point) : Decidable (rect.Contains point) :=
  inferInstanceAs (Decidable (_ ∧ _))

/-- The middle pixel; of two middle pixels the upper or left one. -/
def centre (rect : Rect) : Point :=
  ⟨rect.origin.x + ((rect.size.width - 1) / 2 : Nat),
    rect.origin.y + ((rect.size.height - 1) / 2 : Nat)⟩

/-- The smallest rectangle whose edges enclose the edges of both. -/
def hull (first second : Rect) : Rect :=
  let left := min first.origin.x second.origin.x
  let top := min first.origin.y second.origin.y
  let right := max first.right second.right
  let bottom := max first.bottom second.bottom
  ⟨⟨left, top⟩, ⟨Word.unsigned (right - left), Word.unsigned (bottom - top)⟩⟩

@[simp] theorem shiftBy_origin (rect : Rect) (offset : Point) :
    (rect.shiftBy offset).origin = rect.origin + offset := rfl

@[simp] theorem shiftBy_size (rect : Rect) (offset : Point) :
    (rect.shiftBy offset).size = rect.size := rfl

@[simp] theorem shiftBy_zero (rect : Rect) : rect.shiftBy ⟨0, 0⟩ = rect := by
  show Rect.mk ⟨rect.origin.x + 0, rect.origin.y + 0⟩ rect.size = rect
  rw [Int.add_zero, Int.add_zero]

theorem contains_shiftBy {rect : Rect} {offset point : Point} :
    (rect.shiftBy offset).Contains point ↔ rect.Contains (point - offset) := by
  simp only [Contains, shiftBy_origin, shiftBy_size, Point.add_x, Point.add_y, Point.sub_x,
    Point.sub_y]
  omega

theorem shiftBy_cancel {first second : Rect} {offset : Point}
    (same : first.shiftBy offset = second.shiftBy offset) : first = second := by
  rcases first with ⟨origin, size⟩
  rcases second with ⟨otherOrigin, otherSize⟩
  simp only [shiftBy, Rect.mk.injEq, Point.add_comm _ offset] at same
  rw [Rect.mk.injEq]
  exact ⟨Point.add_left_cancel same.1, same.2⟩

end Rect

/-- The hull of the regions that are there. -/
def joinRegions : Option Rect → Option Rect → Option Rect
  | some first, some second => some (first.hull second)
  | first, none => first
  | none, second => second

@[simp] theorem joinRegions_none_left (region : Option Rect) : joinRegions none region = region := by
  cases region <;> rfl

theorem joinRegions_eq_none {first second : Option Rect} :
    joinRegions first second = none ↔ first = none ∧ second = none := by
  cases first <;> cases second <;> simp [joinRegions]

end TabDeck
