import Mathlib.Data.Nat.Sqrt
import Mathlib.Tactic.Linarith
import TabDeck.Touching

/-!
# What a touch finds

The search for the nearest rectangle passes over those that are certainly further away than the best
one so far. Nothing is lost by that (`Rect.searchNearest_cons`): it finds the first of the
rectangles at the least distance, if that is within the tolerance.

The two searches of `TabDeck.Touching` agree on what lies under a finger only up to the edges of the
rectangles. Containing a point excludes the first column and the first row past a rectangle, and
being at no distance from it includes them (`Rect.Touches`). The search from the right finds the
last rectangle that contains the point, and the search for the nearest one the first that the point
touches, whatever the tolerance.
-/

namespace TabDeck

/-! ## Distances -/

/-- Built from the root of a quarter of the number, the root is the integer square root. -/
theorem squareRoot_eq_sqrt (value : Nat) : squareRoot value = Nat.sqrt value := by
  induction value using Nat.strong_induction_on with
  | _ value ih =>
    rcases Nat.eq_zero_or_pos value with rfl | positive
    · simp [squareRoot]
    · have lower := Nat.sqrt_le (value / 4)
      have upper := Nat.lt_succ_sqrt (value / 4)
      rw [squareRoot, if_neg (by omega), ih (value / 4) (by omega)]
      generalize Nat.sqrt (value / 4) = quarter at lower upper
      have below : 4 * (quarter * quarter) ≤ value := by omega
      have above : value < 4 * (quarter.succ * quarter.succ) := by omega
      dsimp only
      split
      · next fits =>
        exact Nat.eq_sqrt.mpr ⟨fits, by nlinarith⟩
      · next tooLarge =>
        exact Nat.eq_sqrt.mpr ⟨by nlinarith, Nat.lt_of_not_le tooLarge⟩

/-- Rounding never goes below the whole part of the root. -/
theorem sqrt_le_roundedRoot (value : Nat) : Nat.sqrt value ≤ roundedRoot value := by
  simp only [roundedRoot, squareRoot_eq_sqrt]
  split <;> omega

/-- Only zero is rounded to the root zero. -/
theorem roundedRoot_eq_zero {value : Nat} : roundedRoot value = 0 ↔ value = 0 := by
  rcases Nat.eq_zero_or_pos value with rfl | positive
  · simp [roundedRoot, squareRoot]
  · have root := Nat.sqrt_pos.mpr positive
    have rounded := sqrt_le_roundedRoot value
    omega

namespace Rect

variable {rect : Rect} {rects : List Rect} {point : Point} {index : Nat}

/-- The point lies in the rectangle, or in the first column or row past it. -/
def Touches (rect : Rect) (point : Point) : Prop :=
  rect.origin.x ≤ point.x ∧ point.x ≤ rect.origin.x + rect.size.width ∧
    rect.origin.y ≤ point.y ∧ point.y ≤ rect.origin.y + rect.size.height

instance (rect : Rect) (point : Point) : Decidable (rect.Touches point) :=
  inferInstanceAs (Decidable (_ ∧ _))

/-- The extent of a rectangle can be added to coordinates. -/
def InWords (rect : Rect) : Prop :=
  (rect.size.width : Int) ≤ Word.maxSigned ∧ (rect.size.height : Int) ≤ Word.maxSigned

theorem Contains.touches (contains : rect.Contains point) : rect.Touches point := by
  simp only [Contains, Touches] at contains ⊢
  omega

theorem touches_shiftBy {offset : Point} :
    (rect.shiftBy offset).Touches point ↔ rect.Touches (point - offset) := by
  simp only [Touches, shiftBy_origin, shiftBy_size, Point.add_x, Point.add_y, Point.sub_x,
    Point.sub_y]
  omega

/-- A point is at no distance exactly from what it touches. -/
theorem distance_eq_zero (inWords : rect.InWords) :
    rect.distance point = 0 ↔ rect.Touches point := by
  have right : rect.right = rect.origin.x + rect.size.width := by
    rw [right, Word.signed_ofNat inWords.1]
  have bottom : rect.bottom = rect.origin.y + rect.size.height := by
    rw [bottom, Word.signed_ofNat inWords.2]
  have gaps : rect.squaredDistance point = 0 ↔
      rect.columnGap point = 0 ∧ rect.rowGap point = 0 := by
    simp only [squaredDistance, Nat.add_eq_zero_iff, Nat.mul_eq_zero, or_self]
  rw [distance, roundedRoot_eq_zero, gaps]
  simp only [columnGap, rowGap, Touches, right, bottom]
  omega

/-! ## The search from the right -/

theorem lastContaining_eq_none :
    lastContaining point rects = none ↔ ∀ rect ∈ rects, ¬ rect.Contains point := by
  induction rects with
  | nil => simp [lastContaining]
  | cons first rest ih =>
    rw [List.forall_mem_cons, ← ih, lastContaining]
    cases lastContaining point rest <;> simp

/-- The search from the right finds the last rectangle that contains the point. -/
theorem lastContaining_eq_some (present : rects[index]? = some rect)
    (contains : rect.Contains point)
    (isLast : ∀ later other, index < later → rects[later]? = some other → ¬ other.Contains point) :
    lastContaining point rects = some index := by
  induction rects generalizing index with
  | nil => simp at present
  | cons first rest ih =>
    cases index with
    | zero =>
      simp only [List.getElem?_cons_zero, Option.some.injEq] at present
      subst present
      have apart : ∀ other ∈ rest, ¬ other.Contains point := by
        intro other member
        rcases List.getElem?_of_mem member with ⟨later, isOther⟩
        exact isLast (later + 1) other (Nat.succ_pos later) (by simpa using isOther)
      simp [lastContaining, lastContaining_eq_none.mpr apart, contains]
    | succ index =>
      simp only [List.getElem?_cons_succ] at present
      have found := ih present fun later other after isOther =>
        isLast (later + 1) other (Nat.succ_lt_succ after) (by simpa using isOther)
      simp [lastContaining, found]

/-! ## The search for the nearest rectangle -/

/-- What is not further away than a limit is never passed over. -/
theorem distanceWithin_of_le {limit : Nat} (within : rect.distance point ≤ limit) :
    rect.distanceWithin point limit = some (rect.distance point) := by
  have root : Nat.sqrt (rect.squaredDistance point) < limit + 1 :=
    Nat.lt_succ_of_le (Nat.le_trans (sqrt_le_roundedRoot _) within)
  rw [distanceWithin, if_neg (Nat.not_lt_of_lt (Nat.sqrt_lt.mp root))]

/-- The limit decides whether there is an answer, and not what it is. -/
theorem eq_of_distanceWithin {limit found : Nat}
    (measured : rect.distanceWithin point limit = some found) : found = rect.distance point := by
  simp only [distanceWithin] at measured
  split at measured
  · cases measured
  · cases measured
    rfl

/-- The search goes on as if no rectangle was passed over. -/
theorem searchNearest_cons (point : Point) (tolerance : Nat) (rect : Rect) (rest : List Rect) :
    searchNearest point tolerance (rect :: rest) =
      if rect.distance point ≤ (searchNearest point tolerance rest).1 then
        (rect.distance point, some 0)
      else
        ((searchNearest point tolerance rest).1,
          (searchNearest point tolerance rest).2.map (· + 1)) := by
  simp only [searchNearest]
  by_cases within : rect.distance point ≤ (searchNearest point tolerance rest).1
  · rw [distanceWithin_of_le within, if_pos within]
    simp only [if_pos within]
  · rw [if_neg within]
    split
    · next found measured =>
      rw [eq_of_distanceWithin measured, if_neg within]
    · rfl

/-- A rectangle is nearest by some measure when it is within the tolerance, none is nearer, and all
before it are further away. -/
structure IsNearest (away : Rect → Nat) (tolerance : Nat) (rects : List Rect) (index : Nat)
    (rect : Rect) : Prop where
  present : rects[index]? = some rect
  within : away rect ≤ tolerance
  least : ∀ other ∈ rects, away rect ≤ away other
  first : ∀ earlier other, earlier < index → rects[earlier]? = some other → away rect < away other

/-- What the search knows of the rectangles it has seen: the least distance within the tolerance,
and the first rectangle at that distance. -/
def BestOf (away : Rect → Nat) (tolerance : Nat) (rects : List Rect) : Nat × Option Nat → Prop
  | (limit, none) => limit = tolerance ∧ ∀ rect ∈ rects, tolerance < away rect
  | (limit, some index) => ∃ rect, IsNearest away tolerance rects index rect ∧ limit = away rect

/-- Whatever the search knows, its limit is at most the tolerance. -/
theorem BestOf.limit_le {away : Rect → Nat} {tolerance : Nat} {best : Nat × Option Nat}
    (known : BestOf away tolerance rects best) : best.1 ≤ tolerance := by
  rcases best with ⟨limit, _ | index⟩
  · exact Nat.le_of_eq known.1
  · rcases known with ⟨nearest, isNearest, rfl⟩
    exact isNearest.within

/-- A rectangle within the limit is nearer than all that the search has seen, or as near. -/
theorem BestOf.isNearest_cons {away : Rect → Nat} {tolerance : Nat} {best : Nat × Option Nat}
    (known : BestOf away tolerance rects best) (within : away rect ≤ best.1) :
    IsNearest away tolerance (rect :: rects) 0 rect := by
  refine ⟨rfl, Nat.le_trans within known.limit_le, ?_, fun earlier other before => by omega⟩
  rw [List.forall_mem_cons]
  refine ⟨Nat.le_refl _, fun other member => ?_⟩
  rcases best with ⟨limit, _ | index⟩
  · rcases known with ⟨rfl, far⟩
    exact Nat.le_trans within (Nat.le_of_lt (far other member))
  · rcases known with ⟨nearest, isNearest, rfl⟩
    exact Nat.le_trans within (isNearest.least other member)

/-- A rectangle beyond the limit changes nothing but the places of the others. -/
theorem BestOf.cons {away : Rect → Nat} {tolerance : Nat} {best : Nat × Option Nat}
    (known : BestOf away tolerance rects best) (beyond : best.1 < away rect) :
    BestOf away tolerance (rect :: rects) (best.1, best.2.map (· + 1)) := by
  rcases best with ⟨limit, _ | index⟩
  · rcases known with ⟨rfl, far⟩
    exact ⟨rfl, List.forall_mem_cons.mpr ⟨beyond, far⟩⟩
  · rcases known with ⟨nearest, isNearest, rfl⟩
    refine ⟨nearest, ⟨isNearest.present, isNearest.within, ?_, ?_⟩, rfl⟩
    · exact List.forall_mem_cons.mpr ⟨Nat.le_of_lt beyond, isNearest.least⟩
    · intro earlier other before isOther
      cases earlier with
      | zero =>
        cases isOther
        exact beyond
      | succ earlier => exact isNearest.first earlier other (Nat.lt_of_succ_lt_succ before) isOther

/-- The search comes from the right, so that of equally near rectangles the first one stays. -/
theorem searchNearest_bestOf (point : Point) (tolerance : Nat) (rects : List Rect) :
    BestOf (fun rect => rect.distance point) tolerance rects
      (searchNearest point tolerance rects) := by
  induction rects with
  | nil => exact ⟨rfl, nofun⟩
  | cons rect rest ih =>
    rw [searchNearest_cons]
    split
    · next within => exact ⟨rect, ih.isNearest_cons within, rfl⟩
    · next beyond => exact ih.cons (Nat.lt_of_not_le beyond)

/-- There is only one nearest rectangle. -/
theorem IsNearest.unique {away : Rect → Nat} {tolerance first second : Nat} {other : Rect}
    (isFirst : IsNearest away tolerance rects first rect)
    (isSecond : IsNearest away tolerance rects second other) : first = second := by
  rcases Nat.lt_trichotomy first second with before | same | after
  · have := isSecond.first first rect before isFirst.present
    have := isFirst.least other (List.mem_of_getElem? isSecond.present)
    omega
  · exact same
  · have := isFirst.first second other after isSecond.present
    have := isSecond.least rect (List.mem_of_getElem? isFirst.present)
    omega

/-- The search finds the first of the nearest rectangles. -/
theorem nearestWithin_eq_some_iff {tolerance : Nat} :
    nearestWithin point tolerance rects = some index ↔
      ∃ rect, IsNearest (fun rect => rect.distance point) tolerance rects index rect := by
  have known := searchNearest_bestOf point tolerance rects
  rw [nearestWithin]
  generalize searchNearest point tolerance rects = best at known
  rcases best with ⟨limit, _ | found⟩
  · refine ⟨nofun, ?_⟩
    rintro ⟨rect, isNearest⟩
    have far := known.2 rect (List.mem_of_getElem? isNearest.present)
    exact absurd isNearest.within (Nat.not_le_of_lt far)
  · rcases known with ⟨nearest, isNearest, -⟩
    constructor
    · intro same
      cases same
      exact ⟨nearest, isNearest⟩
    · rintro ⟨rect, alsoNearest⟩
      exact congrArg some (isNearest.unique alsoNearest)

/-- The search finds nothing exactly if every rectangle is beyond the tolerance. -/
theorem nearestWithin_eq_none_iff {tolerance : Nat} :
    nearestWithin point tolerance rects = none ↔
      ∀ rect ∈ rects, tolerance < rect.distance point := by
  have known := searchNearest_bestOf point tolerance rects
  rw [nearestWithin]
  generalize searchNearest point tolerance rects = best at known
  rcases best with ⟨limit, _ | found⟩
  · exact ⟨fun _ => known.2, fun _ => rfl⟩
  · rcases known with ⟨nearest, isNearest, -⟩
    refine ⟨nofun, fun far => ?_⟩
    have beyond := far nearest (List.mem_of_getElem? isNearest.present)
    exact absurd isNearest.within (Nat.not_le_of_lt beyond)

/-- Of the rectangles that a point touches the search for the nearest one finds the first. -/
theorem nearestWithin_eq_some (tolerance : Nat) (inWords : ∀ rect ∈ rects, rect.InWords)
    (present : rects[index]? = some rect) (touches : rect.Touches point)
    (isFirst : ∀ earlier other, earlier < index → rects[earlier]? = some other →
      ¬ other.Touches point) :
    nearestWithin point tolerance rects = some index := by
  have near := (distance_eq_zero (inWords rect (List.mem_of_getElem? present))).mpr touches
  refine nearestWithin_eq_some_iff.mpr ⟨rect, present, ?_, ?_, ?_⟩
  · exact near ▸ Nat.zero_le tolerance
  · intro other _
    exact near ▸ Nat.zero_le (other.distance point)
  · intro earlier other before isOther
    have apart := isFirst earlier other before isOther
    rw [← distance_eq_zero (inWords other (List.mem_of_getElem? isOther))] at apart
    exact near ▸ Nat.pos_of_ne_zero apart

end Rect

end TabDeck
