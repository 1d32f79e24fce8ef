import Mathlib.Algebra.Order.Floor.Semiring
import Mathlib.Analysis.Real.Sqrt
import Mathlib.Tactic.Positivity
import TabDeck.Proofs.TouchSearch

/-!
# How far a touch misses

How far a finger is from a tab is measured along a straight line and rounded to whole pixels, a half
up. That is computed without fractions. Counting up from zero leads to the whole part of the root
(`countsTo_iff`), and the root is rounded up if the square of the distance is above
`root * root + root`. This is exact for every distance, since the square of `root + 1 / 2` is only a
quarter above that.

The search for the nearest tab therefore finds the first of the tabs at the least distance, although
it measures none that is certainly further away than the best one so far
(`Rect.nearest_touch_is_exact`).
-/

namespace TabDeck

/-! ## Roots -/

/-- Counting a root up while the square of the next one is not above the value comes to an end, after
some number of turns, with a last root. -/
inductive CountsTo (value : Nat) : Nat → Nat → Prop where
  | stop {root : Nat} (above : value < (root + 1) * (root + 1)) : CountsTo value root root
  | turn {root last : Nat} (fits : (root + 1) * (root + 1) ≤ value)
      (further : CountsTo value (root + 1) last) : CountsTo value root last

/-- Counting ends, however far it has to go. -/
theorem countsTo_sqrt {value root : Nat} (low : root ≤ Nat.sqrt value) :
    CountsTo value root (Nat.sqrt value) := by
  obtain ⟨left, reached⟩ := Nat.exists_eq_add_of_le low
  induction left generalizing root with
  | zero =>
    rw [reached, Nat.add_zero]
    apply CountsTo.stop
    rw [← Nat.sqrt_lt]
    omega
  | succ left ih =>
    have next : root + 1 ≤ Nat.sqrt value := by omega
    exact .turn (Nat.le_sqrt.mp next) (ih next (by omega))

/-- Counting ends nowhere but at the whole part of the root. -/
theorem CountsTo.eq_sqrt {value root last : Nat} (counts : CountsTo value root last)
    (low : root ≤ Nat.sqrt value) : last = Nat.sqrt value := by
  induction counts with
  | stop above =>
    have high := Nat.sqrt_lt.mpr above
    omega
  | turn fits _ ih => exact ih (Nat.le_sqrt.mpr fits)

theorem countsTo_iff {value last : Nat} : CountsTo value 0 last ↔ last = squareRoot value := by
  rw [squareRoot_eq_sqrt]
  constructor
  · intro counts
    exact counts.eq_sqrt (Nat.zero_le _)
  · rintro rfl
    exact countsTo_sqrt (Nat.zero_le _)

theorem roundedRoot_le (value : Nat) : roundedRoot value ≤ Nat.sqrt value + 1 := by
  simp only [roundedRoot, squareRoot_eq_sqrt]
  split <;> omega

/-- A root is rounded up exactly if it is at least a half above its whole part. -/
theorem half_le_sqrt_iff {value root : Nat} :
    (root : ℝ) + 1 / 2 ≤ √(value : ℝ) ↔ root * root + root < value := by
  have square : ((root : ℝ) + 1 / 2) ^ 2 = ((root * root + root : ℕ) : ℝ) + 1 / 4 := by
    push_cast
    ring
  rw [Real.le_sqrt' (by positivity), square]
  constructor
  · intro above
    have strict : ((root * root + root : ℕ) : ℝ) < value := by linarith
    exact_mod_cast strict
  · intro above
    have step : ((root * root + root + 1 : ℕ) : ℝ) ≤ value := by exact_mod_cast above
    push_cast at step ⊢
    linarith

/-- Rounding the whole part of the root up or not gives the root rounded to the nearest number. -/
theorem roundedRoot_eq_floor (value : Nat) : roundedRoot value = ⌊√(value : ℝ) + 1 / 2⌋₊ := by
  have lower : ((Nat.sqrt value : ℕ) : ℝ) ≤ √(value : ℝ) := Real.nat_sqrt_le_real_sqrt
  have upper : √(value : ℝ) < (Nat.sqrt value : ℕ) + 1 := Real.real_sqrt_lt_nat_sqrt_succ
  have positive : 0 ≤ √(value : ℝ) + 1 / 2 := by positivity
  rw [eq_comm, Nat.floor_eq_iff positive, roundedRoot, squareRoot_eq_sqrt]
  split
  · next above =>
    have half := half_le_sqrt_iff.mpr above
    push_cast
    constructor <;> linarith
  · next notAbove =>
    have half : √(value : ℝ) < (Nat.sqrt value : ℕ) + 1 / 2 :=
      lt_of_not_ge fun half => notAbove (half_le_sqrt_iff.mp half)
    constructor <;> linarith

namespace Rect

/-! ## Distances -/

/-- The distance along a straight line that crosses the gaps between a point and a rectangle. -/
noncomputable def trueDistance (rect : Rect) (point : Point) : ℝ :=
  √((rect.columnGap point : ℝ) ^ 2 + (rect.rowGap point : ℝ) ^ 2)

/-- The distance in whole pixels, a half rounded up. -/
noncomputable def pixelsAway (rect : Rect) (point : Point) : ℕ :=
  ⌊rect.trueDistance point + 1 / 2⌋₊

theorem distance_eq_pixelsAway (rect : Rect) (point : Point) :
    rect.distance point = rect.pixelsAway point := by
  have squares : ((rect.squaredDistance point : ℕ) : ℝ) =
      (rect.columnGap point : ℝ) ^ 2 + (rect.rowGap point : ℝ) ^ 2 := by
    rw [squaredDistance]
    push_cast
    ring
  rw [distance, roundedRoot_eq_floor, squares, pixelsAway, trueDistance]

/-- The distance is told whenever it is within the limit, and nothing else is ever told. Counting ends
with the root from which it is rounded. -/
structure MeasuredExactly (rect : Rect) (point : Point) (limit : Nat) : Prop where
  told : rect.pixelsAway point ≤ limit →
    rect.distanceWithin point limit = some (rect.pixelsAway point)
  only : ∀ found, rect.distanceWithin point limit = some found → found = rect.pixelsAway point
  ends : ∀ root, CountsTo (rect.squaredDistance point) 0 root ↔
    root = squareRoot (rect.squaredDistance point)

theorem measuredExactly (rect : Rect) (point : Point) (limit : Nat) :
    rect.MeasuredExactly point limit := by
  refine ⟨?_, ?_, fun root => countsTo_iff⟩
  · rw [← distance_eq_pixelsAway]
    exact distanceWithin_of_le
  · rw [← distance_eq_pixelsAway]
    exact fun found => eq_of_distanceWithin

/-! ## Distances in words -/

/-- The gaps between a point and a rectangle are signed words, as their coordinates are. -/
structure GapsInWords (rect : Rect) (point : Point) : Prop where
  columns : (rect.columnGap point : Int) ≤ Word.maxSigned
  rows : (rect.rowGap point : Int) ≤ Word.maxSigned

/-- A double word has room for every number on the way to a distance, and a word for the distance. -/
structure ComputedInWords (rect : Rect) (point : Point) (limit : Nat) : Prop where
  squared : rect.squaredDistance point < Word.modulus * Word.modulus
  allowed : (limit + 1) * (limit + 1) < Word.modulus * Word.modulus
  counted : ∀ root, CountsTo (rect.squaredDistance point) 0 root →
    (root + 1) * (root + 1) < Word.modulus * Word.modulus
  told : rect.pixelsAway point < Word.modulus

theorem GapsInWords.computedInWords {rect : Rect} {point : Point} (inWords : rect.GapsInWords point)
    {limit : Nat} (limited : limit + 1 < Word.modulus) : rect.ComputedInWords point limit := by
  have columns : rect.columnGap point ≤ 2147483647 := Int.ofNat_le.mp inWords.columns
  have rows : rect.rowGap point ≤ 2147483647 := Int.ofNat_le.mp inWords.rows
  have squared : rect.squaredDistance point ≤ 2 * (2147483647 * 2147483647) := by
    have width := Nat.mul_self_le_mul_self columns
    have height := Nat.mul_self_le_mul_self rows
    rw [squaredDistance]
    omega
  have root : Nat.sqrt (rect.squaredDistance point) + 1 < Word.modulus := by
    rw [← Nat.lt_sub_iff_add_lt, Nat.sqrt_lt]
    exact Nat.lt_of_le_of_lt squared (by decide)
  refine ⟨Nat.lt_of_le_of_lt squared (by decide), ?_, ?_, ?_⟩
  · exact Nat.mul_self_lt_mul_self limited
  · intro last counts
    rw [counts.eq_sqrt (Nat.zero_le _)]
    exact Nat.mul_self_lt_mul_self root
  · rw [← distance_eq_pixelsAway, distance]
    exact Nat.lt_of_le_of_lt (roundedRoot_le _) root

/-- The search for the nearest rectangle finds the first of those at the least distance, if that is
within the tolerance, and nothing exactly if none is within it. Distances are Euclidean and rounded
to whole pixels, and what is told of them is exact under every limit. With gaps that are signed
words and a tolerance below the largest word, words have room for all numbers on the way. -/
theorem nearest_touch_is_exact (point : Point) (tolerance : Nat) (rects : List Rect) :
    (∀ rect : Rect, ∀ limit, rect.MeasuredExactly point limit) ∧
    (∀ index, nearestWithin point tolerance rects = some index ↔
      ∃ rect, IsNearest (fun rect => rect.pixelsAway point) tolerance rects index rect) ∧
    (nearestWithin point tolerance rects = none ↔
      ∀ rect ∈ rects, tolerance < rect.pixelsAway point) ∧
    (tolerance + 1 < Word.modulus → ∀ rect ∈ rects, rect.GapsInWords point →
      ∀ limit ≤ tolerance, rect.ComputedInWords point limit) := by
  have measures : (fun rect : Rect => rect.distance point) = fun rect => rect.pixelsAway point :=
    funext fun rect => distance_eq_pixelsAway rect point
  refine ⟨fun rect limit => measuredExactly rect point limit, ?_, ?_, ?_⟩
  · intro index
    rw [nearestWithin_eq_some_iff, measures]
  · simp only [nearestWithin_eq_none_iff, distance_eq_pixelsAway]
  · intro limited rect _ inWords limit within
    exact inWords.computedInWords (by omega)

/-- Two rectangles are four pixels away from a finger, the first one only after rounding. Of the two
the first is nearest, and a third one is passed over. -/
theorem first_of_two_rounded_rects_found :
    ∃ point : Point, ∃ first second third : Rect,
      first.squaredDistance point = 4 * 4 + 4 ∧ second.squaredDistance point = 4 * 4 ∧
      third.distanceWithin point 5 = none ∧
      first.pixelsAway point = 4 ∧ second.pixelsAway point = 4 ∧
      nearestWithin point 5 [first, second, third] = some 0 ∧
      IsNearest (fun rect => rect.pixelsAway point) 5 [first, second, third] 0 first ∧
      first.GapsInWords point ∧ first.ComputedInWords point 5 := by
  let first : Rect := ⟨⟨0, 0⟩, ⟨6, 28⟩⟩
  let second : Rect := ⟨⟨5, 0⟩, ⟨20, 26⟩⟩
  let third : Rect := ⟨⟨100, 0⟩, ⟨20, 26⟩⟩
  rcases nearest_touch_is_exact ⟨10, 30⟩ 5 [first, second, third] with
    ⟨measured, found, -, inWords⟩
  have gaps : first.GapsInWords ⟨10, 30⟩ := ⟨by decide, by decide⟩
  have nearest : nearestWithin ⟨10, 30⟩ 5 [first, second, third] = some 0 := by decide +kernel
  rcases (found 0).mp nearest with ⟨rect, isNearest⟩
  obtain rfl : first = rect := Option.some.inj isNearest.present
  have away : first.pixelsAway ⟨10, 30⟩ = 4 := ((measured first 5).only 4 (by decide +kernel)).symm
  have alsoAway : second.pixelsAway ⟨10, 30⟩ = 4 :=
    ((measured second 5).only 4 (by decide +kernel)).symm
  have counted := inWords (by decide) first List.mem_cons_self gaps 5 (Nat.le_refl 5)
  exact ⟨⟨10, 30⟩, first, second, third, by decide, by decide, by decide, away, alsoAway, nearest,
    isNearest, gaps, counted⟩

end Rect

end TabDeck
