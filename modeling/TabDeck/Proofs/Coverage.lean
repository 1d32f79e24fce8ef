import Mathlib.Data.List.Permutation
import Mathlib.Tactic.LinearCombination
import Mathlib.Tactic.Ring
import TabDeck.Proofs.Pixels

/-!
# What shapes cover

A block covers its rectangle. The other shapes keep to a rectangle if a few points of them do: an
outline to its own, a level line to one that holds both ends, and a triangle to one that holds its
corners, all of which it covers (`Triangle.keepsTo_iff`).
-/

namespace TabDeck

/-- The columns and the rows of one rectangle are columns and rows of another. -/
def Rect.Inside (inner outer : Rect) : Prop :=
  (outer.origin.x ≤ inner.origin.x ∧
      inner.origin.x + inner.size.width ≤ outer.origin.x + outer.size.width) ∧
    outer.origin.y ≤ inner.origin.y ∧
      inner.origin.y + inner.size.height ≤ outer.origin.y + outer.size.height

instance (inner outer : Rect) : Decidable (inner.Inside outer) :=
  inferInstanceAs (Decidable ((_ ∧ _) ∧ _ ∧ _))

/-- All that the shape covers lies in a rectangle. -/
def Shape.KeepsTo (shape : Shape) (rect : Rect) : Prop :=
  ∀ point, shape.Covers point → rect.Contains point

/-! ## Blocks, outlines and level lines -/

namespace Shape

variable {rect : Rect} {point : Point}

theorem covers_block : (block rect).Covers point ↔ rect.Contains point := by
  simp only [Covers, runs, Rect.runs, Rect.Contains]
  split
  · simp only [List.mem_singleton, exists_eq_left]
    omega
  · simp only [List.not_mem_nil, false_and, exists_false, false_iff]
    omega

theorem contains_of_covers_outline (covers : (outline rect).Covers point) :
    rect.Contains point := by
  rcases covers with ⟨run, isRun, inRun⟩
  apply covers_block.mp
  simp only [runs, Rect.outlineRuns] at isRun
  split at isRun
  · exact ⟨run, isRun, inRun⟩
  · rcases List.mem_flatMap.mp isRun with ⟨whole, isWhole, isEnd⟩
    refine ⟨whole, isWhole, ?_⟩
    simp only [Rect.runs] at isWhole
    split at isWhole
    · next inRect =>
      rw [List.mem_singleton] at isWhole
      simp only [List.mem_cons, List.not_mem_nil, or_false] at isEnd
      rcases isEnd with rfl | rfl
      · simp only [PixelRun.single, isWhole] at inRun ⊢
        omega
      · simp only [PixelRun.single, isWhole] at inRun ⊢
        omega
    · cases isWhole

/-- The two corners of an outline that decide where it is. -/
theorem covers_outline_corners (wide : 0 < rect.size.width) (high : 0 < rect.size.height) :
    (outline rect).Covers rect.origin ∧ (outline rect).Covers
      ⟨rect.origin.x + rect.size.width - 1, rect.origin.y + rect.size.height - 1⟩ := by
  constructor
  · refine ⟨⟨rect.origin.x, rect.origin.x + rect.size.width - 1⟩, ?_, by dsimp only; omega⟩
    have inRows : rect.origin.y ≤ rect.origin.y ∧
        rect.origin.y < rect.origin.y + rect.size.height ∧ 0 < rect.size.width := by omega
    simp [runs, Rect.outlineRuns, Rect.runs, inRows]
  · refine ⟨⟨rect.origin.x, rect.origin.x + rect.size.width - 1⟩, ?_, by dsimp only; omega⟩
    have inRows : rect.origin.y ≤ rect.origin.y + rect.size.height - 1 ∧
        rect.origin.y + rect.size.height - 1 < rect.origin.y + rect.size.height ∧
          0 < rect.size.width := by omega
    simp [runs, Rect.outlineRuns, Rect.runs, inRows]

/-- Without columns there is nothing to cover. -/
theorem keepsTo_of_narrow (narrow : rect.size.width = 0) (outer : Rect) :
    (block rect).KeepsTo outer ∧ (outline rect).KeepsTo outer := by
  have empty : ∀ point, ¬ rect.Contains point := by
    intro point contains
    simp only [Rect.Contains] at contains
    omega
  constructor
  · exact fun point covers => absurd (covers_block.mp covers) (empty point)
  · exact fun point covers => absurd (contains_of_covers_outline covers) (empty point)

theorem block_keepsTo_iff (wide : 0 < rect.size.width) (high : 0 < rect.size.height)
    (outer : Rect) : (block rect).KeepsTo outer ↔ rect.Inside outer := by
  simp only [KeepsTo, covers_block]
  constructor
  · intro keeps
    have first := keeps rect.origin (by simp only [Rect.Contains]; omega)
    have last := keeps
      ⟨rect.origin.x + rect.size.width - 1, rect.origin.y + rect.size.height - 1⟩
      (by simp only [Rect.Contains]; omega)
    simp only [Rect.Contains, Rect.Inside] at first last ⊢
    omega
  · intro inside point contains
    simp only [Rect.Contains, Rect.Inside] at contains inside ⊢
    omega

theorem outline_keepsTo_iff (wide : 0 < rect.size.width) (high : 0 < rect.size.height)
    (outer : Rect) : (outline rect).KeepsTo outer ↔ rect.Inside outer := by
  constructor
  · intro keeps
    rcases covers_outline_corners wide high with ⟨first, last⟩
    have topLeft := keeps _ first
    have bottomRight := keeps _ last
    simp only [Rect.Contains, Rect.Inside] at topLeft bottomRight ⊢
    omega
  · intro inside point covers
    exact (block_keepsTo_iff wide high outer).mpr inside point
      (covers_block.mpr (contains_of_covers_outline covers))

theorem covers_level {row first last : Int} : (level row first last).Covers point ↔
    point.y = row ∧ min first last ≤ point.x ∧ point.x ≤ max first last := by
  simp only [Covers, runs]
  split
  · next here => simp [here]
  · next elsewhere => simp [elsewhere]

theorem level_keepsTo_iff {row first last : Int} : (level row first last).KeepsTo rect ↔
    rect.Contains ⟨first, row⟩ ∧ rect.Contains ⟨last, row⟩ := by
  simp only [KeepsTo, covers_level]
  constructor
  · intro keeps
    exact ⟨keeps _ (by dsimp only; omega), keeps _ (by dsimp only; omega)⟩
  · rintro ⟨isFirst, isLast⟩ point ⟨here, between⟩
    simp only [Rect.Contains] at isFirst isLast ⊢
    omega

end Shape

/-! ## Lines -/

namespace Segment

theorem drift_le {major minor steps : Nat} (within : steps ≤ major) :
    drift major minor steps ≤ minor := by
  simp only [drift]
  rcases Nat.eq_zero_or_pos major with rfl | positive
  · simp
  · have reach := Nat.mul_le_mul_left (2 * minor) within
    have whole : (minor + 1) * (2 * major) = 2 * minor * major + 2 * major := by ring
    have below : (2 * minor * steps + major - 1) / (2 * major) < minor + 1 :=
      (Nat.div_lt_iff_lt_mul (by omega)).mpr (by omega)
    exact Nat.le_of_lt_succ below

/-- A line meets the points that lie on it exactly. -/
theorem drift_eq {major minor steps moved : Nat} (positive : 0 < major)
    (onLine : moved * major = minor * steps) : drift major minor steps = moved := by
  have twice : 2 * minor * steps = 2 * major * moved := by
    rw [Nat.mul_assoc, ← onLine]
    ring
  have rest : (major - 1) / (2 * major) = 0 := Nat.div_eq_of_lt (by omega)
  rw [drift, twice, Nat.add_sub_assoc positive, Nat.mul_add_div (by omega), rest, Nat.add_zero]

theorem direction_cases (difference : Int) :
    0 ≤ difference ∧ direction difference = 1 ∨ difference < 0 ∧ direction difference = -1 := by
  simp only [direction]
  split
  · next forward => exact Or.inl ⟨forward, rfl⟩
  · next backward => exact Or.inr ⟨Int.not_le.mp backward, rfl⟩

variable {segment : Segment} {row column : Int}

/-- A line does not lead beyond its ends. -/
theorem between_of_mem_columns (member : column ∈ segment.columns row) :
    (min segment.start.x segment.stop.x ≤ column ∧ column ≤ max segment.start.x segment.stop.x) ∧
      min segment.start.y segment.stop.y ≤ row ∧ row ≤ max segment.start.y segment.stop.y := by
  simp only [columns] at member
  split at member
  · simp at member
  · next inRows =>
    have moved : ∃ steps : Nat, steps ≤ (segment.stop.x - segment.start.x).natAbs ∧
        column = segment.start.x + direction (segment.stop.x - segment.start.x) * steps := by
      split at member
      · refine ⟨_, drift_le ?_, List.mem_singleton.mp member⟩
        omega
      · rcases List.mem_filterMap.mp member with ⟨steps, inReach, here⟩
        rw [List.mem_range] at inReach
        split at here
        · simp only [Option.some.injEq] at here
          exact ⟨steps, by omega, here.symm⟩
        · cases here
    rcases moved with ⟨steps, inReach, rfl⟩
    constructor
    · rcases direction_cases (segment.stop.x - segment.start.x) with ⟨_, forth⟩ | ⟨_, back⟩
      · rw [forth]
        omega
      · rw [back]
        omega
    · rcases direction_cases (segment.stop.y - segment.start.y) with ⟨_, down⟩ | ⟨_, up⟩
      · rw [down] at inRows
        omega
      · rw [up] at inRows
        omega

/-- A line passes through the points that lie on it exactly, some rows and some columns away from
where it begins. -/
theorem mem_columns {rows across : Nat} (inRows : rows ≤ (segment.stop.y - segment.start.y).natAbs)
    (inColumns : across ≤ (segment.stop.x - segment.start.x).natAbs)
    (onLine : across * (segment.stop.y - segment.start.y).natAbs =
      (segment.stop.x - segment.start.x).natAbs * rows)
    (isRow : row = segment.start.y + direction (segment.stop.y - segment.start.y) * rows)
    (isColumn : column = segment.start.x + direction (segment.stop.x - segment.start.x) * across) :
    column ∈ segment.columns row := by
  have down : (row - segment.start.y) * direction (segment.stop.y - segment.start.y) = rows := by
    rw [isRow]
    rcases direction_cases (segment.stop.y - segment.start.y) with ⟨_, sign⟩ | ⟨_, sign⟩
    · rw [sign]
      omega
    · rw [sign]
      omega
  simp only [columns, down]
  rw [if_neg (by omega)]
  split
  · next steep =>
    have exactly : drift (segment.stop.y - segment.start.y).natAbs
        (segment.stop.x - segment.start.x).natAbs rows = across := by
      rcases Nat.eq_zero_or_pos (segment.stop.y - segment.start.y).natAbs with level | positive
      · simp only [drift, level]
        omega
      · exact drift_eq positive onLine
    rw [Int.toNat_natCast, exactly, isColumn]
    exact List.mem_singleton_self _
  · next flat =>
    have exactly : drift (segment.stop.x - segment.start.x).natAbs
        (segment.stop.y - segment.start.y).natAbs across = rows :=
      drift_eq (by omega) (by rw [Nat.mul_comm rows, ← onLine, Nat.mul_comm])
    refine List.mem_filterMap.mpr ⟨across, List.mem_range.mpr (by omega), ?_⟩
    rw [exactly, if_pos rfl, isColumn]

theorem start_mem_columns (segment : Segment) : segment.start.x ∈ segment.columns segment.start.y :=
  mem_columns (Nat.zero_le _) (Nat.zero_le _) (by rw [Nat.zero_mul, Nat.mul_zero]) (by simp)
    (by simp)

theorem stop_mem_columns (segment : Segment) : segment.stop.x ∈ segment.columns segment.stop.y := by
  have whole : ∀ difference : Int, direction difference * difference.natAbs = difference := by
    intro difference
    rcases direction_cases difference with ⟨_, sign⟩ | ⟨_, sign⟩
    · rw [sign]
      omega
    · rw [sign]
      omega
  apply mem_columns (Nat.le_refl _) (Nat.le_refl _) rfl
  · rw [whole]
    omega
  · rw [whole]
    omega

/-- A line that leads down, or is level and leads to the right, passes through each point between
its ends with which it spans no area. -/
theorem between_mem_columns (segment : Segment) {point : Point}
    (sorted : segment.start.y < segment.stop.y ∧ segment.start.y ≤ point.y ∧
        point.y ≤ segment.stop.y ∨
      segment.start.y = segment.stop.y ∧ point.y = segment.start.y ∧
        segment.start.x ≤ point.x ∧ point.x ≤ segment.stop.x)
    (flat : (point.x - segment.start.x) * (segment.stop.y - segment.start.y) =
      (segment.stop.x - segment.start.x) * (point.y - segment.start.y)) :
    point.x ∈ segment.columns point.y := by
  rcases sorted with ⟨lower, below, above⟩ | ⟨level, here, after, before⟩
  · have downward : direction (segment.stop.y - segment.start.y) = 1 := if_pos (by omega)
    have areas : (point.x - segment.start.x).natAbs * (segment.stop.y - segment.start.y).natAbs =
        (segment.stop.x - segment.start.x).natAbs * (point.y - segment.start.y).natAbs := by
      rw [← Int.natAbs_mul, ← Int.natAbs_mul, flat]
    have inReach : (point.x - segment.start.x).natAbs ≤
        (segment.stop.x - segment.start.x).natAbs := by
      have high : 0 < (segment.stop.y - segment.start.y).natAbs := by omega
      apply Nat.le_of_mul_le_mul_right _ high
      rw [areas]
      exact Nat.mul_le_mul_left _ (by omega)
    apply mem_columns (show (point.y - segment.start.y).natAbs ≤ _ by omega) inReach areas
    · rw [downward]
      omega
    · rcases direction_cases (segment.stop.x - segment.start.x) with ⟨forth, sign⟩ | ⟨back, sign⟩
      · have ahead : 0 ≤ point.x - segment.start.x := by
          refine Int.not_lt.mp fun behind => ?_
          have negative := Int.mul_neg_of_neg_of_pos behind
            (show 0 < segment.stop.y - segment.start.y by omega)
          have positive := Int.mul_nonneg forth (show 0 ≤ point.y - segment.start.y by omega)
          omega
        rw [sign]
        omega
      · have behind : point.x - segment.start.x ≤ 0 := by
          refine Int.not_lt.mp fun ahead => ?_
          have positive := Int.mul_pos ahead
            (show 0 < segment.stop.y - segment.start.y by omega)
          have negative := Int.mul_nonneg (show 0 ≤ -(segment.stop.x - segment.start.x) by omega)
            (show 0 ≤ point.y - segment.start.y by omega)
          rw [Int.neg_mul] at negative
          omega
        rw [sign]
        omega
  · have rightward : direction (segment.stop.x - segment.start.x) = 1 := if_pos (by omega)
    apply mem_columns (Nat.zero_le _) (show (point.x - segment.start.x).natAbs ≤ _ by omega)
    · rw [show (segment.stop.y - segment.start.y).natAbs = 0 by omega, Nat.mul_zero, Nat.mul_zero]
    · simp [here]
    · rw [rightward]
      omega

end Segment

/-! ## Triangles -/

namespace PixelRun

/-- The hull of some columns begins and ends with one of them. -/
theorem hull_eq_some {columns : List Int} {run : PixelRun} (isHull : hull columns = some run) :
    run.first ∈ columns ∧ run.last ∈ columns ∧
      ∀ column ∈ columns, run.first ≤ column ∧ column ≤ run.last := by
  cases columns with
  | nil => cases isHull
  | cons column rest =>
    simp only [hull, Option.some.injEq] at isHull
    subst isHull
    have isLeast : (column :: rest).min? = some (rest.foldl min column) := List.min?_cons'
    have isMost : (column :: rest).max? = some (rest.foldl max column) := List.max?_cons'
    rcases List.min?_eq_some_iff.mp isLeast with ⟨least, below⟩
    rcases List.max?_eq_some_iff.mp isMost with ⟨most, above⟩
    exact ⟨least, most, fun other member => ⟨below other member, above other member⟩⟩

theorem exists_hull {columns : List Int} {column : Int} (member : column ∈ columns) :
    ∃ run, hull columns = some run := by
  cases columns with
  | nil => cases member
  | cons first rest => exact ⟨_, rfl⟩

end PixelRun

theorem Point.before_iff {first second : Point} : first.before second = true ↔
    first.y < second.y ∨ first.y = second.y ∧ first.x ≤ second.x := by
  simp [before]

namespace Triangle

variable {triangle : Triangle} {rect : Rect} {point : Point}

/-- All corners lie in a rectangle. -/
def CornersIn (triangle : Triangle) (rect : Rect) : Prop :=
  rect.Contains triangle.first ∧ rect.Contains triangle.second ∧ rect.Contains triangle.third

instance (triangle : Triangle) (rect : Rect) : Decidable (triangle.CornersIn rect) :=
  inferInstanceAs (Decidable (_ ∧ _ ∧ _))

theorem cornersIn_iff : triangle.CornersIn rect ↔
    ∀ corner ∈ [triangle.first, triangle.second, triangle.third], rect.Contains corner := by
  simp [CornersIn]

/-- The corners from top to bottom are the three corners, in this order. -/
theorem exists_corners (triangle : Triangle) :
    ∃ top middle bottom, triangle.corners = [top, middle, bottom] ∧
      [top, middle, bottom].Perm [triangle.first, triangle.second, triangle.third] ∧
      top.before middle = true ∧ middle.before bottom = true := by
  have perm : triangle.corners.Perm [triangle.first, triangle.second, triangle.third] :=
    List.mergeSort_perm _ _
  have sorted : triangle.corners.Pairwise fun first second => first.before second = true := by
    apply List.pairwise_mergeSort
    · intro first second third
      simp only [Point.before_iff]
      omega
    · intro first second
      simp only [Bool.or_eq_true, Point.before_iff]
      omega
  generalize triangle.corners = corners at perm sorted
  match corners, perm.length_eq with
  | [top, middle, bottom], _ =>
    simp only [List.pairwise_cons, List.mem_cons, List.not_mem_nil, or_false, forall_eq_or_imp,
      forall_eq] at sorted
    exact ⟨top, middle, bottom, rfl, perm, sorted.1.1, sorted.2.1⟩

/-- Three points that span no area span none in any order, which decides no more than the sign of
the area. -/
theorem flat_of_perm {top middle bottom : Point}
    (perm : [top, middle, bottom].Perm [triangle.first, triangle.second, triangle.third])
    (flat : triangle.doubleArea = 0) :
    (middle.x - top.x) * (bottom.y - top.y) = (bottom.x - top.x) * (middle.y - top.y) := by
  simp only [doubleArea] at flat
  have pair : ∀ {rest : List Point} {one other : Point}, rest.Perm [one, other] →
      rest = [middle, bottom] →
        middle = one ∧ bottom = other ∨ middle = other ∧ bottom = one := by
    rintro rest one other perm rfl
    simpa using List.perm_pair.mp perm
  have member : top ∈ [triangle.first, triangle.second, triangle.third] :=
    perm.subset List.mem_cons_self
  simp only [List.mem_cons, List.not_mem_nil, or_false] at member
  rcases member with rfl | rfl | rfl
  · rcases pair perm.cons_inv rfl with ⟨rfl, rfl⟩ | ⟨rfl, rfl⟩
    · linear_combination flat
    · linear_combination -flat
  · rcases pair (perm.trans (List.Perm.swap ..)).cons_inv rfl with ⟨rfl, rfl⟩ | ⟨rfl, rfl⟩
    · linear_combination -flat
    · linear_combination flat
  · have last := perm.trans ((List.Perm.swap ..).cons _ |>.trans (List.Perm.swap ..))
    rcases pair last.cons_inv rfl with ⟨rfl, rfl⟩ | ⟨rfl, rfl⟩
    · linear_combination flat
    · linear_combination -flat

/-- The ends of the edges are corners. -/
theorem ends_of_mem_edges {edge : Segment} (isEdge : edge ∈ triangle.edges)
    (cornersIn : triangle.CornersIn rect) : rect.Contains edge.start ∧ rect.Contains edge.stop := by
  rcases triangle.exists_corners with ⟨top, middle, bottom, isSorted, perm, -, -⟩
  have contained : ∀ corner ∈ [top, middle, bottom], rect.Contains corner :=
    fun corner member => cornersIn_iff.mp cornersIn corner (perm.mem_iff.mp member)
  simp only [List.forall_mem_cons] at contained
  simp only [edges, isSorted] at isEdge
  split at isEdge
  · rw [List.mem_singleton.mp isEdge]
    exact ⟨contained.1, contained.2.2.1⟩
  · simp only [List.mem_cons, List.not_mem_nil, or_false] at isEdge
    rcases isEdge with rfl | rfl | rfl
    · exact ⟨contained.1, contained.2.1⟩
    · exact ⟨contained.1, contained.2.2.1⟩
    · exact ⟨contained.2.1, contained.2.2.1⟩

/-- Each corner lies on an edge. -/
theorem exists_edge {corner : Point}
    (isCorner : corner ∈ [triangle.first, triangle.second, triangle.third]) :
    ∃ edge ∈ triangle.edges, corner.x ∈ edge.columns corner.y := by
  rcases triangle.exists_corners with ⟨top, middle, bottom, isSorted, perm, upper, lower⟩
  have inOrder := perm.mem_iff.mpr isCorner
  rw [Point.before_iff] at upper lower
  simp only [edges, isSorted]
  simp only [List.mem_cons, List.not_mem_nil, or_false] at inOrder
  split
  · next flat =>
    refine ⟨⟨top, bottom⟩, List.mem_singleton_self _, ?_⟩
    rcases inOrder with rfl | rfl | rfl
    · exact Segment.start_mem_columns ⟨corner, bottom⟩
    · exact Segment.between_mem_columns ⟨top, bottom⟩ (by dsimp only; omega)
        (flat_of_perm perm flat)
    · exact Segment.stop_mem_columns ⟨top, corner⟩
  · rcases inOrder with rfl | rfl | rfl
    · exact ⟨⟨corner, middle⟩, by simp, Segment.start_mem_columns ⟨corner, middle⟩⟩
    · exact ⟨⟨top, corner⟩, by simp, Segment.stop_mem_columns ⟨top, corner⟩⟩
    · exact ⟨⟨top, corner⟩, by simp, Segment.stop_mem_columns ⟨top, corner⟩⟩

theorem covers_corner {corner : Point}
    (isCorner : corner ∈ [triangle.first, triangle.second, triangle.third]) :
    (Shape.triangle triangle).Covers corner := by
  rcases exists_edge isCorner with ⟨edge, isEdge, onEdge⟩
  have member : corner.x ∈ triangle.edges.flatMap fun edge => edge.columns corner.y :=
    List.mem_flatMap.mpr ⟨edge, isEdge, onEdge⟩
  rcases PixelRun.exists_hull member with ⟨run, isHull⟩
  refine ⟨run, ?_, (PixelRun.hull_eq_some isHull).2.2 _ member⟩
  simp [Shape.runs, runs, isHull]

/-- A triangle keeps to a rectangle exactly if its corners do. -/
theorem keepsTo_iff : (Shape.triangle triangle).KeepsTo rect ↔ triangle.CornersIn rect := by
  constructor
  · intro keeps
    exact cornersIn_iff.mpr fun corner isCorner => keeps corner (covers_corner isCorner)
  · rintro cornersIn point ⟨run, isRun, inRun⟩
    rcases PixelRun.hull_eq_some (Option.mem_toList.mp isRun) with ⟨isFirst, isLast, -⟩
    have contained : ∀ column ∈ triangle.edges.flatMap fun edge => edge.columns point.y,
        rect.Contains ⟨column, point.y⟩ := by
      intro column member
      rcases List.mem_flatMap.mp member with ⟨edge, isEdge, onEdge⟩
      rcases ends_of_mem_edges isEdge cornersIn with ⟨start, stop⟩
      have between := Segment.between_of_mem_columns onEdge
      simp only [Rect.Contains] at start stop ⊢
      omega
    have first := contained _ isFirst
    have last := contained _ isLast
    simp only [Rect.Contains] at first last ⊢
    omega

end Triangle

end TabDeck
