import Mathlib.Data.Rat.Floor
import Mathlib.Order.Bounds.Basic
import Mathlib.Tactic.NormNum
import Mathlib.Tactic.Positivity
import Mathlib.Tactic.Ring
import TabDeck.Proofs.RowOperations

/-!
# The nearest pane by rounding

The search for the nearest pane begins with the distance of one stride and takes a pane only if it is
strictly nearer. Inside the range of offsets this rounds the offset to whole strides, with a half
rounded toward the first pane: the nearest pane is the one whose left edge lies at most half a stride
before the left edge of the viewport, or less than half a stride behind it. There is exactly one such
pane, and it is found (`PaneRow.nearest_rounds_to_stride`).
-/

namespace TabDeck

namespace PaneRow

variable {row after : PaneRow} {index : Nat}

/-! ## Rows stay side by side -/

theorem sideBySide_of_perform {operation : Operation} {answer : Option Bool}
    (sideBySide : row.stride = row.viewport) (done : row.perform operation = .ok (answer, after)) :
    after.stride = after.viewport := by
  have sameSize : row.SameSize after → after.stride = after.viewport := by
    intro size
    rw [size.2.1, size.2.2]
    exact sideBySide
  cases operation with
  | resize count viewport stripWidth =>
    simp only [perform, bind_eq_ok, pure_eq_ok] at done
    rcases done with ⟨resized, done, same⟩
    cases same
    rcases resize_eq_ok done with ⟨offset, remembered, rfl, -, -⟩
    rfl
  | moveBy distance =>
    simp only [perform] at done
    split at done
    · simp only [bind_eq_ok, pure_eq_ok] at done
      rcases done with ⟨moved, done, same⟩
      cases same
      exact sameSize (sameSize_of_moveBy done)
    · cases done
      exact sideBySide
  | moveTo offset =>
    simp only [perform, bind_eq_ok, pure_eq_ok] at done
    rcases done with ⟨moved, done, same⟩
    cases same
    exact sameSize (sameSize_of_moveTo done)
  | alignTo pane =>
    simp only [perform, bind_eq_ok, pure_eq_ok] at done
    rcases done with ⟨aligned, done, same⟩
    cases same
    exact sameSize (sameSize_of_alignTo done)
  | withStripWidth _ | remember | goBack =>
    cases done
    exact sideBySide

theorem sideBySide_of_performAll {operations : List Operation}
    (sideBySide : row.stride = row.viewport) (done : row.performAll operations = .ok after) :
    after.stride = after.viewport := by
  induction operations generalizing row with
  | nil =>
    cases done
    exact sideBySide
  | cons operation rest ih =>
    simp only [performAll, bind_eq_ok] at done
    rcases done with ⟨⟨answer, next⟩, first, later⟩
    exact ih (sideBySide_of_perform sideBySide first) later

/-! ## Rounding -/

/-- How far the left edge of a pane is from that of the viewport. -/
def gap (row : PaneRow) (pane : Nat) : Nat := (row.offset + (pane * row.stride : Nat)).natAbs

theorem Fits.natAbs_paneLeft (fits : row.Fits) {pane : Nat} (present : pane < row.count) :
    (row.paneLeft pane).natAbs = row.gap pane := by
  rw [fits.paneLeft_eq present, gap]

/-- Neighbouring panes of a row are a stride apart, and others at least that far. -/
theorem stride_le_of_lt (row : PaneRow) {first second : Nat} (before : first < second) :
    first * row.stride + row.stride ≤ second * row.stride := by
  rw [← Nat.succ_mul]
  exact Nat.mul_le_mul_right row.stride before

/-- The left edge of the nearest pane is within half a stride of that of the viewport. -/
theorem IsNearest.half_stride (nearest : row.IsNearest index) (fits : row.Fits)
    (inRange : row.InRange) :
    -(row.stride : Int) ≤ 2 * (row.offset + (index * row.stride : Nat)) ∧
      2 * (row.offset + (index * row.stride : Nat)) < row.stride := by
  have close := nearest.close
  rw [fits.natAbs_paneLeft nearest.present, gap] at close
  rcases inRange with ⟨lower, upper⟩
  constructor
  · by_cases last : index + 1 < row.count
    · have nextNotNearer := nearest.least (index + 1) last
      rw [fits.natAbs_paneLeft nearest.present, fits.natAbs_paneLeft last, gap, gap,
        Nat.succ_mul] at nextNotNearer
      omega
    · have isLast : row.count - 1 = index := by
        have := nearest.present
        omega
      rw [isLast] at lower
      omega
  · cases index with
    | zero => omega
    | succ previous =>
      have previousFurther := nearest.first previous (Nat.lt_succ_self previous)
      have earlier : previous < row.count := Nat.lt_of_succ_lt nearest.present
      rw [fits.natAbs_paneLeft nearest.present, fits.natAbs_paneLeft earlier, gap, gap,
        Nat.succ_mul] at previousFurther
      rw [Nat.succ_mul] at close ⊢
      omega

/-- Only one pane is within half a stride. -/
theorem half_stride_unique {first second : Nat}
    (low : -(row.stride : Int) ≤ 2 * (row.offset + (first * row.stride : Nat)))
    (high : 2 * (row.offset + (first * row.stride : Nat)) < row.stride)
    (otherLow : -(row.stride : Int) ≤ 2 * (row.offset + (second * row.stride : Nat)))
    (otherHigh : 2 * (row.offset + (second * row.stride : Nat)) < row.stride) :
    first = second := by
  rcases Nat.lt_trichotomy first second with before | same | behind
  · have apart := row.stride_le_of_lt before
    omega
  · exact same
  · have apart := row.stride_le_of_lt behind
    omega

theorem Fits.nearest_eq_some_iff_half_stride (fits : row.Fits) (inRange : row.InRange)
    (wide : 0 < row.stride) :
    row.nearest = some index ↔
      -(row.stride : Int) ≤ 2 * (row.offset + (index * row.stride : Nat)) ∧
        2 * (row.offset + (index * row.stride : Nat)) < row.stride := by
  constructor
  · intro found
    exact ((row.nearest_eq_some_iff index).mp found).half_stride fits inRange
  · rintro ⟨low, high⟩
    rcases Option.isSome_iff_exists.mp (inRange.nearest_isSome fits wide) with ⟨best, found⟩
    rcases ((row.nearest_eq_some_iff best).mp found).half_stride fits inRange with
      ⟨bestLow, bestHigh⟩
    rw [found, half_stride_unique low high bestLow bestHigh]

/-- Being within half a stride is what the ceiling says. -/
theorem half_stride_iff_ceil (wide : 0 < row.stride) :
    (-(row.stride : Int) ≤ 2 * (row.offset + (index * row.stride : Nat)) ∧
        2 * (row.offset + (index * row.stride : Nat)) < row.stride) ↔
      (index : Int) = ⌈((2 * -row.offset - row.stride : Int) : Rat) / (2 * row.stride : Nat)⌉ := by
  have positive : (0 : Rat) < (2 * row.stride : Nat) := by positivity
  rw [eq_comm, Int.ceil_eq_iff, lt_div_iff₀ positive, div_le_iff₀ positive]
  have below : (((index : Int) : Rat) - 1) * (2 * row.stride : Nat) <
      (2 * -row.offset - row.stride : Int) ↔
        ((index : Int) - 1) * (2 * row.stride : Nat) < 2 * -row.offset - row.stride := by
    norm_cast
  have above : ((2 * -row.offset - row.stride : Int) : Rat) ≤
      ((index : Int) : Rat) * (2 * row.stride : Nat) ↔
        2 * -row.offset - row.stride ≤ (index : Int) * (2 * row.stride : Nat) := by
    norm_cast
  have product : (index : Int) * (2 * row.stride : Nat) = 2 * (index * row.stride : Nat) := by
    push_cast
    ring
  rw [below, above, sub_mul, one_mul, product]
  omega

/-- The nearest pane is the first of the panes with the least gap. -/
theorem IsNearest.isLeast (nearest : row.IsNearest index) (fits : row.Fits) :
    IsLeast {pane | pane < row.count ∧ ∀ other < row.count, row.gap pane ≤ row.gap other}
      index := by
  constructor
  · refine ⟨nearest.present, ?_⟩
    intro other present
    rw [← fits.natAbs_paneLeft nearest.present, ← fits.natAbs_paneLeft present]
    exact nearest.least other present
  · rintro other ⟨present, least⟩
    by_contra before
    have further := nearest.first other (Nat.lt_of_not_le before)
    have notFurther := least index nearest.present
    rw [fits.natAbs_paneLeft nearest.present, fits.natAbs_paneLeft present] at further
    omega

/-- What the two searches for a pane come to: which of the panes with the least gap is found, where
it stands in the row, and when one is aligned. -/
structure RoundsToStride (row : PaneRow) : Prop where
  found : ∃ index < row.count, row.nearest = some index
  least : ∀ index, row.nearest = some index ↔
    IsLeast {pane | pane < row.count ∧ ∀ other < row.count, row.gap pane ≤ row.gap other} index
  rounded : ∀ index : Nat, row.nearest = some index ↔
    (index : Int) = ⌈((2 * -row.offset - row.stride : Int) : Rat) / (2 * row.stride : Nat)⌉
  aligned : ∀ index, row.aligned = some index ↔
    index < row.count ∧ row.offset = -((index * row.stride : Nat) : Int)

theorem Fits.roundsToStride (fits : row.Fits) (inRange : row.InRange) (wide : 0 < row.stride) :
    row.RoundsToStride := by
  rcases Option.isSome_iff_exists.mp (inRange.nearest_isSome fits wide) with ⟨best, found⟩
  have isLeast := ((row.nearest_eq_some_iff best).mp found).isLeast fits
  refine ⟨⟨best, nearest_lt_count found, found⟩, ?_, ?_, ?_⟩
  · intro index
    constructor
    · intro isFound
      exact ((row.nearest_eq_some_iff index).mp isFound).isLeast fits
    · intro alsoLeast
      rw [found, isLeast.unique alsoLeast]
  · intro index
    rw [fits.nearest_eq_some_iff_half_stride inRange wide]
    exact half_stride_iff_ceil wide
  · intro index
    constructor
    · intro isAligned
      have present := ((row.aligned_eq_some_iff index).mp isAligned).1.present
      exact ⟨present, (fits.aligned_eq_some_iff wide present).mp isAligned⟩
    · rintro ⟨present, offset⟩
      exact (fits.aligned_eq_some_iff wide present).mpr offset

/-- In a row without width no pane is less than a stride away. -/
theorem nearest_eq_none_of_narrow (narrow : row.stride = 0) :
    row.nearest = none ∧ row.aligned = none := by
  have far : ∀ pane, ¬ row.IsNearest pane := by
    intro pane nearest
    have close := nearest.close
    omega
  constructor
  · apply Option.eq_none_iff_forall_ne_some.mpr
    intro pane found
    exact far pane ((row.nearest_eq_some_iff pane).mp found)
  · apply Option.eq_none_iff_forall_ne_some.mpr
    intro pane isAligned
    exact far pane ((row.aligned_eq_some_iff pane).mp isAligned).1

/-- Whatever was done with a row of panes: if it has panes of some width whose left edges fit the
coordinates, and its offset is in range, then the nearest pane is found by rounding the offset to
strides, and a pane is aligned exactly if the offset is its own. Without a width there is neither. -/
theorem nearest_rounds_to_stride {panes width : Nat} {operations : List Operation}
    (reached : (ofPanes panes width).performAll operations = .ok row) :
    (row.stride = 0 → row.nearest = none ∧ row.aligned = none) ∧
      (0 < row.stride → 0 < row.count → row.lowest ≤ row.offset → row.offset ≤ 0 →
        (((row.count - 1) * row.stride : Nat) : Int) ≤ Word.maxSigned → row.RoundsToStride) := by
  refine ⟨nearest_eq_none_of_narrow, ?_⟩
  intro wide nonempty lower upper reach
  have fits : row.Fits := ⟨nonempty, sideBySide_of_performAll rfl reached, reach⟩
  have lowest := fits.lowest_eq
  have inRange : row.InRange := ⟨by omega, upper⟩
  exact fits.roundsToStride inRange wide

/-- Halfway between the second and the third pane the second one is nearest. -/
theorem nearest_rounds_half_to_second_pane :
    ∃ row, (ofPanes 3 10).performAll [.moveTo (-15)] = .ok row ∧ row.nearest = some 1 ∧
      row.gap 1 = row.gap 2 ∧ row.RoundsToStride := by
  obtain ⟨row, reached, same⟩ : ∃ row, (ofPanes 3 10).performAll [.moveTo (-15)] = .ok row ∧
      row = { ofPanes 3 10 with offset := -15 } := ⟨_, rfl, rfl⟩
  refine ⟨row, reached, ?_, ?_, ?_⟩
  · rw [same]
    rfl
  · rw [same]
    rfl
  · apply (nearest_rounds_to_stride reached).2 <;> rw [same] <;> decide

end PaneRow

end TabDeck
