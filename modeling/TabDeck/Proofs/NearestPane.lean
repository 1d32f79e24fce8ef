import TabDeck.PaneRow

/-!
# Which pane is in view

The offset of a row ranges over the offsets at which one of its panes is in view, from the first
pane down to the last. This file says what the words compute inside that range: a row that fits the
coordinates confines no offset to an empty range, and the pane `index` stands `index` strides to the
right of the first one.

The search for the nearest pane goes through the panes from left to right and keeps the best so far.
Its result is characterised without the search, by the distances of the panes from the left edge of
the viewport. An offset in range always has a nearest pane, since it lies between two neighbours.
-/

namespace TabDeck

namespace PaneRow

/-! ## Rows that fit the coordinates -/

/-- A row of viewports side by side, all of whose left edges fit a signed word. -/
structure Fits (row : PaneRow) : Prop where
  /-- There is a first pane. -/
  nonempty : 0 < row.count
  /-- Neighbouring panes are one viewport apart. -/
  sideBySide : row.stride = row.viewport
  /-- The last pane is not too far away. -/
  reach : (((row.count - 1) * row.stride : Nat) : Int) ≤ Word.maxSigned

/-- The offset is one at which the viewport shows panes from edge to edge. -/
def InRange (row : PaneRow) : Prop :=
  -(((row.count - 1) * row.stride : Nat) : Int) ≤ row.offset ∧ row.offset ≤ 0

/-- The lowest offset is that of the last pane, whether or not it fits the coordinates. -/
theorem lowest_eq_signed (row : PaneRow) (nonempty : 0 < row.count)
    (sideBySide : row.stride = row.viewport) :
    row.lowest = -Word.signed ((row.count - 1) * row.stride : Nat) := by
  have total : row.stride * row.count = (row.count - 1) * row.stride + row.stride := by
    rcases Nat.exists_eq_add_of_lt nonempty with ⟨last, count⟩
    rw [count, Nat.mul_comm, ← Nat.succ_mul]
    congr 1
  have excess :
      max (((row.stride * row.count : Nat) : Int) - (row.viewport : Int)) 0 =
        (((row.count - 1) * row.stride : Nat) : Int) := by
    rw [total, ← sideBySide]
    omega
  simp only [lowest, excess]

namespace Fits

variable {row : PaneRow}

theorem signed_edge (fits : row.Fits) {pane : Nat} (present : pane < row.count) :
    Word.signed (pane * row.stride : Nat) = (pane * row.stride : Nat) := by
  have bounded : pane * row.stride ≤ (row.count - 1) * row.stride :=
    Nat.mul_le_mul_right row.stride (by omega)
  have reach := fits.reach
  apply Word.signed_eq_self
  · simp only [Word.minSigned]
    omega
  · omega

theorem lowest_eq (fits : row.Fits) :
    row.lowest = -(((row.count - 1) * row.stride : Nat) : Int) := by
  have nonempty := fits.nonempty
  rw [row.lowest_eq_signed nonempty fits.sideBySide, fits.signed_edge (by omega)]

theorem confine_eq (fits : row.Fits) (value : Int) :
    row.confine value = .ok (max row.lowest (min value 0)) := by
  have lowest := fits.lowest_eq
  simp only [confine]
  rw [if_neg (by omega)]

theorem offsetOf_eq (fits : row.Fits) {pane : Nat} (present : pane < row.count) :
    row.offsetOf pane = .ok (-((pane * row.stride : Nat) : Int)) := by
  have bounded : pane * row.stride ≤ (row.count - 1) * row.stride :=
    Nat.mul_le_mul_right row.stride (by omega)
  have lowest := fits.lowest_eq
  simp only [offsetOf]
  rw [fits.confine_eq, fits.signed_edge present]
  congr 1
  omega

theorem paneLeft_eq (fits : row.Fits) {pane : Nat} (present : pane < row.count) :
    row.paneLeft pane = row.offset + (pane * row.stride : Nat) := by
  simp only [paneLeft, fits.signed_edge present]

end Fits

/-! ## The search for the nearest pane -/

/-- A pane is the nearest one when it is less than a stride away from the left edge of the viewport,
no pane is closer to that edge, and every pane to its left is further away. -/
structure IsNearest (row : PaneRow) (pane : Nat) : Prop where
  present : pane < row.count
  close : (row.paneLeft pane).natAbs < row.stride
  least : ∀ other, other < row.count → (row.paneLeft pane).natAbs ≤ (row.paneLeft other).natAbs
  first : ∀ other, other < pane → (row.paneLeft pane).natAbs < (row.paneLeft other).natAbs

/-- What the search knows after some panes: the least distance below a stride, and the first pane at
that distance. -/
def BestOf (row : PaneRow) (seen : Nat) : Nat × Option Nat → Prop
  | (distance, none) =>
    distance = row.stride ∧ ∀ other, other < seen → row.stride ≤ (row.paneLeft other).natAbs
  | (distance, some pane) =>
    distance = (row.paneLeft pane).natAbs ∧ pane < seen ∧ distance < row.stride ∧
      (∀ other, other < seen → distance ≤ (row.paneLeft other).natAbs) ∧
        ∀ other, other < pane → distance < (row.paneLeft other).natAbs

theorem BestOf.nearer {row : PaneRow} {seen : Nat} {best : Nat × Option Nat}
    (known : row.BestOf seen best) : row.BestOf (seen + 1) (row.nearer best seen) := by
  rcases best with ⟨distance, best⟩
  by_cases closer : (row.paneLeft seen).natAbs < distance
  · simp only [PaneRow.nearer, if_pos closer]
    cases best with
    | none =>
      rcases known with ⟨rfl, far⟩
      refine ⟨rfl, by omega, closer, ?_, ?_⟩
      · intro other before
        rcases Nat.lt_succ_iff_lt_or_eq.mp before with earlier | rfl
        · have := far other earlier
          omega
        · exact Nat.le_refl _
      · intro other before
        have := far other before
        omega
    | some pane =>
      rcases known with ⟨rfl, -, close, least, -⟩
      refine ⟨rfl, by omega, by omega, ?_, ?_⟩
      · intro other before
        rcases Nat.lt_succ_iff_lt_or_eq.mp before with earlier | rfl
        · have := least other earlier
          omega
        · exact Nat.le_refl _
      · intro other before
        have := least other before
        omega
  · simp only [PaneRow.nearer, if_neg closer]
    cases best with
    | none =>
      rcases known with ⟨rfl, far⟩
      refine ⟨rfl, ?_⟩
      intro other before
      rcases Nat.lt_succ_iff_lt_or_eq.mp before with earlier | rfl
      · exact far other earlier
      · omega
    | some pane =>
      rcases known with ⟨rfl, early, close, least, first⟩
      refine ⟨rfl, by omega, close, ?_, first⟩
      intro other before
      rcases Nat.lt_succ_iff_lt_or_eq.mp before with earlier | rfl
      · exact least other earlier
      · omega

theorem search_bestOf (row : PaneRow) (seen : Nat) :
    row.BestOf seen ((List.range seen).foldl row.nearer (row.stride, none)) := by
  induction seen with
  | zero => simp [BestOf]
  | succ seen ih =>
    rw [List.range_succ, List.foldl_append, List.foldl_cons, List.foldl_nil]
    exact ih.nearer

theorem nearestWithin_eq_some (row : PaneRow) {distance pane : Nat}
    (found : row.nearestWithin = (distance, some pane)) :
    row.IsNearest pane ∧ distance = (row.paneLeft pane).natAbs := by
  have invariant := row.search_bestOf row.count
  simp only [nearestWithin] at found
  rw [found] at invariant
  rcases invariant with ⟨rfl, present, close, least, first⟩
  exact ⟨⟨present, close, least, first⟩, rfl⟩

theorem nearestWithin_eq_none (row : PaneRow) {distance : Nat}
    (found : row.nearestWithin = (distance, none)) :
    distance = row.stride ∧
      ∀ other, other < row.count → row.stride ≤ (row.paneLeft other).natAbs := by
  have invariant := row.search_bestOf row.count
  simp only [nearestWithin] at found
  rw [found] at invariant
  exact invariant

theorem IsNearest.unique {row : PaneRow} {left right : Nat} (isLeft : row.IsNearest left)
    (isRight : row.IsNearest right) : left = right := by
  rcases Nat.lt_trichotomy left right with before | same | after
  · have := isRight.first left before
    have := isLeft.least right isRight.present
    omega
  · exact same
  · have := isLeft.first right after
    have := isRight.least left isLeft.present
    omega

/-- The search finds the nearest pane. -/
theorem nearest_eq_some_iff (row : PaneRow) (pane : Nat) :
    row.nearest = some pane ↔ row.IsNearest pane := by
  rcases found : row.nearestWithin with ⟨distance, best⟩
  simp only [nearest, found]
  cases best with
  | none =>
    have far := (row.nearestWithin_eq_none found).2
    constructor
    · intro impossible
      cases impossible
    · intro nearest
      have := far pane nearest.present
      have := nearest.close
      omega
  | some best =>
    have isBest := (row.nearestWithin_eq_some found).1
    constructor
    · intro same
      cases same
      exact isBest
    · intro nearest
      exact congrArg some (isBest.unique nearest)

/-- A pane is aligned when it is the first one at the left edge of the viewport. -/
theorem aligned_eq_some_iff (row : PaneRow) (pane : Nat) :
    row.aligned = some pane ↔ row.IsNearest pane ∧ row.paneLeft pane = 0 := by
  rcases found : row.nearestWithin with ⟨distance, best⟩
  simp only [aligned, found]
  cases best with
  | none =>
    have far := (row.nearestWithin_eq_none found).2
    constructor
    · intro impossible
      split at impossible <;> cases impossible
    · rintro ⟨nearest, -⟩
      have := far pane nearest.present
      have := nearest.close
      omega
  | some best =>
    rcases row.nearestWithin_eq_some found with ⟨isBest, rfl⟩
    constructor
    · intro same
      split at same
      · next zero =>
        cases same
        exact ⟨isBest, Int.natAbs_eq_zero.mp zero⟩
      · cases same
    · rintro ⟨nearest, edge⟩
      cases isBest.unique nearest
      rw [if_pos (by rw [edge]; rfl)]

/-- Where a pane stands at the left edge of the viewport, one is aligned. -/
theorem aligned_isSome {row : PaneRow} (wide : 0 < row.stride) {pane : Nat}
    (present : pane < row.count) (edge : row.paneLeft pane = 0) : row.aligned.isSome = true := by
  rcases found : row.nearestWithin with ⟨distance, best⟩
  cases best with
  | none =>
    have far := (row.nearestWithin_eq_none found).2 pane present
    rw [edge] at far
    exact absurd far (by omega)
  | some best =>
    rcases row.nearestWithin_eq_some found with ⟨isBest, rfl⟩
    have least := isBest.least pane present
    rw [edge] at least
    have bestEdge : row.paneLeft best = 0 := by omega
    rw [(row.aligned_eq_some_iff best).mpr ⟨isBest, bestEdge⟩]
    rfl

theorem nearest_lt_count {row : PaneRow} {pane : Nat} (found : row.nearest = some pane) :
    pane < row.count :=
  ((row.nearest_eq_some_iff pane).mp found).present

/-- An offset in range lies less than a stride away from that of some pane, the last one that begins
no later than the viewport. -/
theorem InRange.nearest_isSome {row : PaneRow} (inRange : row.InRange) (fits : row.Fits)
    (wide : 0 < row.stride) : row.nearest.isSome = true := by
  rcases found : row.nearestWithin with ⟨distance, best⟩
  cases best with
  | some best => simp [nearest, found]
  | none =>
    exfalso
    have far := (row.nearestWithin_eq_none found).2
    rcases inRange with ⟨lower, upper⟩
    have quotient := Nat.div_add_mod row.offset.natAbs row.stride
    have remainder := Nat.mod_lt row.offset.natAbs wide
    have present : row.offset.natAbs / row.stride < row.count := by
      have within : row.offset.natAbs / row.stride ≤ row.count - 1 :=
        Nat.div_le_of_le_mul (by rw [Nat.mul_comm]; omega)
      have := fits.nonempty
      omega
    have distant := far _ present
    rw [fits.paneLeft_eq present, Nat.mul_comm] at distant
    omega

/-- In a row with wide panes at most one pane is aligned. -/
theorem Fits.aligned_eq_some_iff {row : PaneRow} (fits : row.Fits) (wide : 0 < row.stride)
    {pane : Nat} (present : pane < row.count) :
    row.aligned = some pane ↔ row.offset = -((pane * row.stride : Nat) : Int) := by
  rw [PaneRow.aligned_eq_some_iff]
  constructor
  · rintro ⟨-, edge⟩
    rw [fits.paneLeft_eq present] at edge
    omega
  · intro offset
    have edge : row.paneLeft pane = 0 := by
      rw [fits.paneLeft_eq present]
      omega
    refine ⟨⟨present, by rw [edge]; exact wide, ?_, ?_⟩, edge⟩
    · intro other _
      rw [edge]
      exact Nat.zero_le _
    · intro other before
      have apart : other * row.stride + row.stride ≤ pane * row.stride := by
        rw [← Nat.succ_mul]
        exact Nat.mul_le_mul_right row.stride before
      rw [edge, fits.paneLeft_eq (by omega)]
      omega

end PaneRow

end TabDeck
