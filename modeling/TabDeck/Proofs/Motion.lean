import TabDeck.Proofs.NearestPane
import TabDeck.Proofs.Runs

/-!
# How the row of panes moves

A row is moved by being sent to an offset, by a finger, by being aligned with a pane and by taking
on new dimensions. Each confines the offset, so that it stays between the lowest offset and zero
once it is there; this holds of every row, whether or not its panes fit the coordinates.

The gesture decides which of these happens. What a drag, a tick and a release can do to it is said
once here, and used by everything that is proved about decks that flick.
-/

namespace TabDeck

namespace PaneRow

variable {row after : PaneRow}

theorem confine_eq_ok {value offset : Int} :
    row.confine value = .ok offset ↔ row.lowest ≤ 0 ∧ offset = max row.lowest (min value 0) := by
  simp only [confine]
  split
  · next empty =>
    constructor
    · intro impossible
      cases impossible
    · rintro ⟨bounded, -⟩
      omega
  · next nonempty =>
    rw [Except.ok.injEq]
    constructor
    · rintro rfl
      exact ⟨by omega, rfl⟩
    · rintro ⟨-, rfl⟩
      rfl

/-- The range lies within the words. -/
theorem lowest_ge (row : PaneRow) : -Word.maxSigned ≤ row.lowest := by
  have bounds := Word.signed_bounds (max ((row.stride * row.count : Nat) - (row.viewport : Int)) 0)
  simp only [lowest]
  omega

/-- A value may be saturated before it is confined. -/
theorem confine_saturate (row : PaneRow) (value : Int) :
    row.confine (Word.saturate value) = row.confine value := by
  have lower := row.lowest_ge
  simp only [confine, Word.saturate, Word.minSigned, Word.maxSigned] at lower ⊢
  split
  · rfl
  · rw [Except.ok.injEq]
    omega

theorem moveTo_eq_ok {value : Int} (done : row.moveTo value = .ok after) :
    ∃ offset, row.confine value = .ok offset ∧ after = { row with offset } := by
  simp only [moveTo, bind_eq_ok, pure_eq_ok] at done
  rcases done with ⟨offset, confined, rfl⟩
  exact ⟨offset, confined, rfl⟩

theorem moveBy_eq_ok {distance : Int} (done : row.moveBy distance = .ok after) :
    after = row ∨
      ∃ offset, row.confine (Word.saturate (row.offset - distance)) = .ok offset ∧
        after = { row with offset } := by
  simp only [moveBy] at done
  split at done
  · exact Or.inr (moveTo_eq_ok done)
  · cases done
    exact Or.inl rfl

theorem alignTo_eq_ok {pane : Nat} (done : row.alignTo pane = .ok after) :
    ∃ offset, row.offsetOf pane = .ok offset ∧
      after = { row with offset, remembered := offset } := by
  simp only [alignTo, bind_eq_ok, pure_eq_ok] at done
  rcases done with ⟨offset, found, rfl⟩
  exact ⟨offset, found, rfl⟩

theorem resize_eq_ok {count viewport stripWidth : Nat}
    (done : row.resize count viewport stripWidth = .ok after) :
    ∃ offset remembered,
      after = { offset, remembered, stride := viewport, viewport, count, stripWidth } ∧
      after.confine row.offset = .ok offset ∧ after.confine row.remembered = .ok remembered := by
  simp only [resize, bind_eq_ok, pure_eq_ok] at done
  rcases done with ⟨offset, confined, remembered, alsoConfined, rfl⟩
  exact ⟨offset, remembered, rfl, confined, alsoConfined⟩

/-! ## Staying within the range -/

/-- The rows differ at most in their offsets and in the width of the strip. -/
def SameSize (before after : PaneRow) : Prop :=
  after.count = before.count ∧ after.stride = before.stride ∧ after.viewport = before.viewport

theorem SameSize.trans {last : PaneRow} (earlier : row.SameSize after)
    (later : after.SameSize last) : row.SameSize last :=
  ⟨later.1.trans earlier.1, later.2.1.trans earlier.2.1, later.2.2.trans earlier.2.2⟩

theorem SameSize.lowest (size : row.SameSize after) : after.lowest = row.lowest := by
  rcases size with ⟨count, stride, viewport⟩
  simp only [PaneRow.lowest, count, stride, viewport]

theorem SameSize.offsetOf (size : row.SameSize after) (pane : Nat) :
    after.offsetOf pane = row.offsetOf pane := by
  simp only [PaneRow.offsetOf, PaneRow.confine, size.lowest, size.2.1]

theorem SameSize.fits (size : row.SameSize after) (fits : row.Fits) : after.Fits := by
  rcases size with ⟨count, stride, viewport⟩
  refine ⟨?_, ?_, ?_⟩
  · rw [count]
    exact fits.nonempty
  · rw [stride, viewport]
    exact fits.sideBySide
  · rw [count, stride]
    exact fits.reach

/-- The rows differ at most in their offsets. -/
def Shifted (before after : PaneRow) : Prop :=
  before.SameSize after ∧ after.stripWidth = before.stripWidth

theorem Shifted.refl (row : PaneRow) : row.Shifted row := ⟨⟨rfl, rfl, rfl⟩, rfl⟩

theorem shifted_of_moveTo {value : Int} (done : row.moveTo value = .ok after) :
    row.Shifted after := by
  rcases moveTo_eq_ok done with ⟨_, -, rfl⟩
  exact ⟨⟨rfl, rfl, rfl⟩, rfl⟩

theorem shifted_of_moveBy {distance : Int} (done : row.moveBy distance = .ok after) :
    row.Shifted after := by
  rcases moveBy_eq_ok done with rfl | ⟨_, -, rfl⟩ <;> exact ⟨⟨rfl, rfl, rfl⟩, rfl⟩

theorem shifted_of_alignTo {pane : Nat} (done : row.alignTo pane = .ok after) :
    row.Shifted after := by
  rcases alignTo_eq_ok done with ⟨_, -, rfl⟩
  exact ⟨⟨rfl, rfl, rfl⟩, rfl⟩

theorem sameSize_of_moveTo {value : Int} (done : row.moveTo value = .ok after) :
    row.SameSize after := (shifted_of_moveTo done).1

theorem sameSize_of_moveBy {distance : Int} (done : row.moveBy distance = .ok after) :
    row.SameSize after := (shifted_of_moveBy done).1

theorem sameSize_of_alignTo {pane : Nat} (done : row.alignTo pane = .ok after) :
    row.SameSize after := (shifted_of_alignTo done).1

/-- The row is shifted, and would go back, to an offset of its range. -/
structure Within (row : PaneRow) : Prop where
  lowest_le_offset : row.lowest ≤ row.offset
  offset_le_zero : row.offset ≤ 0
  lowest_le_remembered : row.lowest ≤ row.remembered
  remembered_le_zero : row.remembered ≤ 0

theorem within_ofPanes (count : Nat) : (ofPanes count 0).Within := by
  have lowest : (ofPanes count 0).lowest = 0 := by
    simp [lowest, ofPanes, Word.signed]
  refine ⟨?_, Int.le_refl 0, ?_, Int.le_refl 0⟩ <;> rw [lowest] <;> exact Int.le_refl 0

/-- Both offsets of a row of the same size have to be in the range of the other. -/
theorem SameSize.within (size : row.SameSize after)
    (offset : row.lowest ≤ after.offset ∧ after.offset ≤ 0)
    (remembered : row.lowest ≤ after.remembered ∧ after.remembered ≤ 0) : after.Within := by
  rw [← size.lowest] at offset remembered
  exact ⟨offset.1, offset.2, remembered.1, remembered.2⟩

theorem Within.withStripWidth (within : row.Within) (stripWidth : Nat) :
    (row.withStripWidth stripWidth).Within :=
  SameSize.within ⟨rfl, rfl, rfl⟩ ⟨within.1, within.2⟩ ⟨within.3, within.4⟩

theorem Within.goBack (within : row.Within) : row.goBack.Within :=
  SameSize.within ⟨rfl, rfl, rfl⟩ ⟨within.3, within.4⟩ ⟨within.3, within.4⟩

theorem goBack_of_level (level : row.offset = row.remembered) : row.goBack = row := by
  cases row
  cases level
  rfl

theorem Within.remember (within : row.Within) : row.remember.Within :=
  SameSize.within ⟨rfl, rfl, rfl⟩ ⟨within.1, within.2⟩ ⟨within.1, within.2⟩

theorem bounds_of_confine {value offset : Int} (confined : row.confine value = .ok offset) :
    row.lowest ≤ offset ∧ offset ≤ 0 := by
  rcases confine_eq_ok.mp confined with ⟨bounded, rfl⟩
  exact ⟨Int.le_max_left _ _, Int.max_le.mpr ⟨bounded, Int.min_le_right _ _⟩⟩

theorem Within.moveTo {value : Int} (within : row.Within) (done : row.moveTo value = .ok after) :
    after.Within := by
  rcases moveTo_eq_ok done with ⟨offset, confined, rfl⟩
  exact SameSize.within ⟨rfl, rfl, rfl⟩ (bounds_of_confine confined) ⟨within.3, within.4⟩

theorem Within.moveBy {distance : Int} (within : row.Within)
    (done : row.moveBy distance = .ok after) : after.Within := by
  rcases moveBy_eq_ok done with rfl | ⟨offset, confined, rfl⟩
  · exact within
  · exact SameSize.within ⟨rfl, rfl, rfl⟩ (bounds_of_confine confined) ⟨within.3, within.4⟩

theorem within_of_alignTo {pane : Nat} (done : row.alignTo pane = .ok after) : after.Within := by
  rcases alignTo_eq_ok done with ⟨offset, found, rfl⟩
  simp only [offsetOf] at found
  have bounds := bounds_of_confine found
  exact SameSize.within ⟨rfl, rfl, rfl⟩ bounds bounds

theorem within_of_resize {count viewport stripWidth : Nat}
    (done : row.resize count viewport stripWidth = .ok after) : after.Within := by
  rcases resize_eq_ok done with ⟨offset, remembered, rfl, confined, alsoConfined⟩
  exact SameSize.within ⟨rfl, rfl, rfl⟩ (bounds_of_confine confined)
    (bounds_of_confine alsoConfined)

/-- A row without width stands at zero, and would go back there. -/
theorem Within.offset_eq_remembered (within : row.Within) (nonempty : 0 < row.count)
    (sideBySide : row.stride = row.viewport) (narrow : row.stride = 0) :
    row.offset = row.remembered := by
  have lowest : row.lowest = 0 := by
    rw [row.lowest_eq_signed nonempty sideBySide, narrow, Nat.mul_zero]
    rfl
  rcases within with ⟨lower, upper, lowerRemembered, upperRemembered⟩
  omega

/-- A wide row that stands at the offset of a pane has an aligned pane, though it may be another
one where the coordinates wrap around. -/
theorem aligned_isSome_of_offsetOf (nonempty : 0 < row.count)
    (sideBySide : row.stride = row.viewport) (wide : 0 < row.stride) {pane : Nat}
    (present : pane < row.count) (there : row.offsetOf pane = .ok row.offset) :
    row.aligned.isSome = true := by
  have last := row.lowest_eq_signed nonempty sideBySide
  have ends : row.offset = row.lowest ∨ row.offset = 0 ∨
      row.offset = -Word.signed (pane * row.stride : Nat) := by
    have confined := (confine_eq_ok.mp there).2
    omega
  rcases ends with lowest | zero | own
  · refine aligned_isSome wide (Nat.sub_lt nonempty Nat.one_pos) ?_
    rw [paneLeft, lowest, last]
    omega
  · refine aligned_isSome wide nonempty ?_
    rw [paneLeft, zero, Nat.zero_mul]
    rfl
  · refine aligned_isSome wide present ?_
    rw [paneLeft, own]
    omega

/-- A row within its range can go anywhere in it. -/
theorem Within.confine_ok (within : row.Within) (value : Int) :
    row.confine value = .ok (max row.lowest (min value 0)) :=
  confine_eq_ok.mpr ⟨Int.le_trans within.1 within.2, rfl⟩

end PaneRow

namespace Gesture

variable {gesture after : Gesture} {row moved : PaneRow}

@[simp] theorem forget_forget (gesture : Gesture) : gesture.forget.forget = gesture.forget := rfl

theorem target_eq_some_iff {pane : Nat} :
    gesture.target = some pane ↔ gesture.phase = .settling pane := by
  simp only [target]
  split <;> simp_all

theorem target_of_resting (resting : gesture.phase = .resting) : gesture.target = none := by
  simp only [target, resting]

/-- A gesture without a target that is not dragging rests. -/
theorem phase_eq_resting (still : gesture.isDragging = false) (untargeted : gesture.target = none) :
    gesture.phase = .resting := by
  cases phase : gesture.phase with
  | resting => rfl
  | dragging => simp [isDragging, phase] at still
  | settling target => simp [Gesture.target, phase] at untargeted

/-- A movement is taken while the row is dragged, and takes hold of it at rest if it may. Otherwise
only the velocity changes. -/
theorem drag_eq_ok {rule : PagingRule} {movement : Point} {time : Nat} {taken : Bool}
    (done : gesture.drag row rule movement time = .ok (taken, after, moved)) :
    (taken = true ∧ after.phase = .dragging ∧ row.moveBy (-movement.x) = .ok moved ∧
      (gesture.phase = .resting → takesHold row rule movement = .ok true) ∧
      ∀ target, gesture.phase ≠ .settling target) ∨
    (taken = false ∧ after.phase = gesture.phase ∧ moved = row ∧ gesture.phase ≠ .dragging ∧
      (gesture.phase = .resting → takesHold row rule movement = .ok false)) := by
  simp only [drag] at done
  cases phase : gesture.phase with
  | dragging =>
    simp only [phase, bind_eq_ok, pure_eq_ok] at done
    rcases done with ⟨_, displaced, result⟩
    cases result
    exact Or.inl ⟨rfl, phase, displaced, nofun, nofun⟩
  | settling target =>
    simp only [phase] at done
    cases done
    exact Or.inr ⟨rfl, phase, rfl, nofun, nofun⟩
  | resting =>
    simp only [phase, bind_eq_ok] at done
    rcases done with ⟨holds, asked, rest⟩
    cases holds with
    | true =>
      simp only [if_true, bind_eq_ok, pure_eq_ok] at rest
      rcases rest with ⟨_, displaced, result⟩
      cases result
      exact Or.inl ⟨rfl, rfl, displaced, fun _ => asked, nofun⟩
    | false =>
      cases rest
      exact Or.inr ⟨rfl, phase, rfl, nofun, fun _ => asked⟩

/-- Only a settling row moves with time, and it does so until it is aligned with its target. -/
theorem tick_eq_ok {elapsed : Nat} {progress : Progress}
    (done : gesture.tick row elapsed = .ok (progress, after, moved)) :
    (progress = .idle ∧ after = gesture ∧ moved = row ∧ gesture.target = none) ∨
    ∃ target offset, gesture.phase = .settling target ∧ row.offsetOf target = .ok offset ∧
      ((progress = .arrived target ∧ after.phase = .resting ∧ row.alignTo target = .ok moved ∧
          (offset - row.offset).natAbs ≤ gesture.stride elapsed) ∨
        (progress = .moving ∧ after.phase = .settling target ∧
          row.moveTo (row.offset + gesture.stride elapsed * (offset - row.offset).sign) =
            .ok moved ∧
          gesture.stride elapsed < (offset - row.offset).natAbs)) := by
  simp only [tick] at done
  cases phase : gesture.phase with
  | resting =>
    simp only [phase] at done
    cases done
    exact Or.inl ⟨rfl, rfl, rfl, by simp [target, phase]⟩
  | dragging =>
    simp only [phase] at done
    cases done
    exact Or.inl ⟨rfl, rfl, rfl, by simp [target, phase]⟩
  | settling target =>
    simp only [phase, bind_eq_ok] at done
    rcases done with ⟨offset, found, rest⟩
    refine Or.inr ⟨target, offset, rfl, found, ?_⟩
    split at rest
    · next near =>
      simp only [bind_eq_ok, pure_eq_ok] at rest
      rcases rest with ⟨_, aligned, result⟩
      cases result
      exact Or.inl ⟨rfl, rfl, aligned, near⟩
    · next far =>
      simp only [bind_eq_ok, pure_eq_ok] at rest
      rcases rest with ⟨_, displaced, result⟩
      cases result
      exact Or.inr ⟨rfl, rfl, displaced, by omega⟩

theorem shifted_of_tick {elapsed : Nat} {progress : Progress}
    (done : gesture.tick row elapsed = .ok (progress, after, moved)) : row.Shifted moved := by
  rcases tick_eq_ok done with ⟨-, -, rfl, -⟩ |
    ⟨target, offset, -, -, ⟨-, -, aligned, -⟩ | ⟨-, -, displaced, -⟩⟩
  · exact PaneRow.Shifted.refl moved
  · exact PaneRow.shifted_of_alignTo aligned
  · exact PaneRow.shifted_of_moveTo displaced

theorem sameSize_of_tick {elapsed : Nat} {progress : Progress}
    (done : gesture.tick row elapsed = .ok (progress, after, moved)) : row.SameSize moved :=
  (shifted_of_tick done).1

/-- The pane on which the row settles once the finger goes up: none if it rests on one, and
otherwise the nearest. -/
theorem release_target :
    (gesture.release row).target =
      if gesture.isDragging = false ∧ row.aligned.isSome = true then none else row.nearest := by
  simp only [release, Bool.and_eq_true, Bool.not_eq_true']
  split
  · rfl
  · cases row.nearest <;> rfl

theorem release_not_dragging : (gesture.release row).isDragging = false := by
  simp only [release]
  split
  · rfl
  · cases row.nearest <;> rfl

/-- A settling row travels at least one pixel with every tick. -/
theorem one_le_stride (elapsed : Nat) : 1 ≤ gesture.stride elapsed := Int.le_max_right _ _

end Gesture

end TabDeck
