import TabDeck.Proofs.Totality

/-!
# Rows of panes by themselves

A row may be resized to other panes and another viewport, moved, aligned and called off in any
order. If the left edges of all panes always fit the coordinates, then none of this breaks off, and
after each operation both offsets lie in the range of that moment, although the range changes with
the size and the offsets are confined one operation at a time (`PaneRow.offsets_stay_in_range`). The
invariant is that the panes lie side by side and within the coordinates, so that every range is that
of a fresh row.
-/

namespace TabDeck

namespace PaneRow

/-- What can be done with a row. -/
inductive Operation where
  /-- Takes on new dimensions. -/
  | resize (count viewport stripWidth : Nat)
  /-- Takes on another width of the strip. -/
  | withStripWidth (stripWidth : Nat)
  | moveBy (distance : Int)
  | moveTo (offset : Int)
  | alignTo (pane : Nat)
  /-- A gesture begins, or its movement is accepted. -/
  | remember
  | goBack
  deriving DecidableEq, Repr

namespace Operation

/-- The operation answers whether the row moved. -/
def answers : Operation → Bool
  | moveBy _ | moveTo _ | goBack => true
  | resize _ _ _ | withStripWidth _ | alignTo _ | remember => false

/-- The left edges of all panes fit the coordinates afterwards. -/
def Roomy : Operation → Prop
  | resize count viewport _ => (((count - 1) * viewport : Nat) : Int) ≤ Word.maxSigned
  | withStripWidth _ | moveBy _ | moveTo _ | alignTo _ | remember | goBack => True

end Operation

/-- Does an operation. A row whose strip fits answers that it does not follow a finger. -/
def perform (row : PaneRow) : Operation → Except Fault (Option Bool × PaneRow)
  | .resize count viewport stripWidth => do
    return (none, ← row.resize count viewport stripWidth)
  | .withStripWidth stripWidth => .ok (none, row.withStripWidth stripWidth)
  | .moveBy distance =>
    if row.overflows then do
      let after ← row.moveBy distance
      return (some (after.movedFrom row), after)
    else .ok (some false, row)
  | .moveTo offset => do
    let after ← row.moveTo offset
    return (some (after.movedFrom row), after)
  | .alignTo pane => do return (none, ← row.alignTo pane)
  | .remember => .ok (none, row.remember)
  | .goBack => .ok (some (row.goBack.movedFrom row), row.goBack)

/-- Does one operation after the other. -/
def performAll (row : PaneRow) : List Operation → Except Fault PaneRow
  | [] => .ok row
  | operation :: rest => do
    let (_, row) ← row.perform operation
    row.performAll rest

variable {row after : PaneRow} {operation : Operation} {operations : List Operation}

/-- The panes lie side by side within the coordinates, and both offsets are in their range. -/
structure Orderly (row : PaneRow) : Prop extends row.Within where
  sideBySide : row.stride = row.viewport
  reach : (((row.count - 1) * row.stride : Nat) : Int) ≤ Word.maxSigned

theorem Orderly.sameSize (orderly : row.Orderly) (size : row.SameSize after)
    (within : after.Within) : after.Orderly where
  toWithin := within
  sideBySide := by
    rw [size.2.1, size.2.2]
    exact orderly.sideBySide
  reach := by
    rw [size.1, size.2.1]
    exact orderly.reach

theorem orderly_ofPanes {count viewport : Nat}
    (reach : (((count - 1) * viewport : Nat) : Int) ≤ Word.maxSigned) :
    (ofPanes count viewport).Orderly where
  lowest_le_offset := lowest_ofPanes reach
  offset_le_zero := Int.le_refl 0
  lowest_le_remembered := lowest_ofPanes reach
  remembered_le_zero := Int.le_refl 0
  sideBySide := rfl
  reach := reach

theorem orderly_of_resize {count viewport stripWidth : Nat}
    (reach : (((count - 1) * viewport : Nat) : Int) ≤ Word.maxSigned)
    (done : row.resize count viewport stripWidth = .ok after) : after.Orderly := by
  have within := within_of_resize done
  rcases resize_eq_ok done with ⟨offset, remembered, rfl, -, -⟩
  exact ⟨within, rfl, reach⟩

/-- A pane that is there is brought to the left edge of the viewport. -/
theorem Orderly.paneLeft_of_alignTo (orderly : row.Orderly) {pane : Nat}
    (present : pane < row.count) (done : row.alignTo pane = .ok after) :
    after.paneLeft pane = 0 := by
  have fits : row.Fits := ⟨Nat.zero_lt_of_lt present, orderly.sideBySide, orderly.reach⟩
  rcases alignTo_eq_ok done with ⟨offset, found, rfl⟩
  rw [fits.offsetOf_eq present] at found
  cases found
  simp only [paneLeft, fits.signed_edge present]
  omega

/-- What an operation leaves behind. -/
structure Operation.Result (operation : Operation) (row : PaneRow) (answer : Option Bool)
    (after : PaneRow) : Prop where
  within : after.Within
  /-- A movement is reported exactly if the offset is another one. -/
  reported : operation.answers = true →
    ∃ moved, answer = some moved ∧ (moved = true ↔ after.offset ≠ row.offset)
  aligned : ∀ pane, operation = .alignTo pane → pane < row.count → after.paneLeft pane = 0

theorem movedFrom_iff : after.movedFrom row = true ↔ after.offset ≠ row.offset := bne_iff_ne

theorem Orderly.perform (orderly : row.Orderly) (roomy : operation.Roomy) :
    ∃ answer after, row.perform operation = .ok (answer, after) ∧ after.Orderly ∧
      operation.Result row answer after := by
  have within := orderly.toWithin
  cases operation with
  | resize count viewport stripWidth =>
    rcases (row.resize_total_iff count viewport stripWidth).mpr (lowest_ofPanes roomy) with
      ⟨after, done⟩
    have resized := orderly_of_resize roomy done
    refine ⟨none, after, ?_, resized, resized.toWithin, nofun, nofun⟩
    exact bind_eq_ok.mpr ⟨after, done, rfl⟩
  | withStripWidth stripWidth =>
    have kept := within.withStripWidth stripWidth
    exact ⟨none, _, rfl, orderly.sameSize ⟨rfl, rfl, rfl⟩ kept, kept, nofun, nofun⟩
  | moveBy distance =>
    cases overflows : row.overflows with
    | true =>
      rcases within.moveBy_total distance with ⟨after, done⟩
      have kept := within.moveBy done
      refine ⟨some (after.movedFrom row), after, ?_,
        orderly.sameSize (sameSize_of_moveBy done) kept, kept,
        fun _ => ⟨_, rfl, movedFrom_iff⟩, nofun⟩
      simp only [PaneRow.perform, overflows, if_true]
      exact bind_eq_ok.mpr ⟨after, done, rfl⟩
    | false =>
      refine ⟨some false, row, ?_, orderly, within, fun _ => ⟨false, rfl, ?_⟩, nofun⟩
      · simp only [PaneRow.perform, overflows, Bool.false_eq_true, if_false]
      · simp
  | moveTo offset =>
    rcases within.moveTo_total offset with ⟨after, done⟩
    have kept := within.moveTo done
    refine ⟨some (after.movedFrom row), after, ?_,
      orderly.sameSize (sameSize_of_moveTo done) kept, kept,
      fun _ => ⟨_, rfl, movedFrom_iff⟩, nofun⟩
    exact bind_eq_ok.mpr ⟨after, done, rfl⟩
  | alignTo pane =>
    rcases within.alignTo_total pane with ⟨after, done⟩
    have kept := within_of_alignTo done
    refine ⟨none, after, ?_, orderly.sameSize (sameSize_of_alignTo done) kept, kept, nofun, ?_⟩
    · exact bind_eq_ok.mpr ⟨after, done, rfl⟩
    · rintro _ ⟨⟩ present
      exact orderly.paneLeft_of_alignTo present done
  | remember =>
    have kept := within.remember
    exact ⟨none, _, rfl, orderly.sameSize ⟨rfl, rfl, rfl⟩ kept, kept, nofun, nofun⟩
  | goBack =>
    have kept := within.goBack
    exact ⟨_, _, rfl, orderly.sameSize ⟨rfl, rfl, rfl⟩ kept, kept,
      fun _ => ⟨_, rfl, movedFrom_iff⟩, nofun⟩

theorem Orderly.performAll (orderly : row.Orderly)
    (roomy : ∀ operation ∈ operations, operation.Roomy) :
    ∃ after, row.performAll operations = .ok after ∧ after.Orderly := by
  induction operations generalizing row with
  | nil => exact ⟨row, rfl, orderly⟩
  | cons operation rest ih =>
    rcases orderly.perform (roomy operation List.mem_cons_self) with
      ⟨answer, next, done, nextOrderly, -⟩
    rcases ih nextOrderly fun later member => roomy later (List.mem_cons_of_mem operation member)
      with ⟨after, continued, afterOrderly⟩
    exact ⟨after, bind_eq_ok.mpr ⟨_, done, continued⟩, afterOrderly⟩

/-- Whatever was done with a row before, and whatever is done next: nothing breaks off, both offsets
are in the range before and after, a movement is reported exactly if there was one, and a row that
is aligned with one of its panes has it at the left edge of the viewport. -/
theorem offsets_stay_in_range {panes width : Nat}
    (reach : (((panes - 1) * width : Nat) : Int) ≤ Word.maxSigned) (earlier : List Operation)
    (operation : Operation) (roomy : ∀ done ∈ earlier ++ [operation], done.Roomy) :
    ∃ row answer after, (ofPanes panes width).performAll earlier = .ok row ∧ row.Within ∧
      row.perform operation = .ok (answer, after) ∧ operation.Result row answer after := by
  rcases (orderly_ofPanes reach).performAll fun done member =>
    roomy done (List.mem_append_left _ member) with ⟨row, reached, orderly⟩
  rcases orderly.perform (roomy operation (by simp)) with ⟨answer, after, done, -, result⟩
  exact ⟨row, answer, after, reached, orderly.toWithin, done, result⟩

/-- A row of three panes is dragged to its end, loses one pane, and is aligned with the last one
that is left. -/
theorem offsets_stay_in_range_of_fewer_panes :
    ∃ row answer after, (ofPanes 3 100).performAll
        [.withStripWidth 150, .moveBy 250, .remember, .resize 2 40 150] = .ok row ∧ row.Within ∧
      row.perform (.alignTo 1) = .ok (answer, after) ∧
      (Operation.alignTo 1).Result row answer after := by
  apply offsets_stay_in_range (by decide)
  simp [Operation.Roomy, Word.maxSigned]

end PaneRow

end TabDeck
