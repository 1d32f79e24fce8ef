import TabDeck.Proofs.Landing
import TabDeck.Proofs.Totality

/-!
# Drags in one direction

A host reports the way of a finger in as many movements as it takes note of. While the finger keeps
to one side, it does not matter how the way is divided. The first movement that leads anywhere takes
hold of the row or does not, and those after it ask the same question of the same row; once the row
is held, it is confined after every movement, which comes to the same as confining it once. So the
row, the phase and the pane on which the row will settle follow from the whole distance
(`Gesture.samples_add_up`).
-/

namespace TabDeck

/-! ## Rows carried along -/

namespace PaneRow

variable {row : PaneRow}

/-- The row after a finger carried it along: not beyond its range, and only if its strip
overflows. -/
def carried (row : PaneRow) (distance : Int) : PaneRow :=
  if row.overflows then
    { row with offset := max row.lowest (min (row.offset + distance) 0) }
  else row

theorem Confined.moveBy_neg (confined : row.Confined) (distance : Int) :
    row.moveBy (-distance) = .ok (row.carried distance) := by
  have roomy : row.lowest ≤ 0 := Int.le_trans confined.1 confined.2
  simp only [PaneRow.moveBy, carried]
  split
  · simp only [PaneRow.moveTo, confine_saturate, bind_eq_ok, pure_eq_ok]
    exact ⟨_, confine_eq_ok.mpr ⟨roomy, rfl⟩, by rw [Int.sub_neg]⟩
  · rfl

theorem Confined.carried_zero (confined : row.Confined) : row.carried 0 = row := by
  have here : max row.lowest (min (row.offset + 0) 0) = row.offset := by
    simp only [Confined] at confined
    omega
  simp only [carried, here, ite_self]

theorem Confined.carried (confined : row.Confined) (distance : Int) :
    (row.carried distance).Confined := by
  simp only [PaneRow.carried]
  split
  · have lowest : ({ row with offset := max row.lowest (min (row.offset + distance) 0) }
        : PaneRow).lowest = row.lowest := rfl
    simp only [Confined, lowest] at confined ⊢
    omega
  · exact confined

/-- Two ways to one side, one after the other, lead as far as both together. -/
theorem Confined.carried_carried (confined : row.Confined) {first second : Int}
    (oneSided : 0 ≤ first ∧ 0 ≤ second ∨ first ≤ 0 ∧ second ≤ 0) :
    (row.carried first).carried second = row.carried (first + second) := by
  cases overflows : row.overflows with
  | false => simp [PaneRow.carried, overflows]
  | true =>
    have still : ({ row with offset := max row.lowest (min (row.offset + first) 0) }
        : PaneRow).overflows = true := overflows
    have lowest : ({ row with offset := max row.lowest (min (row.offset + first) 0) }
        : PaneRow).lowest = row.lowest := rfl
    have meets : max row.lowest (min (max row.lowest (min (row.offset + first) 0) + second) 0) =
        max row.lowest (min (row.offset + (first + second)) 0) := by
      simp only [Confined] at confined
      omega
    simp only [PaneRow.carried, overflows, still, lowest, meets, if_true]

end PaneRow

/-! ## Level movements -/

theorem Direction.ofMovement?_level (distance : Int) :
    ofMovement? ⟨distance, 0⟩ =
      if distance = 0 then none else some (if distance < 0 then .left else .right) := by
  simp only [ofMovement?, and_true, Int.natAbs_zero]
  split
  · rfl
  · next moves => rw [if_pos (Int.natAbs_pos.mpr moves)]

namespace Gesture

variable {gesture : Gesture} {row : PaneRow} {rule : PagingRule} {samples : List Sample}

/-- Taking note of a movement does not change what the gesture is doing. -/
theorem phase_track (gesture : Gesture) (distance : Int) (time : Nat) :
    (gesture.track distance time).phase = gesture.phase := rfl

/-- A finger that does not move takes hold of nothing. -/
theorem takesHold_still (row : PaneRow) (rule : PagingRule) :
    takesHold row rule ⟨0, 0⟩ = .ok false := by
  simp [takesHold, Direction.ofMovement?_level]

/-- Of a level movement only the side matters. -/
theorem takesHold_level_congr (row : PaneRow) (rule : PagingRule) {first second : Int}
    (oneSided : 0 < first ∧ 0 < second ∨ first < 0 ∧ second < 0) :
    takesHold row rule ⟨first, 0⟩ = takesHold row rule ⟨second, 0⟩ := by
  have same : Direction.ofMovement? ⟨first, 0⟩ = Direction.ofMovement? ⟨second, 0⟩ := by
    simp only [Direction.ofMovement?_level]
    rcases oneSided with ⟨rightward, alsoRightward⟩ | ⟨leftward, alsoLeftward⟩
    · rw [if_neg (Int.ne_of_gt rightward), if_neg (Int.ne_of_gt alsoRightward),
        if_neg (Int.not_lt.mpr (Int.le_of_lt rightward)),
        if_neg (Int.not_lt.mpr (Int.le_of_lt alsoRightward))]
    · rw [if_neg (Int.ne_of_lt leftward), if_neg (Int.ne_of_lt alsoLeftward), if_pos leftward,
        if_pos alsoLeftward]
  simp only [takesHold, same]

/-- The movements are level, and no two of them lead to different sides. -/
structure OneWay (samples : List Sample) : Prop where
  level : ∀ sample ∈ samples, sample.movement.y = 0
  oneSided : (∀ sample ∈ samples, 0 ≤ sample.movement.x) ∨
    ∀ sample ∈ samples, sample.movement.x ≤ 0

/-- The distance that a finger covers sideways in all. -/
def distance (samples : List Sample) : Int :=
  samples.foldr (fun sample whole => sample.movement.x + whole) 0

@[simp] theorem distance_nil : distance [] = 0 := rfl

@[simp] theorem distance_cons (sample : Sample) (rest : List Sample) :
    distance (sample :: rest) = sample.movement.x + distance rest := List.foldr_cons ..

theorem OneWay.tail {sample : Sample} (oneWay : OneWay (sample :: samples)) : OneWay samples where
  level := fun other member => oneWay.level other (List.mem_cons_of_mem sample member)
  oneSided := oneWay.oneSided.imp
    (fun right other member => right other (List.mem_cons_of_mem sample member))
    fun left other member => left other (List.mem_cons_of_mem sample member)

theorem OneWay.movement_eq {sample : Sample} (oneWay : OneWay (sample :: samples)) :
    sample.movement = ⟨sample.movement.x, 0⟩ := by
  have level := oneWay.level sample List.mem_cons_self
  cases movement : sample.movement with
  | mk x y =>
    rw [movement] at level
    cases level
    rfl

theorem distance_nonneg (rightward : ∀ sample ∈ samples, 0 ≤ sample.movement.x) :
    0 ≤ distance samples := by
  induction samples with
  | nil => exact Int.le_refl 0
  | cons sample rest ih =>
    rw [distance_cons]
    exact Int.add_nonneg (rightward sample List.mem_cons_self)
      (ih fun other member => rightward other (List.mem_cons_of_mem sample member))

theorem distance_nonpos (leftward : ∀ sample ∈ samples, sample.movement.x ≤ 0) :
    distance samples ≤ 0 := by
  induction samples with
  | nil => exact Int.le_refl 0
  | cons sample rest ih =>
    rw [distance_cons]
    have here := leftward sample List.mem_cons_self
    have later := ih fun other member => leftward other (List.mem_cons_of_mem sample member)
    omega

/-- What is still to come leads to the same side. -/
theorem OneWay.side {sample : Sample} (oneWay : OneWay (sample :: samples)) :
    0 ≤ sample.movement.x ∧ 0 ≤ distance samples ∨
      sample.movement.x ≤ 0 ∧ distance samples ≤ 0 := by
  refine oneWay.oneSided.imp (fun rightward => ?_) fun leftward => ?_
  · exact ⟨rightward sample List.mem_cons_self,
      distance_nonneg fun other member => rightward other (List.mem_cons_of_mem sample member)⟩
  · exact ⟨leftward sample List.mem_cons_self,
      distance_nonpos fun other member => leftward other (List.mem_cons_of_mem sample member)⟩

/-! ## All movements of a drag -/

/-- A finger makes one movement after the other. -/
def dragAll (gesture : Gesture) (row : PaneRow) (rule : PagingRule) :
    List Sample → Except Fault (Gesture × PaneRow)
  | [] => .ok (gesture, row)
  | sample :: rest => do
    let (_, gesture, row) ← gesture.drag row rule sample.movement sample.time
    gesture.dragAll row rule rest

theorem dragAll_cons {sample : Sample} {taken : Bool} {next : Gesture} {moved : PaneRow}
    (dragged : gesture.drag row rule sample.movement sample.time = .ok (taken, next, moved)) :
    gesture.dragAll row rule (sample :: samples) = next.dragAll moved rule samples := by
  simp only [dragAll, dragged]
  rfl

/-- A row that is held follows the finger. -/
theorem dragAll_of_dragging (confined : row.Confined) (dragging : gesture.phase = .dragging)
    (rule : PagingRule) (oneWay : OneWay samples) :
    ∃ after, gesture.dragAll row rule samples = .ok (after, row.carried (distance samples)) ∧
      after.phase = .dragging := by
  induction samples generalizing gesture row with
  | nil => exact ⟨gesture, by rw [distance_nil, confined.carried_zero]; rfl, dragging⟩
  | cons sample rest ih =>
    have dragged : gesture.drag row rule sample.movement sample.time =
        .ok (true, gesture.track sample.movement.x sample.time,
          row.carried sample.movement.x) := by
      simp only [drag, dragging, confined.moveBy_neg]
      rfl
    have goesOn := (gesture.phase_track sample.movement.x sample.time).trans dragging
    rcases ih (confined.carried sample.movement.x) goesOn oneWay.tail with ⟨after, later, still⟩
    refine ⟨after, ?_, still⟩
    rw [dragAll_cons dragged, later, confined.carried_carried oneWay.side, distance_cons]

/-- A row that settles leaves the finger alone. -/
theorem dragAll_of_settling {target : Nat} (settling : gesture.phase = .settling target)
    (row : PaneRow) (samples : List Sample) :
    ∃ after, gesture.dragAll row rule samples = .ok (after, row) ∧
      after.phase = .settling target := by
  induction samples generalizing gesture with
  | nil => exact ⟨gesture, rfl, settling⟩
  | cons sample rest ih =>
    have dragged : gesture.drag row rule sample.movement sample.time =
        .ok (false, gesture.track sample.movement.x sample.time, row) := by
      simp only [drag, settling]
      rfl
    have goesOn := (gesture.phase_track sample.movement.x sample.time).trans settling
    rcases ih goesOn with ⟨after, later, still⟩
    exact ⟨after, by rw [dragAll_cons dragged, later], still⟩

/-- A row at rest is held from the first movement on that leads anywhere, or never. -/
theorem dragAll_of_resting (confined : row.Confined) (resting : gesture.phase = .resting)
    (oneWay : OneWay samples) {holds : Bool}
    (asked : takesHold row rule ⟨distance samples, 0⟩ = .ok holds) :
    ∃ after, gesture.dragAll row rule samples =
        .ok (after, if holds then row.carried (distance samples) else row) ∧
      after.phase = if holds then .dragging else .resting := by
  induction samples generalizing gesture with
  | nil =>
    rw [distance_nil, takesHold_still] at asked
    cases asked
    exact ⟨gesture, rfl, resting⟩
  | cons sample rest ih =>
    have side := oneWay.side
    have rests := (gesture.phase_track sample.movement.x sample.time).trans resting
    rw [distance_cons] at asked ⊢
    by_cases still : sample.movement.x = 0
    · have refused : takesHold row rule sample.movement = .ok false := by
        rw [oneWay.movement_eq, still]
        exact takesHold_still row rule
      have dragged : gesture.drag row rule sample.movement sample.time =
          .ok (false, gesture.track sample.movement.x sample.time, row) := by
        simp only [drag, resting, refused]
        rfl
      rw [still, Int.zero_add] at asked ⊢
      rcases ih rests oneWay.tail asked with ⟨after, later, phase⟩
      exact ⟨after, by rw [dragAll_cons dragged, later], phase⟩
    · have same : takesHold row rule sample.movement = .ok holds := by
        rw [oneWay.movement_eq, ← asked]
        exact takesHold_level_congr row rule (by omega)
      cases holds with
      | true =>
        have dragged : gesture.drag row rule sample.movement sample.time =
            .ok (true, { gesture.track sample.movement.x sample.time with phase := .dragging },
              row.carried sample.movement.x) := by
          simp only [drag, resting, same, confined.moveBy_neg]
          rfl
        have holding : ({ gesture.track sample.movement.x sample.time with phase := .dragging }
            : Gesture).phase = .dragging := rfl
        rcases dragAll_of_dragging (confined.carried sample.movement.x) holding rule
          oneWay.tail with ⟨after, later, phase⟩
        refine ⟨after, ?_, phase⟩
        rw [dragAll_cons dragged, later, confined.carried_carried side]
        rfl
      | false =>
        have dragged : gesture.drag row rule sample.movement sample.time =
            .ok (false, gesture.track sample.movement.x sample.time, row) := by
          simp only [drag, resting, same]
          rfl
        have refused : takesHold row rule ⟨distance rest, 0⟩ = .ok false := by
          by_cases nowhere : distance rest = 0
          · rw [nowhere]
            exact takesHold_still row rule
          · rw [← asked]
            exact takesHold_level_congr row rule (by omega)
        rcases ih rests oneWay.tail refused with ⟨after, later, phase⟩
        exact ⟨after, by rw [dragAll_cons dragged, later]; rfl, phase⟩

/-- What a finger does on its way to one side follows from the distance. -/
theorem dragAll_total (confined : row.Confined) (present : rule.active < rule.blocked.length)
    (gesture : Gesture) (whole : Int) :
    ∃ phase moved, ∀ samples, OneWay samples → distance samples = whole →
      ∃ after, gesture.dragAll row rule samples = .ok (after, moved) ∧ after.phase = phase := by
  cases phase : gesture.phase with
  | dragging =>
    refine ⟨.dragging, row.carried whole, ?_⟩
    rintro samples oneWay rfl
    exact dragAll_of_dragging confined phase rule oneWay
  | settling target =>
    exact ⟨.settling target, row, fun samples _ _ => dragAll_of_settling phase row samples⟩
  | resting =>
    rcases takesHold_total present row ⟨whole, 0⟩ with ⟨holds, asked⟩
    refine ⟨if holds then .dragging else .resting, if holds then row.carried whole else row, ?_⟩
    rintro samples oneWay rfl
    exact dragAll_of_resting confined phase oneWay asked

theorem release_target_congr {other : Gesture} (same : gesture.phase = other.phase)
    (row : PaneRow) : (gesture.release row).target = (other.release row).target := by
  have dragging : gesture.isDragging = other.isDragging := by
    simp only [isDragging, same]
  rw [release_target, release_target, dragging]

/-- Two ways to one side and of one length have the same effect on the row and on the phase, and
lead to the same pane once the finger goes up. -/
theorem samples_add_up (confined : row.Confined) (present : rule.active < rule.blocked.length)
    {first second : List Sample} (oneWay : OneWay first) (alsoOneWay : OneWay second)
    (same : distance first = distance second) (gesture : Gesture) :
    ∃ after other moved, gesture.dragAll row rule first = .ok (after, moved) ∧
      gesture.dragAll row rule second = .ok (other, moved) ∧ after.phase = other.phase ∧
      (after.release moved).target = (other.release moved).target := by
  rcases dragAll_total confined present gesture (distance second) with ⟨phase, moved, swept⟩
  rcases swept first oneWay same with ⟨after, dragged, afterPhase⟩
  rcases swept second alsoOneWay rfl with ⟨other, alsoDragged, otherPhase⟩
  have phases : after.phase = other.phase := afterPhase.trans otherPhase.symm
  exact ⟨after, other, moved, dragged, alsoDragged, phases, release_target_congr phases moved⟩

/-- Three panes of a hundred pixels, at rest on the second one. -/
def onSecondPane : PaneRow where
  offset := -100
  remembered := -100
  stride := 100
  viewport := 100
  count := 3
  stripWidth := 150

/-- The second of three tabs is active, and all take input. -/
def amongOpenTabs : PagingRule := ⟨1, [false, false, false], false⟩

/-- Whether the way into the end of the row is reported in two parts or at once, the row stops at
the third pane and will settle there. -/
theorem samples_add_up_into_the_end :
    ∃ after other moved,
      dragAll {} onSecondPane amongOpenTabs
        [⟨⟨150, 50⟩, ⟨-40, 0⟩, 0⟩, ⟨⟨110, 50⟩, ⟨-90, 0⟩, 16⟩] = .ok (after, moved) ∧
      dragAll {} onSecondPane amongOpenTabs [⟨⟨150, 50⟩, ⟨-130, 0⟩, 5⟩] = .ok (other, moved) ∧
      moved.offset = -200 ∧ after.phase = other.phase ∧
      (after.release moved).target = (other.release moved).target := by
  have confined : onSecondPane.Confined := ⟨by decide, by decide⟩
  have present : amongOpenTabs.active < amongOpenTabs.blocked.length := by decide
  have oneWay : OneWay [⟨⟨150, 50⟩, ⟨-40, 0⟩, 0⟩, ⟨⟨110, 50⟩, ⟨-90, 0⟩, 16⟩] :=
    ⟨by decide, Or.inr (by decide)⟩
  have alsoOneWay : OneWay [⟨⟨150, 50⟩, ⟨-130, 0⟩, 5⟩] := ⟨by decide, Or.inr (by decide)⟩
  rcases samples_add_up confined present oneWay alsoOneWay rfl {} with
    ⟨after, other, moved, dragged, alsoDragged, phases, targets⟩
  obtain ⟨swept, stopped⟩ : ∃ swept : Gesture,
      dragAll {} onSecondPane amongOpenTabs [⟨⟨150, 50⟩, ⟨-130, 0⟩, 5⟩] =
        .ok (swept, { onSecondPane with offset := -200 }) := ⟨_, rfl⟩
  have ends : moved.offset = -200 := by
    rw [stopped, Except.ok.injEq, Prod.mk.injEq] at alsoDragged
    rw [← alsoDragged.2]
  exact ⟨after, other, moved, dragged, alsoDragged, ends, phases, targets⟩

end Gesture

end TabDeck
