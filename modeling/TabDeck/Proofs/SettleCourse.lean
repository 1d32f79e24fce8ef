import TabDeck.Proofs.Settling

/-!
# The course of a settling row

However long the single steps of time are, a settling row takes the same course: it comes nearer to
its pane with every step, never passes it, and from its arrival on stays there. Since a step brings
it a pixel nearer at least, it arrives after as many steps as there are pixels, and one more.
-/

namespace TabDeck

namespace Gesture

/-- Lets time pass step by step, and gathers what comes of each step. -/
def tickAll (gesture : Gesture) (row : PaneRow) :
    List Nat → Except Fault (List (Progress × Gesture × PaneRow))
  | [] => .ok []
  | elapsed :: rest => do
    let (progress, gesture, row) ← gesture.tick row elapsed
    let states ← gesture.tickAll row rest
    return (progress, gesture, row) :: states

/-- What may come of the steps while a row settles on a pane whose offset is the goal. -/
inductive Course (target : Nat) (goal : Int) : PaneRow → List (Progress × Gesture × PaneRow) → Prop
  | start {row : PaneRow} : Course target goal row []
  | travels {row : PaneRow} {offset : Int} {after : Gesture}
      {rest : List (Progress × Gesture × PaneRow)}
      (approaches : PaneRow.Approaches goal row.offset offset)
      (settling : after.phase = .settling target)
      (later : Course target goal { row with offset } rest) :
      Course target goal row ((.moving, after, { row with offset }) :: rest)
  | arrives {row there : PaneRow} {after : Gesture} {rest : List (Progress × Gesture × PaneRow)}
      (resting : after.phase = .resting)
      (aligned : there = { row with offset := goal, remembered := goal })
      (idle : ∀ state ∈ rest, state = (.idle, after, there)) :
      Course target goal row ((.arrived target, after, there) :: rest)

section Courses

variable {gesture : Gesture} {row : PaneRow} {target : Nat} {goal : Int}

/-- The pixels to go bound the steps until the arrival. -/
theorem Course.arrives_within {states : List (Progress × Gesture × PaneRow)}
    (course : Course target goal row states)
    (enough : (goal - row.offset).natAbs < states.length) :
    ∃ index ≤ (goal - row.offset).natAbs, ∃ after moved,
      states[index]? = some (.arrived target, after, moved) := by
  induction course with
  | start => cases enough
  | travels approaches settling later ih =>
    have nearer := approaches.nearer
    rw [List.length_cons] at enough
    dsimp only at ih
    rcases ih (by omega) with ⟨index, soon, after, moved, arrived⟩
    exact ⟨index + 1, by omega, after, moved, arrived⟩
  | arrives resting aligned idle => exact ⟨0, Nat.zero_le _, _, _, rfl⟩

theorem tick_of_resting (resting : gesture.phase = .resting) (row : PaneRow) (elapsed : Nat) :
    gesture.tick row elapsed = .ok (.idle, gesture, row) := by
  simp only [tick, resting]

/-- Nothing comes of time while the gesture rests. -/
theorem tickAll_of_resting (resting : gesture.phase = .resting) (row : PaneRow)
    (times : List Nat) :
    ∃ states, gesture.tickAll row times = .ok states ∧ states.length = times.length ∧
      ∀ state ∈ states, state = (.idle, gesture, row) := by
  induction times with
  | nil => exact ⟨[], rfl, rfl, nofun⟩
  | cons elapsed rest ih =>
    rcases ih with ⟨states, passed, length, idle⟩
    refine ⟨(.idle, gesture, row) :: states, ?_, ?_, ?_⟩
    · simp only [tickAll, bind_eq_ok, pure_eq_ok]
      exact ⟨_, tick_of_resting resting row elapsed, states, passed, rfl⟩
    · simp [length]
    · simpa using idle

/-- Time takes a settling row along its course, and never breaks off. -/
theorem course_of_settling (confined : row.Confined) (settling : gesture.phase = .settling target)
    (found : row.offsetOf target = .ok goal) (times : List Nat) :
    ∃ states, gesture.tickAll row times = .ok states ∧ states.length = times.length ∧
      Course target goal row states := by
  induction times generalizing gesture row with
  | nil => exact ⟨[], rfl, rfl, .start⟩
  | cons elapsed rest ih =>
    rcases tick_of_settling confined settling found elapsed with
      ⟨after, offset, ticked, still, approaches⟩ | ⟨after, ticked, resting⟩
    · have inside := approaches.confined confined (PaneRow.bounds_of_confine found)
      rcases ih inside still found with ⟨states, passed, length, course⟩
      refine ⟨(.moving, after, { row with offset }) :: states, ?_, ?_, .travels approaches still
        course⟩
      · simp only [tickAll, bind_eq_ok, pure_eq_ok]
        exact ⟨_, ticked, states, passed, rfl⟩
      · simp [length]
    · rcases tickAll_of_resting resting { row with offset := goal, remembered := goal } rest with
        ⟨states, passed, length, idle⟩
      refine ⟨_ :: states, ?_, ?_, .arrives resting rfl idle⟩
      · simp only [tickAll, bind_eq_ok, pure_eq_ok]
        exact ⟨_, ticked, states, passed, rfl⟩
      · simp [length]

/-- A row that settles from an offset of its range approaches its pane step by step, without passing
it, and is aligned with it after as many steps as there are pixels to go, and one more. -/
theorem settling_arrives (lower : row.lowest ≤ row.offset) (upper : row.offset ≤ 0)
    (settling : gesture.phase = .settling target) :
    ∃ goal, row.offsetOf target = .ok goal ∧ ∀ times, ∃ states,
      gesture.tickAll row times = .ok states ∧ states.length = times.length ∧
      Course target goal row states ∧
      ((goal - row.offset).natAbs < times.length →
        ∃ index ≤ (goal - row.offset).natAbs, ∃ after moved,
          states[index]? = some (.arrived target, after, moved)) := by
  have found : row.offsetOf target =
      .ok (max row.lowest (min (-Word.signed (target * row.stride : Nat)) 0)) :=
    PaneRow.confine_eq_ok.mpr ⟨by omega, rfl⟩
  refine ⟨_, found, fun times => ?_⟩
  rcases course_of_settling ⟨lower, upper⟩ settling found times with
    ⟨states, passed, length, course⟩
  refine ⟨states, passed, length, course, fun enough => ?_⟩
  rw [← length] at enough
  exact course.arrives_within enough

end Courses

/-- Three panes of a hundred pixels, between the first one and the second. -/
def betweenPanes : PaneRow where
  offset := -30
  remembered := 0
  stride := 100
  viewport := 100
  count := 3
  stripWidth := 150

/-- Even when no time passes, the row arrives at the second pane after seventy pixels. -/
theorem arrives_without_time :
    ∃ states, Gesture.tickAll { phase := .settling 1 } betweenPanes (List.replicate 71 0) =
        .ok states ∧
      Course 1 (-100) betweenPanes states ∧
      ∃ index ≤ 70, ∃ after moved, states[index]? = some (.arrived 1, after, moved) := by
  have lower : betweenPanes.lowest ≤ betweenPanes.offset := by decide
  have upper : betweenPanes.offset ≤ 0 := by decide
  have settling : ({ phase := .settling 1 } : Gesture).phase = .settling 1 := rfl
  rcases settling_arrives lower upper settling with ⟨goal, found, arrives⟩
  have isGoal : betweenPanes.offsetOf 1 = .ok (-100) :=
    PaneRow.confine_eq_ok.mpr ⟨by decide, by decide⟩
  rw [isGoal, Except.ok.injEq] at found
  subst found
  rcases arrives (List.replicate 71 0) with ⟨states, passed, -, course, arrived⟩
  rw [List.length_replicate] at arrived
  exact ⟨states, passed, course, arrived (by decide)⟩

end Gesture

end TabDeck
