import Mathlib.Logic.Relation
import TabDeck.Proofs.Motion
import TabDeck.Proofs.Operations

/-!
# What operations are made of

Most operations take a few moves in some order: the strip changes its look, a gesture goes on, the
row moves and the panes with it, or another tab becomes active. What every move respects is
respected by these operations, and only the others have to be looked at one by one.
-/

namespace TabDeck

namespace Deck

variable {μ σ : Type} [PaneHost σ]

/-- The moves that operations are made of. -/
inductive Move : Deck μ σ → Deck μ σ → Prop where
  /-- The strip looks different. -/
  | restyle {before after : Deck μ σ} (restyled : before.Restyled after) : Move before after
  /-- A gesture goes on or ends, and the row stays where it is. -/
  | adjust {before : Deck μ σ} (gesture : Gesture) (row : PaneRow) (pressed : Option Nat)
      (enabled : Bool) (size : before.row.SameSize row)
      (offset : row.offset = before.row.offset) :
      Move before { before with gesture, row, pressed, enabled }
  /-- The row moves, and the panes with it. -/
  | slide {before after : Deck μ σ} (gesture : Gesture) (row : PaneRow) (pressed : Option Nat)
      (size : before.row.SameSize row)
      (moved : { before with gesture, row, pressed }.moveAll = .ok after) : Move before after
  /-- A tab of the deck becomes active. -/
  | activate {before after : Deck μ σ} {index : Nat} {outcome : Outcome}
      (present : index < before.tabs.length)
      (activated : before.activate index = .ok (outcome, after)) : Move before after

/-- One move after the other. -/
def Moves (before after : Deck μ σ) : Prop := Relation.ReflTransGen Move before after

namespace Moves

theorem refl (deck : Deck μ σ) : deck.Moves deck := Relation.ReflTransGen.refl

theorem trans {first second third : Deck μ σ} (earlier : first.Moves second)
    (later : second.Moves third) : first.Moves third :=
  Relation.ReflTransGen.trans earlier later

/-- What composes and holds of every move holds of many. -/
theorem related {before after : Deck μ σ} {related : Deck μ σ → Deck μ σ → Prop}
    (moves : before.Moves after) (refl : ∀ deck, related deck deck)
    (trans : ∀ {first second third}, related first second → related second third →
      related first third)
    (each : ∀ {before after}, Move before after → related before after) :
    related before after := by
  induction moves with
  | refl => exact refl before
  | tail _ move ih => exact trans ih (each move)

end Moves

theorem Move.moves {before after : Deck μ σ} (move : Move before after) : before.Moves after :=
  Relation.ReflTransGen.single move

section Operations

variable {before after deck : Deck μ σ} {outcome : Outcome} {index : Nat}

theorem moves_of_switched (switched : before.Switched after) : before.Moves after := by
  rcases switched with rfl | ⟨index, outcome, present, -, activated⟩
  · exact Moves.refl after
  · exact (Move.activate present activated).moves

theorem moves_of_enableTab {enabled : Bool}
    (done : deck.enableTab index enabled = .ok (outcome, after)) : deck.Moves after := by
  rcases enableTab_eq_ok done with ⟨tabs, toggled, switched⟩
  have restyled := restyled_tabs (toggled fun _ _ => rfl)
  exact (Move.restyle restyled).moves.trans (moves_of_switched switched)

/-- The gesture, the press and the enabled flag are not seen by the row. -/
theorem moves_adjust (deck : Deck μ σ) (gesture : Gesture) (pressed : Option Nat)
    (enabled : Bool) : deck.Moves { deck with gesture, pressed, enabled } :=
  (Move.adjust gesture deck.row pressed enabled ⟨rfl, rfl, rfl⟩ rfl).moves

theorem moves_of_tick {elapsed : Nat} (done : deck.tick elapsed = .ok (outcome, after)) :
    deck.Moves after := by
  rcases tick_eq_ok done with ⟨progress, gesture, row, ticked, rest⟩
  have size := Gesture.sameSize_of_tick ticked
  cases progress with
  | idle =>
    rw [rest.1]
    exact Moves.refl deck
  | moving => exact (Move.slide gesture row deck.pressed size rest.1).moves
  | arrived target =>
    rcases rest with ⟨mid, selection, moved, selected, -⟩
    have slides := (Move.slide gesture row deck.pressed size moved).moves
    exact slides.trans (moves_of_switched (switched_of_select selected))

theorem moves_of_beginGesture (deck : Deck μ σ) (point : Point) :
    deck.Moves (deck.beginGesture point) := by
  cases flicks : deck.settings.flicks with
  | true =>
    rw [beginGesture_eq flicks]
    apply Move.moves
    apply Move.adjust
    · split <;> exact ⟨rfl, rfl, rfl⟩
    · split <;> rfl
  | false =>
    rw [beginGesture_eq_of_paged flicks]
    exact moves_adjust deck deck.gesture none deck.enabled

theorem moves_of_press {touch : Touch} (done : deck.press touch = .ok (outcome, after)) :
    deck.Moves after := by
  rcases press_eq_ok done with ⟨point, switched | ⟨index, rfl⟩⟩
  · exact (moves_of_beginGesture deck point).trans (moves_of_switched switched)
  · apply (moves_of_beginGesture deck point).trans
    exact moves_adjust _ _ (some index) _

theorem moves_of_drag {movement : Point} {time : Nat}
    (done : deck.drag movement time = .ok (outcome, after)) : deck.Moves after := by
  rcases drag_eq_ok done with ⟨-, rfl⟩ | ⟨active, taken, gesture, row, -, -, dragged, takes, leaves⟩
  · exact Moves.refl after
  · rcases Gesture.drag_eq_ok dragged with ⟨isTaken, -, moved, -⟩ | ⟨isLeft, -, rfl, -⟩
    · have size := PaneRow.sameSize_of_moveBy moved
      exact (Move.slide gesture row none size (takes isTaken)).moves
    · rw [leaves isLeft]
      exact moves_adjust deck gesture deck.pressed deck.enabled

theorem moves_of_release (done : deck.release = .ok (outcome, after)) : deck.Moves after := by
  rcases release_eq_ok done with ⟨mid, switched, -, settles, stays⟩
  have chosen : deck.Moves mid :=
    (moves_adjust deck deck.gesture none deck.enabled).trans (moves_of_switched switched)
  cases flicks : deck.settings.flicks with
  | true =>
    rw [settles flicks]
    exact chosen.trans (moves_adjust mid _ mid.pressed mid.enabled)
  | false =>
    rw [stays flicks]
    exact chosen

/-- Where the panes do not move when a gesture is called off, the row stays as well. -/
theorem moves_of_callOff {moved : Bool} (done : deck.callOff = .ok (moved, after)) :
    deck.Moves after := by
  rcases callOff_eq_ok done with ⟨moves, goes, stays⟩
  cases moved with
  | true =>
    exact (Move.slide deck.gesture.forget deck.row.goBack deck.pressed ⟨rfl, rfl, rfl⟩
      (goes rfl)).moves
  | false =>
    rw [stays rfl]
    have offset : deck.row.goBack.offset = deck.row.offset := by
      simpa [PaneRow.movedFrom] using moves
    exact (Move.adjust deck.gesture.forget deck.row.goBack deck.pressed deck.enabled
      ⟨rfl, rfl, rfl⟩ offset).moves

theorem moves_of_abandon (done : deck.abandon = .ok (outcome, after)) : deck.Moves after := by
  rcases abandon_eq_ok done with ⟨moved, calledOff⟩
  exact (moves_adjust deck deck.gesture none deck.enabled).trans (moves_of_callOff calledOff)

theorem moves_of_enable {enabled : Bool} (done : deck.enable enabled = .ok (outcome, after)) :
    deck.Moves after := by
  rcases enable_eq_ok done with rfl | ⟨mid, -, rfl, opens, closes⟩
  · exact Moves.refl after
  have unpressed := moves_adjust deck deck.gesture none enabled
  apply Moves.trans _ (Move.restyle (restyled_enableArrows mid enabled)).moves
  cases enabled with
  | true =>
    rw [opens rfl]
    exact unpressed
  | false =>
    rcases closes rfl with ⟨moved, calledOff⟩
    exact unpressed.trans (moves_of_callOff calledOff)

/-- How an action comes about: by moves alone, or by one of the operations that do more. -/
inductive Performs [FontMetrics μ] (before after : Deck μ σ) (action : Action) : Prop where
  | moves (moves : before.Moves after)
  | places (bounds : Rect) (outcome : Outcome) (same : action = .placeAt bounds)
      (done : before.placeAt bounds = .ok (outcome, after))
  | supplies (index : Nat) (handle : PaneId) (outcome : Outcome)
      (same : action = .supplyPane index handle)
      (done : before.supplyPane index handle = .ok (outcome, after))
  | relabels (captions : List Caption) (outcome : Outcome) (same : action = .relabel captions)
      (done : before.relabel captions = .ok (outcome, after))
  | focuses (event : KeyFocus.Event) (outcome : Outcome)
      (done : before.handleFocus event = .ok (outcome, after))

theorem performs_of_handle [FontMetrics μ] {event : Input}
    (done : deck.handle event = .ok (outcome, after)) : deck.Performs after (.input event) := by
  rcases handle_eq_ok done with ⟨-, rfl⟩ | ⟨-, handled⟩
  · exact .moves (Moves.refl after)
  · cases event with
    | press touch => exact .moves (moves_of_press handled)
    | drag touch movement time => exact .moves (moves_of_drag handled)
    | release touch => exact .moves (moves_of_release handled)
    | abandon => exact .moves (moves_of_abandon handled)
    | key direction => exact .focuses (.key direction) outcome handled
    | action => exact .focuses .action outcome handled
    | focus => exact .focuses .enter outcome handled

theorem performs_of_perform [FontMetrics μ] {action : Action} {answer : Answer}
    (done : deck.perform action = .ok (answer, after)) : deck.Performs after action := by
  cases action with
  | showIcons icons =>
    rcases acceptedOr_eq_ok.mp done with ⟨outcome, shown, -⟩ | ⟨_, -, rfl, -⟩
    · exact .moves (Move.restyle (restyled_of_showIcons shown)).moves
    · exact .moves (Moves.refl after)
  | relabel captions =>
    rcases acceptedOr_eq_ok.mp done with ⟨outcome, relabelled, -⟩ | ⟨_, -, rfl, -⟩
    · exact .relabels captions outcome rfl relabelled
    · exact .moves (Moves.refl after)
  | paintTab index colour =>
    cases done
    exact .moves (Move.restyle (restyled_paintTab deck index colour)).moves
  | usePalette palette =>
    cases done
    exact .moves (Move.restyle (restyled_usePalette deck palette)).moves
  | placeAt bounds =>
    rcases accepted_eq_ok.mp done with ⟨outcome, placed, -⟩
    exact .places bounds outcome rfl placed
  | select index =>
    rcases accepted_eq_ok.mp done with ⟨outcome, selected, -⟩
    exact .moves (moves_of_switched (switched_of_select selected))
  | enableTab index enabled =>
    rcases accepted_eq_ok.mp done with ⟨outcome, changed, -⟩
    exact .moves (moves_of_enableTab changed)
  | supplyPane index handle =>
    rcases accepted_eq_ok.mp done with ⟨outcome, supplied, -⟩
    exact .supplies index handle outcome rfl supplied
  | enable enabled =>
    rcases accepted_eq_ok.mp done with ⟨outcome, changed, -⟩
    exact .moves (moves_of_enable changed)
  | input event =>
    rcases accepted_eq_ok.mp done with ⟨outcome, handled, -⟩
    exact performs_of_handle handled
  | abandon =>
    rcases accepted_eq_ok.mp done with ⟨outcome, abandoned, -⟩
    exact .moves (moves_of_abandon abandoned)
  | reclaimFocus =>
    rcases accepted_eq_ok.mp done with ⟨outcome, reclaimed, -⟩
    exact .focuses .paneExhausted outcome reclaimed
  | tick elapsed =>
    rcases accepted_eq_ok.mp done with ⟨outcome, ticked, -⟩
    exact .moves (moves_of_tick ticked)

end Operations

end Deck

end TabDeck
