import TabDeck.Proofs.Totality

/-!
# Who owns a drag

While a finger stays down its movements may be left to others many times: they go up or down, the
strip does not overflow, the neighbouring tab is closed. Such a movement leaves nothing behind but a
trace in the velocity. The first one that the panes take puts the gesture into its dragging phase,
and nothing that happens before the finger goes up ends that phase, so that no later movement is
given back to others in the middle of a drag.
-/

namespace TabDeck

/-- What may happen while a finger stays down: it moves, or time passes. -/
inductive Action.StaysDown : Action → Prop where
  | drag (touch : Touch) (movement : Point) (time : Nat) :
      StaysDown (.input (.drag touch movement time))
  | tick (elapsed : Nat) : StaysDown (.tick elapsed)

/-- A movement that is not taken goes into the velocity, and nowhere else. -/
theorem Gesture.track_of_drag {gesture after : Gesture} {row moved : PaneRow} {rule : PagingRule}
    {movement : Point} {time : Nat}
    (done : gesture.drag row rule movement time = .ok (false, after, moved)) :
    after = gesture.track movement.x time := by
  simp only [drag] at done
  split at done
  · simp only [bind_eq_ok, pure_eq_ok] at done
    rcases done with ⟨_, -, impossible⟩
    cases impossible
  · cases done
    rfl
  · rw [bind_eq_ok] at done
    rcases done with ⟨holds, -, rest⟩
    cases holds with
    | true =>
      simp only [if_true, bind_eq_ok, pure_eq_ok] at rest
      rcases rest with ⟨_, -, impossible⟩
      cases impossible
    | false =>
      cases rest
      rfl

namespace Deck

variable {μ σ : Type}

/-- Whether an event is used up. -/
def consumed : Answer → Bool
  | .ok outcome => outcome.consumed
  | .error _ => false

/-- For each movement of a finger, in order, whether it was used up. -/
def dragsTaken : List Action → List Answer → List Bool
  | .input (.drag ..) :: actions, answer :: answers =>
    consumed answer :: dragsTaken actions answers
  | _ :: actions, _ :: answers => dragsTaken actions answers
  | _, _ => []

/-- The row, the tabs and the panes are as they were, and nothing was asked of the host. -/
structure Untouched (before after : Deck μ σ) : Prop where
  offset : after.row.offset = before.row.offset
  remembered : after.row.remembered = before.row.remembered
  active : after.active = before.active
  pressed : after.pressed = before.pressed
  places : ∀ index, after.paneBounds index = before.paneBounds index
  unasked : after.link = before.link
  /-- At most the velocity took note of something. -/
  otherwise : ∃ velocity lastTime,
    after = { before with gesture := { before.gesture with velocity, lastTime } }

/-- The panes follow the finger. -/
structure Held (deck : Deck μ σ) : Prop where
  enabled : deck.enabled = true
  flicks : deck.settings.flicks = true
  active : deck.active.isSome = true
  dragging : deck.gesture.phase = .dragging

theorem Untouched.refl (deck : Deck μ σ) : deck.Untouched deck :=
  ⟨rfl, rfl, rfl, rfl, fun _ => rfl, rfl, deck.gesture.velocity, deck.gesture.lastTime, rfl⟩

theorem untouched_track (deck : Deck μ σ) (distance : Int) (time : Nat) :
    deck.Untouched { deck with gesture := deck.gesture.track distance time } :=
  ⟨rfl, rfl, rfl, rfl, fun _ => rfl, rfl, _, _, rfl⟩

theorem Held.served {before after : Deck μ σ} (held : before.Held) (served : before.Served after) :
    after.Held := by
  rcases served with ⟨link, tabs, rfl, -⟩
  exact ⟨held.enabled, held.flicks, held.active, held.dragging⟩

section Steps

variable [PaneHost σ] {deck after : Deck μ σ} {outcome : Outcome} {movement : Point} {time : Nat}

/-- A movement is used up exactly if the gesture took it. -/
theorem consumed_of_drag (done : deck.drag movement time = .ok (outcome, after)) :
    (deck.settings.flicks = false ∨ deck.active = none → outcome.consumed = false) ∧
      ∀ {active taken gesture row}, deck.settings.flicks = true → deck.active = some active →
        deck.gesture.drag deck.row (deck.pagingRule active) movement time =
          .ok (taken, gesture, row) → outcome.consumed = taken := by
  simp only [drag] at done
  split at done
  · next paged =>
    cases done
    simp [Outcome.nothing, Settings.flicks, paged]
  · next inactive _ =>
    cases done
    simp [Outcome.nothing, inactive]
  · next active mode isActive =>
    simp only [bind_eq_ok] at done
    rcases done with ⟨⟨taken, gesture, row⟩, dragged, done⟩
    have used : outcome.consumed = taken := by
      cases taken with
      | true =>
        simp only [if_true, bind_eq_ok] at done
        rcases done with ⟨mid, -, result⟩
        cases result
        rfl
      | false =>
        cases done
        rfl
    constructor
    · intro idle
      simp [Settings.flicks, mode, isActive] at idle
    · intro other _ _ _ _ isOther draggedAlso
      rw [isActive] at isOther
      cases isOther
      rw [pagingRule, dragged] at draggedAlso
      cases draggedAlso
      exact used

/-- A movement that the panes do not take leaves a trace in the velocity only, and one that they
take makes them follow the finger. -/
theorem drag_cases (enabled : deck.enabled = true)
    (done : deck.drag movement time = .ok (outcome, after)) :
    (outcome.consumed = false ∧ deck.Untouched after) ∨
      (outcome.consumed = true ∧ after.Held) := by
  have uses := consumed_of_drag done
  rcases drag_eq_ok done with ⟨idle, rfl⟩ |
    ⟨active, taken, gesture, row, flicks, isActive, dragged, takes, leaves⟩
  · exact Or.inl ⟨uses.1 idle, Untouched.refl after⟩
  · have used := uses.2 flicks isActive dragged
    rcases Gesture.drag_eq_ok dragged with ⟨rfl, dragging, -⟩ | ⟨rfl, -, rfl, -⟩
    · right
      refine ⟨used, ?_⟩
      have held : Held { deck with gesture, row, pressed := none } :=
        ⟨enabled, flicks, by rw [isActive, Option.isSome_some], dragging⟩
      exact held.served (served_of_moveAll (takes rfl))
    · left
      refine ⟨used, ?_⟩
      rw [leaves rfl, Gesture.track_of_drag dragged]
      exact untouched_track deck movement.x time

/-- While the panes follow the finger they take every movement. -/
theorem Held.drag (held : deck.Held) (done : deck.drag movement time = .ok (outcome, after)) :
    outcome.consumed = true ∧ after.Held := by
  rcases drag_cases held.enabled done with ⟨unused, -⟩ | taken
  · rcases Option.isSome_iff_exists.mp held.active with ⟨active, isActive⟩
    rcases drag_eq_ok done with ⟨idle, -⟩ |
      ⟨active, taken, gesture, row, flicks, isActive, dragged, -⟩
    · simp [held.flicks, isActive] at idle
    · rw [(consumed_of_drag done).2 flicks isActive dragged] at unused
      rcases Gesture.drag_eq_ok dragged with ⟨rfl, -⟩ | ⟨-, -, -, apart, -⟩
      · cases unused
      · exact absurd held.dragging apart
  · exact taken

/-- Time changes nothing while the panes follow the finger. -/
theorem Held.tick {elapsed : Nat} (held : deck.Held)
    (done : deck.tick elapsed = .ok (outcome, after)) : after = deck := by
  rcases tick_eq_ok done with ⟨progress, gesture, row, ticked, rest⟩
  rcases Gesture.tick_eq_ok ticked with ⟨rfl, -⟩ | ⟨target, -, settling, -⟩
  · exact rest.1
  · rw [held.dragging] at settling
    cases settling

variable [FontMetrics μ] {touch : Touch} {action : Action} {actions : List Action}
  {answer : Answer} {answers : List Answer}

/-- A movement that is used up makes the panes follow the finger, and one that is not leaves
everything untouched. -/
theorem perform_drag_cases
    (done : deck.perform (.input (.drag touch movement time)) = .ok (answer, after)) :
    (consumed answer = false ∧ deck.Untouched after) ∨ (consumed answer = true ∧ after.Held) := by
  rcases accepted_eq_ok.mp done with ⟨outcome, handled, rfl⟩
  rcases handle_eq_ok handled with ⟨disabled, rfl⟩ | ⟨enabled, dragged⟩
  · simp only [handle, disabled] at handled
    cases handled
    exact Or.inl ⟨rfl, Untouched.refl after⟩
  · exact drag_cases enabled dragged

theorem Held.perform_drag (held : deck.Held)
    (done : deck.perform (.input (.drag touch movement time)) = .ok (answer, after)) :
    consumed answer = true ∧ after.Held := by
  rcases accepted_eq_ok.mp done with ⟨outcome, handled, rfl⟩
  rcases handle_eq_ok handled with ⟨disabled, -⟩ | ⟨-, dragged⟩
  · rw [held.enabled] at disabled
    cases disabled
  · exact held.drag dragged

theorem Held.perform_tick {elapsed : Nat} (held : deck.Held)
    (done : deck.perform (.tick elapsed) = .ok (answer, after)) : after.Held := by
  rcases accepted_eq_ok.mp done with ⟨outcome, ticked, -⟩
  rw [held.tick ticked]
  exact held

/-- Once the panes follow the finger, every movement is used up until the finger goes up. -/
theorem Held.run (held : deck.Held) (down : ∀ action ∈ actions, action.StaysDown)
    (ran : deck.run actions = .ok (answers, after)) :
    ∀ taken ∈ dragsTaken actions answers, taken = true := by
  induction actions generalizing deck answers with
  | nil => simp [dragsTaken]
  | cons action rest ih =>
    rcases run_cons_eq_ok.mp ran with ⟨answer, middle, later, performed, ranLater, rfl⟩
    rcases List.forall_mem_cons.mp down with ⟨isDown, downLater⟩
    cases isDown with
    | drag touch movement time =>
      rcases held.perform_drag performed with ⟨used, heldNext⟩
      intro taken member
      rcases List.mem_cons.mp member with rfl | member
      · exact used
      · exact ih heldNext downLater ranLater taken member
    | tick elapsed => exact ih (held.perform_tick performed) downLater ranLater

/-- Whatever is done with a deck while a finger stays down, once a movement was used up all later
ones are. -/
theorem pairwise_dragsTaken (down : ∀ action ∈ actions, action.StaysDown)
    (ran : deck.run actions = .ok (answers, after)) :
    (dragsTaken actions answers).Pairwise fun first second => first = true → second = true := by
  induction actions generalizing deck answers with
  | nil => simp [dragsTaken]
  | cons action rest ih =>
    rcases run_cons_eq_ok.mp ran with ⟨answer, middle, later, performed, ranLater, rfl⟩
    rcases List.forall_mem_cons.mp down with ⟨isDown, downLater⟩
    cases isDown with
    | drag touch movement time =>
      apply List.Pairwise.cons _ (ih downLater ranLater)
      intro taken member used
      rcases perform_drag_cases performed with ⟨unused, -⟩ | ⟨-, held⟩
      · rw [unused] at used
        cases used
      · exact held.run downLater ranLater taken member
    | tick elapsed => exact ih downLater ranLater

variable {capacity : Nat} {captions : List Caption} {metrics : μ} {host : σ} {settings : Settings}
  {start : Deck μ σ} {earlier steps : List Action}

/-- A finger comes down on a deck, enabled or not and whatever was done with it before, and then
moves in any way and stays down. All of it is answered. Once a movement is used up every later one
is, and every movement that is not leaves the offsets, the tabs and the place of all panes untouched
and asks nothing of the host. -/
theorem drags_stay_owned
    (made : ofCaptions capacity captions metrics host settings = .ok start)
    (reached : start.Reaches earlier deck) (touch : Touch)
    (down : ∀ action ∈ steps, action.StaysDown) :
    ∃ answer begun answers last,
      deck.perform (.input (.press touch)) = .ok (answer, begun) ∧
      begun.run steps = .ok (answers, last) ∧
      ((dragsTaken steps answers).Pairwise fun first second => first = true → second = true) ∧
      ∀ before place movement time, before ++ [.input (.drag place movement time)] <+: steps →
        ∀ held, begun.Reaches before held → ∃ outcome after,
          held.perform (.input (.drag place movement time)) = .ok (.ok outcome, after) ∧
          (outcome.consumed = false → held.Untouched after) := by
  have sound := reached.sound (sound_ofCaptions made)
  have unplaced : ∀ bounds, .placeAt bounds ∈ .input (.press touch) :: steps →
      (((deck.tabs.length - 1) * bounds.size.width : Nat) : Int) ≤ Word.maxSigned := by
    intro bounds member
    rcases List.mem_cons.mp member with impossible | member
    · cases impossible
    · cases down _ member
  rcases sound.run_total unplaced with ⟨last, _, ran⟩
  rcases run_cons_eq_ok.mp ran with ⟨answer, begun, answers, pressed, ranLater, -⟩
  refine ⟨answer, begun, answers, last, pressed, ranLater, pairwise_dragsTaken down ranLater, ?_⟩
  intro before place movement time within held reachedHeld
  have soundHeld := reachedHeld.sound (sound.perform pressed)
  have answers : ∃ result, held.perform (.input (.drag place movement time)) = .ok result :=
    soundHeld.coherent.perform_total soundHeld.tabsPlaced nofun
  rcases answers with ⟨⟨given, after⟩, performed⟩
  rcases accepted_eq_ok.mp performed with ⟨outcome, -, rfl⟩
  refine ⟨outcome, after, performed, ?_⟩
  intro unused
  rcases perform_drag_cases performed with ⟨-, untouched⟩ | ⟨used, -⟩
  · exact untouched
  · exact absurd (unused.symm.trans used) nofun

end Steps

/-- A finger goes up, then rightward at the first tab, where there is nothing to drag in, then
leftward, and at last up again. -/
def lateDrag : List Action :=
  [.input (.drag ⟨50, 40⟩ ⟨0, -10⟩ 16), .tick 16, .input (.drag ⟨60, 40⟩ ⟨10, 0⟩ 32),
    .input (.drag ⟨20, 40⟩ ⟨-40, 0⟩ 48), .tick 16, .input (.drag ⟨20, 10⟩ ⟨0, -30⟩ 64)]

/-- The panes take the leftward movement, and then the one that goes up. -/
theorem drags_stay_owned_from_third :
    ∃ start deck begun last : Deck FixedAdvance DemoPanes, ∃ answer answers,
      ofCaptions 8 wideImages ⟨6, 7, 10⟩ {} .touchscreen = .ok start ∧
      start.Reaches [.placeAt ⟨⟨0, 0⟩, ⟨60, 100⟩⟩] deck ∧
      deck.perform (.input (.press ⟨50, 50⟩)) = .ok (answer, begun) ∧
      begun.run lateDrag = .ok (answers, last) ∧
      dragsTaken lateDrag answers = [false, false, true, true] ∧ last.row.offset = -40 ∧
      ∀ before place movement time, before ++ [.input (.drag place movement time)] <+: lateDrag →
        ∀ held, begun.Reaches before held → ∃ outcome after,
          held.perform (.input (.drag place movement time)) = .ok (.ok outcome, after) ∧
          (outcome.consumed = false → held.Untouched after) := by
  obtain ⟨start, deck, begun, last, answer, answers, made, reached, pressed, ran, taken, moved⟩ :
      ∃ start deck begun last : Deck FixedAdvance DemoPanes, ∃ answer answers,
        ofCaptions 8 wideImages ⟨6, 7, 10⟩ {} .touchscreen = .ok start ∧
        start.Reaches [.placeAt ⟨⟨0, 0⟩, ⟨60, 100⟩⟩] deck ∧
        deck.perform (.input (.press ⟨50, 50⟩)) = .ok (answer, begun) ∧
        begun.run lateDrag = .ok (answers, last) ∧
        dragsTaken lateDrag answers = [false, false, true, true] ∧ last.row.offset = -40 :=
    ⟨_, _, _, _, _, _, rfl, ⟨_, rfl⟩, rfl, rfl, rfl, rfl⟩
  have down : ∀ action ∈ lateDrag, action.StaysDown := by
    intro action member
    simp only [lateDrag, List.mem_cons, List.not_mem_nil, or_false] at member
    rcases member with rfl | rfl | rfl | rfl | rfl | rfl <;> constructor
  refine ⟨start, deck, begun, last, answer, answers, made, reached, pressed, ran, taken, moved, ?_⟩
  rcases drags_stay_owned made reached ⟨50, 50⟩ down with
    ⟨_, _, _, _, pressedAlso, ranAlso, -, harmless⟩
  rw [pressed] at pressedAlso
  cases pressedAlso
  exact harmless

end Deck

end TabDeck
