import TabDeck.Proofs.Coherence

/-!
# A tab under the finger

A flat tab that a finger pressed is held until the finger goes up or something else happens. While
it is held, it is a tab of the deck other than the active one, and the panes are not dragged. A
disabled deck holds no tab, and its row stands where it would go back to. `Deck.Poised` says so, and
holds after every session: most operations can only let go of the tab (`Deck.Eases`), and the few
others are looked at one by one.
-/

namespace TabDeck

namespace Deck

variable {μ σ : Type}

/-- What is held is let go of, or held as before; no drag begins, and a row that stands where it
would go back to does so still. -/
structure Eases (before after : Deck μ σ) : Prop where
  settings : after.settings = before.settings
  length : after.tabs.length = before.tabs.length
  enabled : after.enabled = before.enabled
  pressed : after.pressed = none ∨
    (after.pressed = before.pressed ∧ after.active = before.active)
  dragging : after.gesture.isDragging = true → before.gesture.isDragging = true
  level : before.row.offset = before.row.remembered → after.row.offset = after.row.remembered

namespace Eases

theorem refl (deck : Deck μ σ) : deck.Eases deck :=
  ⟨rfl, rfl, rfl, Or.inr ⟨rfl, rfl⟩, id, id⟩

theorem trans {first second third : Deck μ σ} (earlier : first.Eases second)
    (later : second.Eases third) : first.Eases third := by
  refine ⟨later.settings.trans earlier.settings, later.length.trans earlier.length,
    later.enabled.trans earlier.enabled, ?_, earlier.dragging ∘ later.dragging,
    later.level ∘ earlier.level⟩
  rcases later.pressed with released | ⟨pressed, active⟩
  · exact Or.inl released
  · rw [pressed, active]
    exact earlier.pressed

variable {before after : Deck μ σ}

theorem of_served (served : before.Served after) : before.Eases after := by
  have length := served.length_tabs
  rcases served with ⟨_, _, rfl, -⟩
  exact ⟨rfl, length, rfl, Or.inr ⟨rfl, rfl⟩, id, id⟩

theorem of_restyled (restyled : before.Restyled after) : before.Eases after := by
  have length := restyled.length_tabs
  rcases restyled with ⟨_, _, _, _, _, _, _, _, rfl, -⟩
  exact ⟨rfl, length, rfl, Or.inr ⟨rfl, rfl⟩, id, id⟩

theorem of_focus (deck : Deck μ σ) (focus : KeyFocus) : deck.Eases { deck with focus } :=
  ⟨rfl, rfl, rfl, Or.inr ⟨rfl, rfl⟩, id, id⟩

theorem of_row {deck : Deck μ σ} {row : PaneRow}
    (level : deck.row.offset = deck.row.remembered → row.offset = row.remembered) :
    deck.Eases { deck with row } :=
  ⟨rfl, rfl, rfl, Or.inr ⟨rfl, rfl⟩, id, level⟩

theorem letsGo (deck : Deck μ σ) : deck.Eases { deck with pressed := none } :=
  ⟨rfl, rfl, rfl, Or.inl rfl, id, id⟩

variable [PaneHost σ] {deck : Deck μ σ} {outcome : Outcome} {index : Nat}

theorem of_activate (done : deck.activate index = .ok (outcome, after)) : deck.Eases after := by
  rcases activate_eq_ok done with ⟨row, gesture, mid, served, rfl, follows, keeps⟩
  have chosen : deck.Eases { deck.withActive index with row, gesture } := by
    cases flicks : deck.settings.flicks with
    | true =>
      rcases follows flicks with ⟨aligned, rfl⟩
      rcases PaneRow.alignTo_eq_ok aligned with ⟨offset, -, rfl⟩
      exact ⟨rfl, rfl, rfl, Or.inl rfl, nofun, fun _ => rfl⟩
    | false =>
      rcases keeps flicks with ⟨rfl, rfl⟩
      exact ⟨rfl, rfl, rfl, Or.inl rfl, id, id⟩
  exact (chosen.trans (of_served served)).trans (of_restyled (restyled_arrange mid))

theorem of_switched (switched : before.Switched after) : before.Eases after :=
  switched.related refl of_activate

theorem of_showPanes (done : deck.showPanes = .ok after) : deck.Eases after := by
  rcases served_of_showPanes done with ⟨row, served, -, follows⟩
  apply trans (of_row _) (of_served served)
  intro level
  rcases follows with rfl | ⟨active, aligned⟩
  · exact level
  · rcases PaneRow.alignTo_eq_ok aligned with ⟨offset, -, rfl⟩
    rfl

theorem of_placeAt [FontMetrics μ] {bounds : Rect}
    (done : deck.placeAt bounds = .ok (outcome, after)) : deck.Eases after := by
  rcases placeAt_eq_ok done with ⟨measured, area, row, stripWidth, shown, last, restyled, -,
    resized, showed, stays, selects, rfl⟩
  have bounded : deck.Eases { deck with bounds, laidOut := true } :=
    ⟨rfl, rfl, rfl, Or.inr ⟨rfl, rfl⟩, id, id⟩
  have sized : measured.Eases { measured with paneArea := area, row } := by
    refine ⟨rfl, rfl, rfl, Or.inr ⟨rfl, rfl⟩, id, ?_⟩
    intro level
    rcases PaneRow.resize_eq_ok resized with ⟨offset, remembered, rfl, confined, alsoConfined⟩
    rw [level, alsoConfined] at confined
    exact (Except.ok.inj confined).symm
  have fitted := (bounded.trans (of_restyled restyled)).trans (sized.trans (of_showPanes showed))
  have chosen : shown.Eases last := of_switched (switched_of_placement stays selects)
  exact fitted.trans (chosen.trans (of_restyled (restyled_arrange last)))

theorem of_enableTab {enabled : Bool}
    (done : deck.enableTab index enabled = .ok (outcome, after)) : deck.Eases after := by
  rcases enableTab_eq_ok done with ⟨tabs, toggled, switched⟩
  exact (of_restyled (restyled_tabs (toggled fun _ _ => rfl))).trans (of_switched switched)

theorem of_supplyPane {handle : PaneId}
    (done : deck.supplyPane index handle = .ok (outcome, after)) : deck.Eases after := by
  rcases supplyPane_eq_ok done with rfl | ⟨tab, link, -, rfl, -⟩
  · exact refl after
  · exact ⟨rfl, List.length_set .., rfl, Or.inr ⟨rfl, rfl⟩, id, id⟩

omit [PaneHost σ] in
theorem of_relabel [FontMetrics μ] {captions : List Caption}
    (done : deck.relabel captions = .ok (outcome, after)) : deck.Eases after := by
  rcases relabel_eq_ok done with ⟨mid, area, restyled, -, rfl⟩
  have refitted : mid.Eases { mid with paneArea := area } :=
    ⟨rfl, rfl, rfl, Or.inr ⟨rfl, rfl⟩, id, id⟩
  exact (of_restyled restyled).trans (refitted.trans (of_restyled (restyled_arrange _)))

theorem of_callOff {moved : Bool} (done : deck.callOff = .ok (moved, after)) :
    deck.Eases after := by
  have forgotten : deck.Eases
      { deck with gesture := deck.gesture.forget, row := deck.row.goBack } :=
    ⟨rfl, rfl, rfl, Or.inr ⟨rfl, rfl⟩, nofun, fun _ => rfl⟩
  exact forgotten.trans (of_served (served_of_callOff done))

theorem of_abandon (done : deck.abandon = .ok (outcome, after)) : deck.Eases after := by
  rcases abandon_eq_ok done with ⟨moved, calledOff⟩
  exact (letsGo deck).trans (of_callOff calledOff)

omit [PaneHost σ] in
theorem of_beginGesture (deck : Deck μ σ) (point : Point) :
    deck.Eases (deck.beginGesture point) := by
  cases flicks : deck.settings.flicks with
  | true =>
    rw [beginGesture_eq flicks]
    refine ⟨rfl, rfl, rfl, Or.inl rfl, nofun, ?_⟩
    intro level
    split
    · rfl
    · exact level
  | false =>
    rw [beginGesture_eq_of_paged flicks]
    exact letsGo deck

theorem of_release (done : deck.release = .ok (outcome, after)) : deck.Eases after := by
  rcases release_eq_ok done with ⟨mid, switched, -, settles, stays⟩
  have chosen : deck.Eases mid := (letsGo deck).trans (of_switched switched)
  cases flicks : deck.settings.flicks with
  | true =>
    rw [settles flicks]
    apply chosen.trans
    refine ⟨rfl, rfl, rfl, Or.inr ⟨rfl, rfl⟩, ?_, id⟩
    intro dragging
    rw [Gesture.release_not_dragging] at dragging
    cases dragging
  | false =>
    rw [stays flicks]
    exact chosen

theorem of_handleFocus {event : KeyFocus.Event}
    (done : deck.handleFocus event = .ok (outcome, after)) : deck.Eases after := by
  rcases switched_or_served_of_handleFocus done with ⟨focus, switched | served⟩
  · exact (of_focus deck focus).trans (of_switched switched)
  · exact (of_focus deck focus).trans (of_served served)

end Eases

/-- How a deck holds a tab, and how it stands while it is disabled. -/
structure Poised (deck : Deck μ σ) : Prop where
  held : ∀ index, deck.pressed = some index →
    index < deck.tabs.length ∧ deck.active ≠ some index ∧ deck.gesture.isDragging = false
  /-- Only decks that flick are dragged. -/
  flicks : deck.gesture.isDragging = true → deck.settings.flicks = true
  dormant : deck.enabled = false → deck.pressed = none ∧ deck.row.offset = deck.row.remembered

namespace Poised

variable {before after deck : Deck μ σ} {outcome : Outcome} {index : Nat}

theorem eases (poised : before.Poised) (eases : before.Eases after) : after.Poised := by
  refine ⟨?_, ?_, ?_⟩
  · intro index pressed
    rcases eases.pressed with released | ⟨same, active⟩
    · rw [released] at pressed
      cases pressed
    · rcases poised.held index (same ▸ pressed) with ⟨present, inactive, still⟩
      refine ⟨eases.length ▸ present, active ▸ inactive, ?_⟩
      by_contra dragging
      rw [eases.dragging (by simpa using dragging)] at still
      cases still
  · intro dragging
    rw [eases.settings]
    exact poised.flicks (eases.dragging dragging)
  · intro disabled
    rcases poised.dormant (eases.enabled ▸ disabled) with ⟨released, level⟩
    refine ⟨?_, eases.level level⟩
    rcases eases.pressed with none | ⟨same, -⟩
    · exact none
    · exact same.trans released

/-- While a deck is enabled, its row and its gesture may change, as long as no tab is held that is
dragged away from. -/
theorem moved (poised : deck.Poised) (enabled : deck.enabled = true) (gesture : Gesture)
    (row : PaneRow) (pressed : Option Nat)
    (held : pressed = none ∨ pressed = deck.pressed ∧ gesture.isDragging = false)
    (flicks : gesture.isDragging = true → deck.settings.flicks = true) :
    { deck with gesture, row, pressed }.Poised := by
  refine ⟨?_, flicks, ?_⟩
  · intro index isPressed
    rcases held with none | ⟨same, still⟩
    · rw [show pressed = some index from isPressed] at none
      cases none
    · rcases poised.held index (same.symm.trans isPressed) with ⟨present, inactive, -⟩
      exact ⟨present, inactive, still⟩
  · intro disabled
    rw [show deck.enabled = false from disabled] at enabled
    cases enabled

variable [PaneHost σ]

omit [PaneHost σ] in
theorem lt_of_isBlocked {blocked : Bool} (asked : deck.isBlocked index = .ok blocked) :
    index < deck.tabs.length := by
  simp only [isBlocked] at asked
  cases found : entry deck.tabs index with
  | error fault =>
    rw [found] at asked
    cases asked
  | ok tab => exact (List.getElem?_eq_some_iff.mp (entry_eq_ok.mp found)).1

/-- Only a tab that is there and not active yet is pressed, and the gesture has only begun. -/
theorem press (poised : deck.Poised) (enabled : deck.enabled = true) {touch : Touch}
    (done : deck.press touch = .ok (outcome, after)) : after.Poised := by
  rcases press_eq_tapped done with ⟨point, tapped⟩
  have begun := poised.eases (Eases.of_beginGesture deck point)
  have still : (deck.beginGesture point).gesture.isDragging = false := by
    cases flicks : deck.settings.flicks with
    | true =>
      rw [beginGesture_eq flicks]
      rfl
    | false =>
      rw [beginGesture_eq_of_paged flicks]
      by_contra dragging
      rw [poised.flicks (by simpa using dragging)] at flicks
      cases flicks
  cases tapped with
  | nothing same =>
    rw [same]
    exact begun
  | holds index inactive unblocked same =>
    subst same
    refine ⟨?_, begun.flicks, ?_⟩
    · intro other isPressed
      cases isPressed
      exact ⟨lt_of_isBlocked unblocked, inactive, still⟩
    · intro disabled
      have same := (Eases.of_beginGesture deck point).enabled
      rw [show (deck.beginGesture point).enabled = false from disabled, enabled] at same
      cases same
  | arrow forward selection selected =>
    exact begun.eases (Eases.of_switched (switched_of_select selected))
  | tab index selection unblocked selected =>
    exact begun.eases (Eases.of_switched (switched_of_select selected))

theorem drag (poised : deck.Poised) (enabled : deck.enabled = true) {movement : Point}
    {time : Nat} (done : deck.drag movement time = .ok (outcome, after)) : after.Poised := by
  rcases drag_eq_ok done with ⟨-, rfl⟩ |
    ⟨active, taken, gesture, row, flicks, -, dragged, takes, leaves⟩
  · exact poised
  · rcases Gesture.drag_eq_ok dragged with ⟨rfl, -, -, -, -⟩ | ⟨rfl, same, rfl, apart, -⟩
    · have moved := poised.moved enabled gesture row none (Or.inl rfl) fun _ => flicks
      exact moved.eases (Eases.of_served (served_of_moveAll (takes rfl)))
    · rw [leaves rfl]
      apply poised.moved enabled gesture deck.row deck.pressed _ fun _ => flicks
      refine Or.inr ⟨rfl, ?_⟩
      rw [Gesture.isDragging, same]
      exact decide_eq_false apart

theorem tick (poised : deck.Poised) (coherent : deck.Coherent) {elapsed : Nat}
    (done : deck.tick elapsed = .ok (outcome, after)) : after.Poised := by
  rcases tick_eq_ok done with ⟨progress, gesture, row, ticked, rest⟩
  rcases Gesture.tick_eq_ok ticked with ⟨rfl, -⟩ | ⟨target, offset, settling, -, ticks⟩
  · rw [rest.1]
    exact poised
  · have enabled : deck.enabled = true := by
      by_contra disabled
      rw [coherent.inert (by simpa using disabled)] at settling
      cases settling
    have settled : ∀ phase, gesture.phase = phase → phase ≠ .dragging →
        { deck with gesture, row }.Poised := by
      rintro _ rfl apart
      have still : gesture.isDragging = false := decide_eq_false apart
      apply poised.moved enabled gesture row deck.pressed (Or.inr ⟨rfl, still⟩)
      intro dragging
      rw [still] at dragging
      cases dragging
    rcases ticks with ⟨rfl, phase, -⟩ | ⟨rfl, phase, -⟩
    · rcases rest with ⟨mid, selection, moved, selected, -⟩
      have here := (settled _ phase nofun).eases (Eases.of_served (served_of_moveAll moved))
      exact here.eases (Eases.of_switched (switched_of_select selected))
    · exact (settled _ phase nofun).eases (Eases.of_served (served_of_moveAll rest.1))

/-- Disabling a deck calls its gesture off and lets go of the tab. -/
theorem enable (poised : deck.Poised) {enabled : Bool}
    (done : deck.enable enabled = .ok (outcome, after)) : after.Poised := by
  rcases enable_eq_ok done with rfl | ⟨mid, -, rfl, opens, closes⟩
  · exact poised
  · apply Poised.eases _ (Eases.of_restyled (restyled_enableArrows mid enabled))
    cases enabled with
    | true =>
      rw [opens rfl]
      exact ⟨nofun, poised.flicks, nofun⟩
    | false =>
      rcases closes rfl with ⟨moved, calledOff⟩
      apply Poised.eases _ (Eases.of_served (served_of_callOff calledOff))
      exact ⟨nofun, nofun, fun _ => ⟨rfl, rfl⟩⟩

theorem handle (poised : deck.Poised) {event : Input}
    (done : deck.handle event = .ok (outcome, after)) : after.Poised := by
  rcases handle_eq_ok done with ⟨-, rfl⟩ | ⟨enabled, handled⟩
  · exact poised
  · cases event with
    | press touch => exact poised.press enabled handled
    | drag touch movement time => exact poised.drag enabled handled
    | release touch => exact poised.eases (Eases.of_release handled)
    | abandon => exact poised.eases (Eases.of_abandon handled)
    | key direction => exact poised.eases (Eases.of_handleFocus handled)
    | action => exact poised.eases (Eases.of_handleFocus handled)
    | focus => exact poised.eases (Eases.of_handleFocus handled)

theorem perform [FontMetrics μ] (poised : deck.Poised) (coherent : deck.Coherent)
    {action : Action} {answer : Answer} (done : deck.perform action = .ok (answer, after)) :
    after.Poised := by
  cases action with
  | showIcons icons =>
    rcases acceptedOr_eq_ok.mp done with ⟨outcome, shown, -⟩ | ⟨_, -, rfl, -⟩
    · exact poised.eases (Eases.of_restyled (restyled_of_showIcons shown))
    · exact poised
  | relabel captions =>
    rcases acceptedOr_eq_ok.mp done with ⟨outcome, relabelled, -⟩ | ⟨_, -, rfl, -⟩
    · exact poised.eases (Eases.of_relabel relabelled)
    · exact poised
  | paintTab index colour =>
    cases done
    exact poised.eases (Eases.of_restyled (restyled_paintTab deck index colour))
  | usePalette palette =>
    cases done
    exact poised.eases (Eases.of_restyled (restyled_usePalette deck palette))
  | placeAt bounds =>
    rcases accepted_eq_ok.mp done with ⟨outcome, placed, -⟩
    exact poised.eases (Eases.of_placeAt placed)
  | select index =>
    rcases accepted_eq_ok.mp done with ⟨outcome, selected, -⟩
    exact poised.eases (Eases.of_switched (switched_of_select selected))
  | enableTab index enabled =>
    rcases accepted_eq_ok.mp done with ⟨outcome, changed, -⟩
    exact poised.eases (Eases.of_enableTab changed)
  | supplyPane index handle =>
    rcases accepted_eq_ok.mp done with ⟨outcome, supplied, -⟩
    exact poised.eases (Eases.of_supplyPane supplied)
  | enable enabled =>
    rcases accepted_eq_ok.mp done with ⟨outcome, changed, -⟩
    exact poised.enable changed
  | input event =>
    rcases accepted_eq_ok.mp done with ⟨outcome, handled, -⟩
    exact poised.handle handled
  | abandon =>
    rcases accepted_eq_ok.mp done with ⟨outcome, abandoned, -⟩
    exact poised.eases (Eases.of_abandon abandoned)
  | reclaimFocus =>
    rcases accepted_eq_ok.mp done with ⟨outcome, reclaimed, -⟩
    exact poised.eases (Eases.of_handleFocus reclaimed)
  | tick elapsed =>
    rcases accepted_eq_ok.mp done with ⟨outcome, ticked, -⟩
    exact poised.tick coherent ticked

end Poised

theorem poised_ofCaptions [FontMetrics μ] {capacity : Nat} {captions : List Caption} {metrics : μ}
    {host : σ} {settings : Settings} {start : Deck μ σ}
    (made : ofCaptions capacity captions metrics host settings = .ok start) : start.Poised := by
  rcases ofCaptions_eq_ok made with ⟨-, tabs, strip, -, rfl⟩
  exact ⟨nofun, nofun, nofun⟩

/-- A deck holds its tab well after every session. -/
theorem Reaches.poised [FontMetrics μ] [PaneHost σ] {start deck : Deck μ σ}
    {actions : List Action} (reached : start.Reaches actions deck) (coherent : start.Coherent)
    (poised : start.Poised) : deck.Poised := by
  apply reaches_induction poised _ reached
  intro _ before action answer after reachedBefore earlier performed
  exact earlier.perform (reachedBefore.coherent coherent) performed

end Deck

end TabDeck
