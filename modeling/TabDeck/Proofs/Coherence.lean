import TabDeck.Proofs.Motion
import TabDeck.Proofs.Operations

/-!
# The parts of a deck agree

A deck has several lists and indices that refer to one another: the row has one place for each tab,
the active tab and the pane toward which the row settles are there, the row is as wide as the deck
and shifted within its range, and a disabled deck has no gesture. `Deck.Coherent` says so, and holds
after every session, whatever the width of the deck.
-/

namespace TabDeck

theorem Ring.step_lt {count : Nat} (nonempty : 0 < count) (forward : Bool) (place : Option Nat) :
    Ring.step count forward place < count := by
  cases place with
  | none =>
    simp only [step]
    split <;> omega
  | some index =>
    simp only [step]
    split <;> exact Nat.mod_lt _ nonempty

theorem Ring.search_lt {disabled : List Bool} (nonempty : 0 < disabled.length) {forward : Bool}
    {steps : Nat} {place : Option Nat} {found : Nat}
    (searched : Ring.search disabled forward steps place = some found) :
    found < disabled.length := by
  induction steps generalizing place with
  | zero => cases searched
  | succ steps ih =>
    simp only [search] at searched
    split at searched
    · cases searched
      exact step_lt nonempty forward place
    · exact ih searched

/-- From nowhere the search always ends on a tab. -/
theorem nextAvailable_none_lt {disabled : List Bool} (nonempty : 0 < disabled.length)
    (forward : Bool) : nextAvailable none forward disabled < disabled.length := by
  simp only [nextAvailable]
  cases searched : Ring.search disabled forward disabled.length none with
  | none => exact nonempty
  | some found => exact Ring.search_lt nonempty searched

/-- The search for a first active tab finds one. -/
theorem Deck.activate_of_select_first {μ σ : Type} [PaneHost σ] {deck after : Deck μ σ}
    {outcome : Outcome} (nonempty : 0 < deck.tabs.length) (inactive : deck.active = none)
    (done : deck.select (nextAvailable none true deck.disabledFlags) = .ok (outcome, after)) :
    ∃ index, index < deck.tabs.length ∧ deck.activate index = .ok (outcome, after) := by
  have flags : deck.disabledFlags.length = deck.tabs.length := List.length_map ..
  have found := nextAvailable_none_lt (flags ▸ nonempty) true
  rcases select_eq_ok done with ⟨-, -, absent | already⟩ | ⟨present, -, activated⟩
  · omega
  · rw [inactive] at already
    cases already
  · exact ⟨_, present, activated⟩

theorem captions_ne_nil {capacity : Nat} {captions : List Caption} {answer : Unit}
    (checked : checkCaptions capacity captions = .ok answer) : 0 < captions.length := by
  cases captions with
  | nil => cases checked
  | cons first rest => exact Nat.succ_pos _

namespace Deck

variable {μ σ : Type}

/-- What the parts of a deck rely on about each other. -/
structure Coherent (deck : Deck μ σ) : Prop where
  /-- There is a tab. -/
  nonempty : 0 < deck.tabs.length
  /-- Every tab has a place in the row. -/
  counted : deck.row.count = deck.tabs.length
  /-- Neighbouring panes are one viewport apart. -/
  sideBySide : deck.row.stride = deck.row.viewport
  /-- The viewport is as wide as the deck. -/
  spans : deck.row.viewport = deck.bounds.size.width
  /-- The row is shifted within its range. -/
  within : deck.row.Within
  /-- The active tab is there. -/
  present : ∀ active, deck.active = some active → active < deck.tabs.length
  /-- The row settles on a pane of the deck. -/
  targeted : ∀ target, deck.gesture.target = some target → target < deck.tabs.length
  /-- A disabled deck has no gesture. -/
  inert : deck.enabled = false → deck.gesture.phase = .resting

namespace Coherent

variable {before after : Deck μ σ}

/-- The invariant does not look at anything but these parts. -/
theorem congr (coherent : before.Coherent) (tabs : after.tabs.length = before.tabs.length)
    (row : ∃ stripWidth, after.row = before.row.withStripWidth stripWidth)
    (bounds : after.bounds = before.bounds) (active : after.active = before.active)
    (gesture : after.gesture.phase = before.gesture.phase)
    (enabled : after.enabled = before.enabled) : after.Coherent := by
  rcases row with ⟨stripWidth, row⟩
  refine ⟨?_, ?_, ?_, ?_, ?_, ?_, ?_, ?_⟩
  · rw [tabs]
    exact coherent.nonempty
  · rw [tabs, row]
    exact coherent.counted
  · rw [row]
    exact coherent.sideBySide
  · rw [row, bounds]
    exact coherent.spans
  · rw [row]
    exact coherent.within.withStripWidth stripWidth
  · rw [tabs, active]
    exact coherent.present
  · intro target
    rw [tabs, Gesture.target_eq_some_iff, gesture, ← Gesture.target_eq_some_iff]
    exact coherent.targeted target
  · rw [enabled, gesture]
    exact coherent.inert

theorem served (coherent : before.Coherent) (served : before.Served after) : after.Coherent := by
  have tabs := served.length_tabs
  rcases served with ⟨_, _, rfl, -⟩
  exact coherent.congr tabs ⟨before.row.stripWidth, rfl⟩ rfl rfl rfl rfl

theorem restyled (coherent : before.Coherent) (restyled : before.Restyled after) :
    after.Coherent := by
  have tabs := restyled.length_tabs
  rcases restyled with ⟨_, _, _, _, _, stripWidth, _, _, rfl, -⟩
  exact coherent.congr tabs ⟨stripWidth, rfl⟩ rfl rfl rfl rfl

/-- The row may move within its range. -/
theorem shifted {deck : Deck μ σ} (coherent : deck.Coherent) (row : PaneRow)
    (size : deck.row.SameSize row) (within : row.Within) : { deck with row }.Coherent :=
  { coherent with
    counted := size.1.trans coherent.counted
    sideBySide := by
      rw [size.2.1, size.2.2]
      exact coherent.sideBySide
    spans := size.2.2.trans coherent.spans
    within }

/-- The gesture of an enabled deck may change, as long as its target is there. -/
theorem gestured {deck : Deck μ σ} (coherent : deck.Coherent) (gesture : Gesture)
    (targeted : ∀ target, gesture.target = some target → target < deck.tabs.length)
    (inert : deck.enabled = false → gesture.phase = .resting) :
    { deck with gesture }.Coherent :=
  { coherent with targeted, inert }

theorem forgotten {deck : Deck μ σ} (coherent : deck.Coherent) :
    { deck with gesture := deck.gesture.forget }.Coherent :=
  coherent.gestured _ nofun fun _ => rfl

theorem begun {deck : Deck μ σ} (coherent : deck.Coherent) (inStrip : Bool) :
    { deck with gesture := { deck.gesture.forget with inStrip } }.Coherent :=
  coherent.gestured _ nofun fun _ => rfl

theorem pressing {deck : Deck μ σ} (coherent : deck.Coherent) (pressed : Option Nat) :
    { deck with pressed }.Coherent :=
  coherent.congr rfl ⟨deck.row.stripWidth, rfl⟩ rfl rfl rfl rfl

theorem focused {deck : Deck μ σ} (coherent : deck.Coherent) (focus : KeyFocus) :
    { deck with focus }.Coherent :=
  coherent.congr rfl ⟨deck.row.stripWidth, rfl⟩ rfl rfl rfl rfl

/-- Only a deck without a gesture may be disabled. -/
theorem toggled {deck : Deck μ σ} (coherent : deck.Coherent) (enabled : Bool)
    (inert : enabled = false → deck.gesture.phase = .resting) :
    { deck with enabled, pressed := none }.Coherent :=
  { coherent with inert }

/-- Another tab of the deck becomes active. -/
theorem withActive {deck : Deck μ σ} (coherent : deck.Coherent) {index : Nat}
    (present : index < deck.tabs.length) : (deck.withActive index).Coherent :=
  { coherent with
    present := by
      intro active isActive
      cases isActive
      exact present }

section Steps

variable [PaneHost σ] {deck after : Deck μ σ} {outcome : Outcome} {index : Nat}

theorem activate (coherent : deck.Coherent) (present : index < deck.tabs.length)
    (done : deck.activate index = .ok (outcome, after)) : after.Coherent := by
  rcases activate_eq_ok done with ⟨row, gesture, mid, served, rfl, follows, keeps⟩
  have chosen := coherent.withActive present
  have followed : { deck.withActive index with row, gesture }.Coherent := by
    cases flicks : deck.settings.flicks with
    | true =>
      rcases follows flicks with ⟨aligned, rfl⟩
      exact (chosen.shifted row (PaneRow.sameSize_of_alignTo aligned)
        (PaneRow.within_of_alignTo aligned)).forgotten
    | false =>
      rcases keeps flicks with ⟨rfl, rfl⟩
      exact chosen
  exact (followed.served served).restyled (restyled_arrange mid)

theorem switched (coherent : deck.Coherent) (switched : deck.Switched after) :
    after.Coherent := by
  rcases switched with rfl | ⟨index, outcome, present, -, activated⟩
  · exact coherent
  · exact coherent.activate present activated

/-- Panes are shown where they are, once the row is aligned with the active one. -/
theorem showPanes (coherent : deck.Coherent) (done : deck.showPanes = .ok after) :
    after.Coherent := by
  rcases served_of_showPanes done with ⟨row, served, -, rfl | ⟨active, aligned⟩⟩
  · exact coherent.served served
  · apply Coherent.served _ served
    exact coherent.shifted row (PaneRow.sameSize_of_alignTo aligned)
      (PaneRow.within_of_alignTo aligned)

omit [PaneHost σ] in
/-- A row that took on the dimensions of a new place agrees with the rest of the deck there. -/
theorem resized (coherent : deck.Coherent) {bounds area : Rect} {measured : Deck μ σ}
    {row : PaneRow} {stripWidth : Nat}
    (restyled : ({ deck with bounds, laidOut := true } : Deck μ σ).Restyled measured)
    (resized : measured.row.resize measured.tabs.length bounds.size.width stripWidth = .ok row) :
    ({ measured with paneArea := area, row } : Deck μ σ).Coherent := by
  have tabs : measured.tabs.length = deck.tabs.length := restyled.length_tabs
  have within := PaneRow.within_of_resize resized
  rcases PaneRow.resize_eq_ok resized with ⟨offset, remembered, rfl, -, -⟩
  rcases restyled with ⟨_, _, _, _, _, _, _, _, rfl, -⟩
  refine ⟨?_, rfl, rfl, rfl, within, ?_, ?_, coherent.inert⟩
  · rw [tabs]
    exact coherent.nonempty
  · rw [tabs]
    exact coherent.present
  · rw [tabs]
    exact coherent.targeted

theorem placeAt [FontMetrics μ] (coherent : deck.Coherent) {bounds : Rect}
    (done : deck.placeAt bounds = .ok (outcome, after)) : after.Coherent := by
  rcases placeAt_eq_ok done with ⟨measured, area, row, stripWidth, shown, last, restyled, -, resized,
    showed, stays, selects, rfl⟩
  have fits : shown.Coherent := (coherent.resized restyled resized).showPanes showed
  apply Coherent.restyled _ (restyled_arrange last)
  exact fits.switched (switched_of_placement stays selects)

theorem callOff (coherent : deck.Coherent) {moved : Bool}
    (done : deck.callOff = .ok (moved, after)) : after.Coherent := by
  apply Coherent.served _ (served_of_callOff done)
  exact (coherent.shifted deck.row.goBack ⟨rfl, rfl, rfl⟩ coherent.within.goBack).forgotten

omit [PaneHost σ] in
/-- Time moves the gesture and the row in agreement. -/
theorem gesture_tick (coherent : deck.Coherent) {elapsed : Nat} {progress : Gesture.Progress}
    {gesture : Gesture} {row : PaneRow}
    (ticked : deck.gesture.tick deck.row elapsed = .ok (progress, gesture, row)) :
    ({ deck with gesture, row } : Deck μ σ).Coherent := by
  rcases Gesture.tick_eq_ok ticked with ⟨-, rfl, rfl, -⟩ |
    ⟨target, offset, settling, -, ⟨-, resting, aligned, -⟩ | ⟨-, still, moved, -⟩⟩
  · exact coherent
  · apply (coherent.shifted row (PaneRow.sameSize_of_alignTo aligned)
      (PaneRow.within_of_alignTo aligned)).gestured gesture
    · intro other isTarget
      rw [Gesture.target_eq_some_iff, resting] at isTarget
      cases isTarget
    · exact fun _ => resting
  · apply (coherent.shifted row (PaneRow.sameSize_of_moveTo moved)
      (coherent.within.moveTo moved)).gestured gesture
    · intro other isTarget
      rw [Gesture.target_eq_some_iff, still, ← settling, ← Gesture.target_eq_some_iff] at isTarget
      exact coherent.targeted other isTarget
    · intro disabled
      rw [coherent.inert disabled] at settling
      cases settling

theorem tick (coherent : deck.Coherent) {elapsed : Nat}
    (done : deck.tick elapsed = .ok (outcome, after)) : after.Coherent := by
  rcases tick_eq_ok done with ⟨progress, gesture, row, ticked, rest⟩
  have moved := coherent.gesture_tick ticked
  cases progress with
  | idle =>
    rw [rest.1]
    exact coherent
  | moving => exact moved.served (served_of_moveAll rest.1)
  | arrived target =>
    rcases rest with ⟨mid, selection, followed, selected, -⟩
    exact (moved.served (served_of_moveAll followed)).switched (switched_of_select selected)

omit [PaneHost σ] in
theorem beginGesture (coherent : deck.Coherent) (point : Point) :
    (deck.beginGesture point).Coherent := by
  simp only [Deck.beginGesture]
  split
  · simp only [Gesture.press]
    split
    · have remembering :=
        coherent.shifted deck.row.remember ⟨rfl, rfl, rfl⟩ coherent.within.remember
      exact (remembering.begun (deck.inStrip point)).pressing none
    · exact (coherent.begun (deck.inStrip point)).pressing none
  · exact coherent.pressing none

theorem press (coherent : deck.Coherent) {touch : Touch}
    (done : deck.press touch = .ok (outcome, after)) : after.Coherent := by
  rcases press_eq_ok done with ⟨point, switched | ⟨index, rfl⟩⟩
  · exact (coherent.beginGesture point).switched switched
  · exact (coherent.beginGesture point).pressing (some index)

theorem drag (coherent : deck.Coherent) (enabled : deck.enabled = true) {movement : Point}
    {time : Nat} (done : deck.drag movement time = .ok (outcome, after)) : after.Coherent := by
  rcases drag_eq_ok done with ⟨-, rfl⟩ | ⟨active, taken, gesture, row, -, -, dragged, takes, leaves⟩
  · exact coherent
  · rcases Gesture.drag_eq_ok dragged with ⟨rfl, dragging, moved, -, -⟩ | ⟨rfl, same, rfl, -, -⟩
    · apply Coherent.served _ (served_of_moveAll (takes rfl))
      have shifted := coherent.shifted row (PaneRow.sameSize_of_moveBy moved)
        (coherent.within.moveBy moved)
      refine (shifted.gestured gesture ?_ ?_).pressing none
      · intro target isTarget
        rw [Gesture.target_eq_some_iff, dragging] at isTarget
        cases isTarget
      · intro disabled
        rw [enabled] at disabled
        cases disabled
    · rw [leaves rfl]
      exact coherent.congr rfl ⟨deck.row.stripWidth, rfl⟩ rfl rfl same rfl

omit [PaneHost σ] in
theorem letGo (coherent : deck.Coherent) (enabled : deck.enabled = true) :
    { deck with gesture := deck.gesture.release deck.row }.Coherent := by
  apply coherent.gestured (deck.gesture.release deck.row)
  · intro target isTarget
    rw [Gesture.release_target] at isTarget
    split at isTarget
    · cases isTarget
    · rw [← coherent.counted]
      exact PaneRow.nearest_lt_count isTarget
  · intro disabled
    rw [enabled] at disabled
    cases disabled

theorem release (coherent : deck.Coherent) (enabled : deck.enabled = true)
    (done : deck.release = .ok (outcome, after)) : after.Coherent := by
  rcases release_eq_ok done with ⟨mid, switched, -, settles, stays⟩
  have chosen : mid.Coherent :=
    (coherent.pressing none).switched switched
  cases flicks : deck.settings.flicks with
  | true =>
    rw [settles flicks]
    exact chosen.letGo (switched.enabled.trans enabled)
  | false =>
    rw [stays flicks]
    exact chosen

theorem abandon (coherent : deck.Coherent) (done : deck.abandon = .ok (outcome, after)) :
    after.Coherent := by
  rcases abandon_eq_ok done with ⟨moved, calledOff⟩
  exact (coherent.pressing none).callOff calledOff

theorem handleFocus (coherent : deck.Coherent) {event : KeyFocus.Event}
    (done : deck.handleFocus event = .ok (outcome, after)) : after.Coherent := by
  rcases switched_or_served_of_handleFocus done with ⟨focus, switched | served⟩
  · exact (coherent.focused focus).switched switched
  · exact (coherent.focused focus).served served

theorem enable (coherent : deck.Coherent) {enabled : Bool}
    (done : deck.enable enabled = .ok (outcome, after)) : after.Coherent := by
  rcases enable_eq_ok done with rfl | ⟨mid, -, rfl, opens, closes⟩
  · exact coherent
  · apply Coherent.restyled _ (restyled_enableArrows mid enabled)
    cases enabled with
    | true =>
      rw [opens rfl]
      exact coherent.toggled true nofun
    | false =>
      rcases closes rfl with ⟨moved, calledOff⟩
      apply Coherent.served _ (served_of_callOff calledOff)
      exact (coherent.shifted deck.row.goBack ⟨rfl, rfl, rfl⟩
        coherent.within.goBack).forgotten.toggled false fun _ => rfl

theorem enableTab (coherent : deck.Coherent) {enabled : Bool}
    (done : deck.enableTab index enabled = .ok (outcome, after)) : after.Coherent := by
  rcases enableTab_eq_ok done with ⟨tabs, toggled, switched⟩
  exact (coherent.restyled (restyled_tabs (toggled fun _ _ => rfl))).switched switched

theorem supplyPane (coherent : deck.Coherent) {handle : PaneId}
    (done : deck.supplyPane index handle = .ok (outcome, after)) : after.Coherent := by
  rcases supplyPane_eq_ok done with rfl | ⟨tab, link, -, rfl, -⟩
  · exact coherent
  · exact coherent.congr (List.length_set ..) ⟨deck.row.stripWidth, rfl⟩ rfl rfl rfl rfl

omit [PaneHost σ] in
theorem relabel [FontMetrics μ] (coherent : deck.Coherent) {captions : List Caption}
    (done : deck.relabel captions = .ok (outcome, after)) : after.Coherent := by
  rcases relabel_eq_ok done with ⟨mid, area, restyled, -, rfl⟩
  have labelled := coherent.restyled restyled
  have refitted : ({ mid with paneArea := area } : Deck μ σ).Coherent :=
    labelled.congr rfl ⟨mid.row.stripWidth, rfl⟩ rfl rfl rfl rfl
  exact refitted.restyled (restyled_arrange _)

theorem handle (coherent : deck.Coherent) {event : Input}
    (done : deck.handle event = .ok (outcome, after)) : after.Coherent := by
  rcases handle_eq_ok done with ⟨-, rfl⟩ | ⟨enabled, handled⟩
  · exact coherent
  · cases event with
    | press touch => exact coherent.press handled
    | drag touch movement time => exact coherent.drag enabled handled
    | release touch => exact coherent.release enabled handled
    | abandon => exact coherent.abandon handled
    | key direction => exact coherent.handleFocus handled
    | action => exact coherent.handleFocus handled
    | focus => exact coherent.handleFocus handled

/-- Every action keeps the parts of a deck in agreement. -/
theorem perform [FontMetrics μ] (coherent : deck.Coherent) {action : Action} {answer : Answer}
    (done : deck.perform action = .ok (answer, after)) : after.Coherent := by
  cases action with
  | showIcons icons =>
    rcases acceptedOr_eq_ok.mp done with ⟨outcome, shown, -⟩ | ⟨_, -, rfl, -⟩
    · exact coherent.restyled (restyled_of_showIcons shown)
    · exact coherent
  | relabel captions =>
    rcases acceptedOr_eq_ok.mp done with ⟨outcome, relabelled, -⟩ | ⟨_, -, rfl, -⟩
    · exact coherent.relabel relabelled
    · exact coherent
  | paintTab index colour =>
    cases done
    exact coherent.restyled (restyled_paintTab deck index colour)
  | usePalette palette =>
    cases done
    exact coherent.restyled (restyled_usePalette deck palette)
  | placeAt bounds =>
    rcases accepted_eq_ok.mp done with ⟨outcome, placed, -⟩
    exact coherent.placeAt placed
  | select index =>
    rcases accepted_eq_ok.mp done with ⟨outcome, selected, -⟩
    exact coherent.switched (switched_of_select selected)
  | enableTab index enabled =>
    rcases accepted_eq_ok.mp done with ⟨outcome, changed, -⟩
    exact coherent.enableTab changed
  | supplyPane index handle =>
    rcases accepted_eq_ok.mp done with ⟨outcome, supplied, -⟩
    exact coherent.supplyPane supplied
  | enable enabled =>
    rcases accepted_eq_ok.mp done with ⟨outcome, changed, -⟩
    exact coherent.enable changed
  | input event =>
    rcases accepted_eq_ok.mp done with ⟨outcome, handled, -⟩
    exact coherent.handle handled
  | abandon =>
    rcases accepted_eq_ok.mp done with ⟨outcome, abandoned, -⟩
    exact coherent.abandon abandoned
  | reclaimFocus =>
    rcases accepted_eq_ok.mp done with ⟨outcome, reclaimed, -⟩
    exact coherent.handleFocus reclaimed
  | tick elapsed =>
    rcases accepted_eq_ok.mp done with ⟨outcome, ticked, -⟩
    exact coherent.tick ticked

end Steps

end Coherent

/-! ## Sessions -/

section Sessions

variable [FontMetrics μ] {capacity : Nat} {captions : List Caption} {metrics : μ} {host : σ}
  {settings : Settings} {start : Deck μ σ}

/-- A new deck has a tab for each caption, no active one, and a row of no width. -/
theorem ofCaptions_eq_ok
    (made : ofCaptions capacity captions metrics host settings = .ok start) :
    0 < captions.length ∧ ∃ tabs strip, tabs.length = captions.length ∧
      start = {
        metrics, settings, capacity, tabs, strip
        link := { host }
        row := .ofPanes captions.length 0 } := by
  simp only [ofCaptions, bind_eq_ok, pure_eq_ok] at made
  rcases made with ⟨strip, measured, rfl⟩
  have lengths := Strip.length_tabs_of_measure measured
  simp only [Strip.measure, bind_eq_ok] at measured
  rcases measured with ⟨_, checked, -⟩
  refine ⟨captions_ne_nil checked, _, strip, ?_, rfl⟩
  rw [List.length_zipWith, lengths, Nat.min_self]

theorem coherent_ofCaptions
    (made : ofCaptions capacity captions metrics host settings = .ok start) :
    start.Coherent := by
  rcases ofCaptions_eq_ok made with ⟨nonempty, tabs, strip, lengths, rfl⟩
  exact {
    nonempty := lengths ▸ nonempty
    counted := lengths.symm
    sideBySide := rfl
    spans := rfl
    within := PaneRow.within_ofPanes captions.length
    present := nofun
    targeted := nofun
    inert := nofun }

/-- A new deck has no bounds yet. -/
theorem unplaced_ofCaptions
    (made : ofCaptions capacity captions metrics host settings = .ok start) :
    start.laidOut = false := by
  rcases ofCaptions_eq_ok made with ⟨-, _, _, -, rfl⟩
  rfl

/-- The parts of a deck agree after every session. -/
theorem Reaches.coherent [PaneHost σ] {actions : List Action} {deck : Deck μ σ}
    (reached : start.Reaches actions deck) (coherent : start.Coherent) : deck.Coherent :=
  reached.kept coherent fun earlier performed => earlier.perform performed

end Sessions

end Deck

end TabDeck
