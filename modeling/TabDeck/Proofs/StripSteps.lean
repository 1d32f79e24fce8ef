import TabDeck.Proofs.Constancy

/-!
# What actions do to the strip

A deck does not compute the geometry of its strip when it is asked for it: the measures, the placed
tabs, the size of the row, the arrows and the shift are remembered, and each operation renews those
that it makes obsolete. Most operations leave alone both what is remembered and what it depends on
(`Deck.SameStrip`), or do so apart from making another tab active (`Deck.Reselects`).
`Deck.StripStep` names the few others.
-/

namespace TabDeck

/-- Everything that the geometry of a placed strip depends on. -/
structure StripInputs (μ : Type) where
  metrics : μ
  settings : Settings
  captions : List Caption
  hasIcons : Bool
  bounds : Rect
  active : Option Nat
  enabled : Bool

/-- What is remembered of the geometry of a strip. -/
@[ext]
structure StripGeometry where
  strip : Strip
  /-- The two rectangles of each tab, that of an active one first. -/
  tabRects : List (Rect × Rect)
  placed : List Rect
  count : Nat
  viewport : Nat
  stripWidth : Nat
  arrows : Option Arrows
  shift : Int

namespace Deck

variable {μ σ : Type}

/-- Everything that the geometry of the strip depends on. -/
def inputs (deck : Deck μ σ) : StripInputs μ where
  metrics := deck.metrics
  settings := deck.settings
  captions := deck.tabs.map Tab.caption
  hasIcons := deck.hasIcons
  bounds := deck.bounds
  active := deck.active
  enabled := deck.enabled

/-- What the deck remembers of the geometry of its strip. -/
def geometry (deck : Deck μ σ) : StripGeometry where
  strip := deck.strip
  tabRects := deck.tabs.map fun tab => (tab.selected, tab.unselected)
  placed := deck.placed
  count := deck.row.count
  viewport := deck.row.viewport
  stripWidth := deck.row.stripWidth
  arrows := deck.arrows
  shift := deck.shift

/-- Everything that the strip depends on and everything remembered of it is the same, the area of
the panes included. -/
structure SameStrip (before after : Deck μ σ) : Prop where
  capacity : after.capacity = before.capacity
  inputs : after.inputs = before.inputs
  geometry : after.geometry = before.geometry
  laidOut : after.laidOut = before.laidOut
  paneArea : after.paneArea = before.paneArea

namespace SameStrip

theorem refl (deck : Deck μ σ) : deck.SameStrip deck := ⟨rfl, rfl, rfl, rfl, rfl⟩

theorem trans {first second third : Deck μ σ} (earlier : first.SameStrip second)
    (later : second.SameStrip third) : first.SameStrip third :=
  ⟨later.capacity.trans earlier.capacity, later.inputs.trans earlier.inputs,
    later.geometry.trans earlier.geometry, later.laidOut.trans earlier.laidOut,
    later.paneArea.trans earlier.paneArea⟩

variable {before after deck : Deck μ σ}

/-- Tabs may change in what neither measures nor is measured. -/
theorem of_tabs {tabs : List Tab} (link : PaneLink σ)
    (captions : tabs.map Tab.caption = deck.tabs.map Tab.caption)
    (tabRects : tabs.map (fun tab => (tab.selected, tab.unselected)) =
      deck.tabs.map fun tab => (tab.selected, tab.unselected)) :
    deck.SameStrip { deck with link, tabs } := by
  refine ⟨rfl, ?_, ?_, rfl, rfl⟩
  · simp only [Deck.inputs, captions]
  · simp only [Deck.geometry, tabRects]

theorem of_served (served : before.Served after) : before.SameStrip after := by
  rcases served with ⟨link, tabs, rfl, filled⟩
  exact of_tabs link (filled.map_eq fun _ _ => rfl) (filled.map_eq fun _ _ => rfl)

theorem of_set {index : Nat} {tab changed : Tab} (link : PaneLink σ)
    (present : deck.tabs[index]? = some tab) (caption : changed.caption = tab.caption)
    (selected : changed.selected = tab.selected)
    (unselected : changed.unselected = tab.unselected) :
    deck.SameStrip { deck with link, tabs := deck.tabs.set index changed } := by
  apply of_tabs
  · exact map_set present caption
  · exact map_set present (by rw [selected, unselected])

theorem of_row (gesture : Gesture) (row : PaneRow) (pressed : Option Nat)
    (shifted : deck.row.Shifted row) : deck.SameStrip { deck with gesture, row, pressed } := by
  rcases shifted with ⟨⟨count, -, viewport⟩, stripWidth⟩
  refine ⟨rfl, rfl, ?_, rfl, rfl⟩
  simp only [Deck.geometry, count, viewport, stripWidth]

end SameStrip

/-! ## What actions do to the strip -/

section Steps

variable [PaneHost σ] {before after deck : Deck μ σ} {outcome : Outcome} {index : Nat}

/-- The strip stays as it is, unless another tab becomes active. -/
def Reselects (before after : Deck μ σ) : Prop :=
  ∃ mid last, before.SameStrip mid ∧ mid.Switched last ∧ last.SameStrip after

theorem SameStrip.reselects (same : before.SameStrip after) : before.Reselects after :=
  ⟨after, after, same, Switched.refl after, SameStrip.refl after⟩

theorem SameStrip.thenSwitched {mid : Deck μ σ} (same : before.SameStrip mid)
    (switched : mid.Switched after) : before.Reselects after :=
  ⟨mid, after, same, switched, SameStrip.refl after⟩

theorem sameStrip_of_callOff {moved : Bool} (done : deck.callOff = .ok (moved, after)) :
    deck.SameStrip after :=
  (SameStrip.of_row deck.gesture.forget deck.row.goBack deck.pressed
    (PaneRow.Shifted.refl deck.row)).trans (SameStrip.of_served (served_of_callOff done))

theorem reselects_of_tick {elapsed : Nat} (done : deck.tick elapsed = .ok (outcome, after)) :
    deck.Reselects after := by
  rcases tick_eq_ok done with ⟨progress, gesture, row, ticked, rest⟩
  have shifted := SameStrip.of_row gesture row deck.pressed (Gesture.shifted_of_tick ticked)
  cases progress with
  | idle =>
    rw [rest.1]
    exact (SameStrip.refl deck).reselects
  | moving => exact (shifted.trans (SameStrip.of_served (served_of_moveAll rest.1))).reselects
  | arrived target =>
    rcases rest with ⟨mid, selection, moved, selected, -⟩
    exact (shifted.trans (SameStrip.of_served (served_of_moveAll moved))).thenSwitched
      (switched_of_select selected)

omit [PaneHost σ] in
theorem sameStrip_beginGesture (deck : Deck μ σ) (point : Point) :
    deck.SameStrip (deck.beginGesture point) := by
  cases flicks : deck.settings.flicks with
  | true =>
    rw [beginGesture_eq flicks]
    apply SameStrip.of_row
    split <;> exact PaneRow.Shifted.refl deck.row
  | false =>
    rw [beginGesture_eq_of_paged flicks]
    exact SameStrip.of_row deck.gesture deck.row none (PaneRow.Shifted.refl deck.row)

theorem reselects_of_press {touch : Touch} (done : deck.press touch = .ok (outcome, after)) :
    deck.Reselects after := by
  rcases press_eq_ok done with ⟨point, switched | ⟨index, rfl⟩⟩
  · exact (sameStrip_beginGesture deck point).thenSwitched switched
  · apply SameStrip.reselects
    apply (sameStrip_beginGesture deck point).trans
    exact SameStrip.of_row _ _ (some index) (PaneRow.Shifted.refl _)

theorem sameStrip_of_drag {movement : Point} {time : Nat}
    (done : deck.drag movement time = .ok (outcome, after)) : deck.SameStrip after := by
  rcases drag_eq_ok done with ⟨-, rfl⟩ | ⟨active, taken, gesture, row, -, -, dragged, takes, leaves⟩
  · exact SameStrip.refl after
  · rcases Gesture.drag_eq_ok dragged with ⟨isTaken, -, moved, -⟩ | ⟨isLeft, -, rfl, -⟩
    · have shifted := SameStrip.of_row gesture row none (PaneRow.shifted_of_moveBy moved)
      exact shifted.trans (SameStrip.of_served (served_of_moveAll (takes isTaken)))
    · rw [leaves isLeft]
      exact SameStrip.of_row gesture deck.row deck.pressed (PaneRow.Shifted.refl deck.row)

theorem reselects_of_release (done : deck.release = .ok (outcome, after)) :
    deck.Reselects after := by
  rcases release_eq_ok done with ⟨mid, switched, -, settles, stays⟩
  refine ⟨_, mid, ?_, switched, ?_⟩
  · exact SameStrip.of_row deck.gesture deck.row none (PaneRow.Shifted.refl deck.row)
  · cases flicks : deck.settings.flicks with
    | true =>
      rw [settles flicks]
      exact SameStrip.of_row _ mid.row mid.pressed (PaneRow.Shifted.refl mid.row)
    | false =>
      rw [stays flicks]
      exact SameStrip.refl mid

theorem sameStrip_of_abandon (done : deck.abandon = .ok (outcome, after)) :
    deck.SameStrip after := by
  rcases abandon_eq_ok done with ⟨moved, calledOff⟩
  have unpressed := SameStrip.of_row deck.gesture deck.row none (PaneRow.Shifted.refl deck.row)
  exact unpressed.trans (sameStrip_of_callOff calledOff)

theorem reselects_of_handleFocus {event : KeyFocus.Event}
    (done : deck.handleFocus event = .ok (outcome, after)) : deck.Reselects after := by
  rcases switched_or_served_of_handleFocus done with ⟨focus, switched | served⟩
  · have focused : deck.SameStrip { deck with focus } := ⟨rfl, rfl, rfl, rfl, rfl⟩
    exact focused.thenSwitched switched
  · have focused : deck.SameStrip { deck with focus } := ⟨rfl, rfl, rfl, rfl, rfl⟩
    exact (focused.trans (SameStrip.of_served served)).reselects

theorem reselects_of_enableTab {enabled : Bool}
    (done : deck.enableTab index enabled = .ok (outcome, after)) : deck.Reselects after := by
  rcases enableTab_eq_ok done with ⟨tabs, toggled, switched⟩
  have flagged : deck.SameStrip { deck with tabs } :=
    SameStrip.of_tabs deck.link (toggled fun _ _ => rfl) (toggled fun _ _ => rfl)
  exact flagged.thenSwitched switched

theorem sameStrip_of_supplyPane {handle : PaneId}
    (done : deck.supplyPane index handle = .ok (outcome, after)) : deck.SameStrip after := by
  rcases supplyPane_eq_ok done with rfl | ⟨tab, link, present, rfl, -⟩
  · exact SameStrip.refl after
  · exact SameStrip.of_set link present rfl rfl rfl

omit [PaneHost σ] in
theorem sameStrip_paintTab (deck : Deck μ σ) (index : Nat) (colour : Option Colour) :
    deck.SameStrip (deck.paintTab index colour).2 := by
  simp only [paintTab]
  split
  · exact SameStrip.refl deck
  · next tab present => exact SameStrip.of_set deck.link present rfl rfl rfl

theorem reselects_of_handle {event : Input} (done : deck.handle event = .ok (outcome, after)) :
    deck.Reselects after := by
  rcases handle_eq_ok done with ⟨-, rfl⟩ | ⟨-, handled⟩
  · exact (SameStrip.refl after).reselects
  · cases event with
    | press touch => exact reselects_of_press handled
    | drag touch movement time => exact (sameStrip_of_drag handled).reselects
    | release touch => exact reselects_of_release handled
    | abandon => exact (sameStrip_of_abandon handled).reselects
    | key direction => exact reselects_of_handleFocus handled
    | action => exact reselects_of_handleFocus handled
    | focus => exact reselects_of_handleFocus handled

/-- How an action treats the strip. -/
inductive StripStep [FontMetrics μ] (before after : Deck μ σ) (action : Action) : Prop where
  | reselects (reselects : before.Reselects after)
  | enables (enabled : Bool) (mid : Deck μ σ) (same : action = .enable enabled)
      (kept : ({ before with enabled } : Deck μ σ).SameStrip mid)
      (done : after = mid.enableArrows enabled)
  | places (bounds : Rect) (outcome : Outcome) (same : action = .placeAt bounds)
      (done : before.placeAt bounds = .ok (outcome, after))
  | showsIcons (icons : List Image) (outcome : Outcome) (same : action = .showIcons icons)
      (done : before.showIcons icons = .ok (outcome, after))
  | relabels (captions : List Caption) (outcome : Outcome) (same : action = .relabel captions)
      (done : before.relabel captions = .ok (outcome, after))

theorem stripStep_of_enable [FontMetrics μ] {enabled : Bool}
    (done : deck.enable enabled = .ok (outcome, after)) :
    deck.StripStep after (.enable enabled) := by
  rcases enable_eq_ok done with rfl | ⟨mid, -, rfl, opens, closes⟩
  · exact .reselects (SameStrip.refl after).reselects
  have unpressed : ({ deck with enabled } : Deck μ σ).SameStrip
      { deck with enabled, pressed := none } := ⟨rfl, rfl, rfl, rfl, rfl⟩
  refine .enables enabled mid rfl ?_ rfl
  cases enabled with
  | true =>
    rw [opens rfl]
    exact unpressed
  | false =>
    rcases closes rfl with ⟨moved, calledOff⟩
    exact unpressed.trans (sameStrip_of_callOff calledOff)

theorem stripStep_of_perform [FontMetrics μ] {action : Action} {answer : Answer}
    (done : deck.perform action = .ok (answer, after)) : deck.StripStep after action := by
  cases action with
  | showIcons icons =>
    rcases acceptedOr_eq_ok.mp done with ⟨outcome, shown, -⟩ | ⟨_, -, rfl, -⟩
    · exact .showsIcons icons outcome rfl shown
    · exact .reselects (SameStrip.refl after).reselects
  | relabel captions =>
    rcases acceptedOr_eq_ok.mp done with ⟨outcome, relabelled, -⟩ | ⟨_, -, rfl, -⟩
    · exact .relabels captions outcome rfl relabelled
    · exact .reselects (SameStrip.refl after).reselects
  | paintTab index colour =>
    cases done
    exact .reselects (sameStrip_paintTab deck index colour).reselects
  | usePalette palette =>
    cases done
    have painted : deck.SameStrip { deck with palette } := ⟨rfl, rfl, rfl, rfl, rfl⟩
    exact .reselects painted.reselects
  | placeAt bounds =>
    rcases accepted_eq_ok.mp done with ⟨outcome, placed, -⟩
    exact .places bounds outcome rfl placed
  | select index =>
    rcases accepted_eq_ok.mp done with ⟨outcome, selected, -⟩
    exact .reselects ((SameStrip.refl deck).thenSwitched (switched_of_select selected))
  | enableTab index enabled =>
    rcases accepted_eq_ok.mp done with ⟨outcome, changed, -⟩
    exact .reselects (reselects_of_enableTab changed)
  | supplyPane index handle =>
    rcases accepted_eq_ok.mp done with ⟨outcome, supplied, -⟩
    exact .reselects (sameStrip_of_supplyPane supplied).reselects
  | enable enabled =>
    rcases accepted_eq_ok.mp done with ⟨outcome, changed, -⟩
    exact stripStep_of_enable changed
  | input event =>
    rcases accepted_eq_ok.mp done with ⟨outcome, handled, -⟩
    exact .reselects (reselects_of_handle handled)
  | abandon =>
    rcases accepted_eq_ok.mp done with ⟨outcome, abandoned, -⟩
    exact .reselects (sameStrip_of_abandon abandoned).reselects
  | reclaimFocus =>
    rcases accepted_eq_ok.mp done with ⟨outcome, reclaimed, -⟩
    exact .reselects (reselects_of_handleFocus reclaimed)
  | tick elapsed =>
    rcases accepted_eq_ok.mp done with ⟨outcome, ticked, -⟩
    exact .reselects (reselects_of_tick ticked)

/-- What holds of every deck whose strip was just arranged, and does not look beyond the strip, is
kept by every action. -/
theorem kept_of_perform [FontMetrics μ] {holds : Deck μ σ → Prop} {action : Action}
    {answer : Answer} (arranged : ∀ deck : Deck μ σ, holds deck.arrange)
    (same : ∀ {first second : Deck μ σ}, holds first → first.SameStrip second → holds second)
    (toggled : ∀ {first second : Deck μ σ} {enabled : Bool}, holds first →
      ({ first with enabled } : Deck μ σ).SameStrip second → holds (second.enableArrows enabled))
    (initially : holds before) (done : before.perform action = .ok (answer, after)) :
    holds after := by
  cases stripStep_of_perform done with
  | reselects reselects =>
    rcases reselects with ⟨mid, last, kept, switched, again⟩
    refine same ?_ again
    rcases switched with rfl | ⟨_, _, -, -, activated⟩
    · exact same initially kept
    · rcases activate_eq_ok activated with ⟨_, _, renewed, -, rfl, -⟩
      exact arranged renewed
  | enables enabled mid _ kept result =>
    rw [result]
    exact toggled initially kept
  | places bounds outcome _ done =>
    rcases placeAt_eq_ok done with ⟨_, _, _, _, _, last, -, -, -, -, -, -, rfl⟩
    exact arranged last
  | showsIcons icons outcome _ shown =>
    rcases showIcons_eq_ok shown with ⟨-, tabs, -, rfl⟩
    exact arranged _
  | relabels captions outcome _ relabelled =>
    rcases relabel_eq_ok relabelled with ⟨mid, area, -, -, rfl⟩
    exact arranged _

end Steps

end Deck

end TabDeck
