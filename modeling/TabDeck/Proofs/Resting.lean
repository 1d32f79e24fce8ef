import TabDeck.Proofs.Coherence
import TabDeck.Proofs.Constancy
import TabDeck.Simulator.DemoPanes

/-!
# Where the panes come to rest

In flick mode the panes should come to rest on the active tab. What carries this through a session
is the remembered offset: it is that of the active tab, and a row without a gesture stands there.
Two actions break it. A finger that comes down remembers the offset of any pane that is aligned, and
a finger that goes up without having dragged ends the settling on it, whether or not the tab of that
pane is active. The panes come to rest on the active tab exactly in the sessions that do neither.
-/

namespace TabDeck

/-- Whether a finger is on the display after an action. -/
def Action.finger (down : Bool) : Action → Bool
  | .input (.press _) => true
  | .input (.release _) | .input .abandon | .abandon => false
  | _ => down

/-- Whether a finger is on the display after a session. -/
def fingerDown (actions : List Action) : Bool := actions.foldl Action.finger false

theorem fingerDown_snoc (earlier : List Action) (action : Action) :
    fingerDown (earlier ++ [action]) = action.finger (fingerDown earlier) := by
  simp only [fingerDown, List.foldl_append, List.foldl_cons, List.foldl_nil]

namespace Deck

variable {μ σ : Type}

/-- No finger drags the row, and it does not settle. -/
def AtRest (deck : Deck μ σ) : Prop :=
  deck.gesture.isDragging = false ∧ deck.gesture.target = none

/-- The row is shifted by the offset of the active tab, whose pane fills the area of the panes. -/
def ShowsActive (deck : Deck μ σ) : Prop :=
  ∃ active, deck.active = some active ∧ deck.row.offsetOf active = .ok deck.row.offset ∧
    deck.row.paneLeft active = 0

/-- The left edges of all panes fit the coordinates. -/
def InReach (deck : Deck μ σ) : Prop :=
  (((deck.tabs.length - 1) * deck.bounds.size.width : Nat) : Int) ≤ Word.maxSigned

instance (deck : Deck μ σ) : Decidable deck.InReach :=
  inferInstanceAs (Decidable (_ ≤ _))

/-- With no finger on the display and no gesture, the deck shows the active tab. -/
def RestsOnActive (down : Bool) (deck : Deck μ σ) : Prop :=
  deck.InReach → down = false → deck.AtRest → deck.ShowsActive

/-- The action ends the movement of the row where the pane of another than the active tab is
aligned. -/
def Strands [FontMetrics μ] [PaneHost σ] (deck : Deck μ σ) (action : Action) : Prop :=
  deck.InReach ∧ deck.enabled = true ∧
    (∃ touch, action = .input (.press touch) ∨
      action = .input (.release touch) ∧ deck.gesture.isDragging = false) ∧
    (∃ other, deck.row.aligned = some other ∧ deck.active ≠ some other) ∧
    ∃ answer after, deck.perform action = .ok (answer, after) ∧ after.active = deck.active

theorem Coherent.fits_iff {deck : Deck μ σ} (coherent : deck.Coherent) :
    deck.row.Fits ↔ deck.InReach := by
  constructor
  · rintro ⟨-, -, reach⟩
    rw [coherent.counted, coherent.sideBySide, coherent.spans] at reach
    exact reach
  · intro reach
    refine ⟨?_, coherent.sideBySide, ?_⟩
    · rw [coherent.counted]
      exact coherent.nonempty
    · rw [coherent.counted, coherent.sideBySide, coherent.spans]
      exact reach

/-- The row would go back to the active tab. -/
def HomeRemembered (deck : Deck μ σ) : Prop :=
  ∃ active, deck.active = some active ∧ deck.row.offsetOf active = .ok deck.row.remembered

/-- What rests stands at the remembered offset, and that is the offset of the active tab. -/
structure Homed (down : Bool) (deck : Deck μ σ) : Prop where
  home : deck.HomeRemembered
  /-- Without a finger and a gesture the row stands where it would go back to. -/
  still : deck.gesture.phase = .resting → down = false → deck.row.offset = deck.row.remembered
  /-- So does the row of a disabled deck. -/
  inert : deck.enabled = false → deck.row.offset = deck.row.remembered

/-- The row stands where it would go back to, whatever else goes on. -/
structure Stands (deck : Deck μ σ) : Prop where
  home : deck.HomeRemembered
  stands : deck.row.offset = deck.row.remembered

theorem Stands.homed {deck : Deck μ σ} (stands : deck.Stands) (down : Bool) : deck.Homed down :=
  ⟨stands.home, fun _ _ => stands.stands, fun _ => stands.stands⟩

theorem HomeRemembered.congr {before after : Deck μ σ} (home : before.HomeRemembered)
    (size : before.row.SameSize after.row) (remembered : after.row.remembered = before.row.remembered)
    (active : after.active = before.active) : after.HomeRemembered := by
  rcases home with ⟨home, isHome, found⟩
  refine ⟨home, active.trans isHome, ?_⟩
  rw [size.offsetOf, remembered]
  exact found

namespace Homed

variable {down : Bool} {before after deck : Deck μ σ}

theorem congr (homed : before.Homed down)
    (row : ∃ stripWidth, after.row = before.row.withStripWidth stripWidth)
    (active : after.active = before.active) (gesture : after.gesture.phase = before.gesture.phase)
    (enabled : after.enabled = before.enabled) : after.Homed down := by
  rcases row with ⟨stripWidth, row⟩
  refine ⟨homed.home.congr ?_ ?_ active, ?_, ?_⟩
  · rw [row]
    exact ⟨rfl, rfl, rfl⟩
  · rw [row]
    rfl
  · rw [gesture, row]
    exact homed.still
  · rw [enabled, row]
    exact homed.inert

theorem served (homed : before.Homed down) (served : before.Served after) :
    after.Homed down := by
  rcases served with ⟨_, _, rfl, -⟩
  exact homed.congr ⟨before.row.stripWidth, rfl⟩ rfl rfl rfl

theorem restyled (homed : before.Homed down) (restyled : before.Restyled after) :
    after.Homed down := by
  rcases restyled with ⟨_, _, _, _, _, stripWidth, _, _, rfl, -⟩
  exact homed.congr ⟨stripWidth, rfl⟩ rfl rfl rfl

end Homed

namespace Stands

variable {before after deck : Deck μ σ}

theorem served (stands : before.Stands) (served : before.Served after) : after.Stands := by
  rcases served with ⟨_, _, rfl, -⟩
  exact ⟨stands.home.congr ⟨rfl, rfl, rfl⟩ rfl rfl, stands.stands⟩

theorem restyled (stands : before.Stands) (restyled : before.Restyled after) : after.Stands := by
  rcases restyled with ⟨_, _, _, _, _, stripWidth, _, _, rfl, -⟩
  exact ⟨stands.home.congr ⟨rfl, rfl, rfl⟩ rfl rfl, stands.stands⟩

theorem of_alignTo {row : PaneRow} {active : Nat} (aligned : row.alignTo active = .ok deck.row)
    (isActive : deck.active = some active) : deck.Stands := by
  have size := PaneRow.sameSize_of_alignTo aligned
  rcases PaneRow.alignTo_eq_ok aligned with ⟨offset, found, same⟩
  refine ⟨⟨active, isActive, ?_⟩, ?_⟩
  · rw [size.offsetOf, found, same]
  · rw [same]

section Steps

variable [PaneHost σ] {outcome : Outcome} {index : Nat}

theorem of_activate (flicks : deck.settings.flicks = true)
    (done : deck.activate index = .ok (outcome, after)) : after.Stands := by
  rcases activate_eq_ok done with ⟨row, gesture, mid, served, rfl, follows, -⟩
  rcases follows flicks with ⟨aligned, -⟩
  apply Stands.restyled _ (restyled_arrange mid)
  apply Stands.served _ served
  exact of_alignTo aligned rfl

/-- A placed deck stands on its active tab. -/
theorem of_placeAt [FontMetrics μ] (coherent : deck.Coherent)
    (flicks : deck.settings.flicks = true) {bounds : Rect}
    (done : deck.placeAt bounds = .ok (outcome, after)) : after.Stands := by
  rcases placeAt_eq_ok done with ⟨measured, area, row, stripWidth, shown, last, restyled, -, -,
    showed, stays, selects, rfl⟩
  have measuredFlicks : measured.settings.flicks = true := by
    rw [(Keeps.of_restyled restyled).settings]
    exact flicks
  have shownFlicks : shown.settings.flicks = true := by
    rw [(Keeps.of_showPanes showed).settings]
    exact measuredFlicks
  apply Stands.restyled _ (restyled_arrange last)
  rcases served_of_showPanes showed with ⟨aligned, served, follows, -⟩
  cases isActive : shown.active with
  | some active =>
    rw [stays active isActive]
    have wasActive : measured.active = some active := by
      rcases served with ⟨_, _, rfl, -⟩
      exact isActive
    apply Stands.served _ served
    exact of_alignTo (follows active measuredFlicks wasActive) wasActive
  | none =>
    rcases selects isActive with ⟨selection, selected⟩
    have length : shown.tabs.length = deck.tabs.length :=
      (Keeps.of_showPanes showed).length.trans restyled.length_tabs
    rcases activate_of_select_first (length ▸ coherent.nonempty) isActive selected with
      ⟨index, -, activated⟩
    exact of_activate shownFlicks activated

/-- Calling a gesture off leads back home. -/
theorem of_callOff (home : before.HomeRemembered) {moved : Bool}
    (done : before.callOff = .ok (moved, after)) : after.Stands := by
  apply Stands.served _ (served_of_callOff done)
  exact ⟨home.congr ⟨rfl, rfl, rfl⟩ rfl rfl, rfl⟩

end Steps

end Stands

/-! ## Steps -/

namespace Homed

variable [PaneHost σ] {down : Bool} {deck after : Deck μ σ} {outcome : Outcome} {index : Nat}

theorem switched {before : Deck μ σ} (homed : before.Homed down)
    (flicks : before.settings.flicks = true) (switched : before.Switched after) :
    after.Homed down := by
  rcases switched with rfl | ⟨index, outcome, -, -, activated⟩
  · exact homed
  · exact (Stands.of_activate flicks activated).homed down

theorem tick (homed : deck.Homed down) (coherent : deck.Coherent)
    (flicks : deck.settings.flicks = true) {elapsed : Nat}
    (done : deck.tick elapsed = .ok (outcome, after)) : after.Homed down := by
  rcases tick_eq_ok done with ⟨progress, gesture, row, ticked, rest⟩
  rcases Gesture.tick_eq_ok ticked with ⟨rfl, -, -, -⟩ |
    ⟨target, offset, settling, -, ⟨rfl, -, aligned, -⟩ | ⟨rfl, still, moved, -⟩⟩
  · rw [rest.1]
    exact homed
  · rcases rest with ⟨mid, selection, moved, selected, -⟩
    have served := served_of_moveAll moved
    have length : mid.tabs.length = deck.tabs.length := served.length_tabs
    have present := coherent.targeted target (Gesture.target_eq_some_iff.mpr settling)
    rcases select_eq_ok selected with ⟨rfl, -, absent | already⟩ | ⟨-, -, activated⟩
    · omega
    · have isActive : deck.active = some target := by
        rcases served with ⟨_, _, rfl, -⟩
        exact already
      have stands : ({ deck with gesture, row } : Deck μ σ).Stands :=
        Stands.of_alignTo aligned isActive
      exact (stands.served served).homed down
    · have midFlicks : mid.settings.flicks = true := by
        rw [(Keeps.of_served served).settings]
        exact flicks
      exact (Stands.of_activate midFlicks activated).homed down
  · apply Homed.served _ (served_of_moveAll rest.1)
    refine ⟨homed.home.congr (PaneRow.sameSize_of_moveTo moved) ?_ rfl, ?_, ?_⟩
    · rcases PaneRow.moveTo_eq_ok moved with ⟨_, -, rfl⟩
      rfl
    · intro resting
      rw [still] at resting
      cases resting
    · intro disabled
      rw [coherent.inert disabled] at settling
      cases settling

omit [PaneHost σ] in
/-- A finger that comes down where the active tab is aligned, or none, changes nothing about where
the row would go back to. -/
theorem beginGesture (homed : deck.Homed down) (coherent : deck.Coherent) (fits : deck.row.Fits)
    (flicks : deck.settings.flicks = true) (enabled : deck.enabled = true) (point : Point)
    (onActive : ∀ other, deck.row.aligned = some other → deck.active = some other) :
    (deck.beginGesture point).Homed true := by
  rw [beginGesture_eq flicks]
  refine ⟨?_, nofun, ?_⟩
  · cases aligned : deck.row.aligned with
    | none => exact homed.home.congr ⟨rfl, rfl, rfl⟩ rfl rfl
    | some other =>
      have isActive := onActive other aligned
      have present : other < deck.row.count := by
        rw [coherent.counted]
        exact coherent.present other isActive
      have size : deck.row.SameSize deck.row.remember := ⟨rfl, rfl, rfl⟩
      refine ⟨other, isActive, ?_⟩
      simp only [Option.isSome_some, if_true]
      rw [size.offsetOf, fits.offsetOf_eq present]
      have edge := ((deck.row.aligned_eq_some_iff other).mp aligned).2
      rw [fits.paneLeft_eq present] at edge
      congr 1
      show _ = deck.row.offset
      omega
  · intro disabled
    rw [show deck.enabled = false from disabled] at enabled
    cases enabled

theorem press (homed : deck.Homed down) (coherent : deck.Coherent) (fits : deck.row.Fits)
    (flicks : deck.settings.flicks = true) (enabled : deck.enabled = true) {touch : Touch}
    (harmless : ∀ other, deck.row.aligned = some other → after.active = deck.active →
      deck.active = some other)
    (done : deck.press touch = .ok (outcome, after)) : after.Homed true := by
  rcases press_eq_ok done with ⟨point, rest⟩
  have begun := homed.beginGesture coherent fits flicks enabled point
  have sameActive : (deck.beginGesture point).active = deck.active := by
    rw [beginGesture_eq flicks]
  have sameFlicks : (deck.beginGesture point).settings.flicks = true := by
    rw [beginGesture_eq flicks]
    exact flicks
  rcases rest with (rfl | ⟨index, outcome, -, -, activated⟩) | ⟨index, rfl⟩
  · exact begun fun other aligned => harmless other aligned sameActive
  · exact (Stands.of_activate sameFlicks activated).homed true
  · exact (begun fun other aligned => harmless other aligned sameActive).congr
      ⟨(deck.beginGesture point).row.stripWidth, rfl⟩ rfl rfl rfl

theorem drag (homed : deck.Homed down) (enabled : deck.enabled = true) {movement : Point}
    {time : Nat} (done : deck.drag movement time = .ok (outcome, after)) : after.Homed down := by
  rcases drag_eq_ok done with ⟨-, rfl⟩ | ⟨active, taken, gesture, row, -, -, dragged, takes, leaves⟩
  · exact homed
  · rcases Gesture.drag_eq_ok dragged with ⟨rfl, dragging, moved, -, -⟩ | ⟨rfl, same, rfl, -, -⟩
    · apply Homed.served _ (served_of_moveAll (takes rfl))
      refine ⟨homed.home.congr (PaneRow.sameSize_of_moveBy moved) ?_ rfl, ?_, ?_⟩
      · rcases PaneRow.moveBy_eq_ok moved with rfl | ⟨_, -, rfl⟩ <;> rfl
      · intro resting
        rw [dragging] at resting
        cases resting
      · intro disabled
        rw [show deck.enabled = false from disabled] at enabled
        cases enabled
    · rw [leaves rfl]
      exact homed.congr ⟨deck.row.stripWidth, rfl⟩ rfl same rfl

omit [PaneHost σ] in
/-- A row that fits and has no nearest pane has no width, and stands at zero. -/
theorem offset_eq_remembered_of_nearest_eq_none (coherent : deck.Coherent) (fits : deck.row.Fits)
    (lost : deck.row.nearest = none) : deck.row.offset = deck.row.remembered := by
  have within := coherent.within
  have narrow : deck.row.stride = 0 := by
    by_contra wide
    have inRange : deck.row.InRange := by
      refine ⟨?_, within.offset_le_zero⟩
      rw [← fits.lowest_eq]
      exact within.lowest_le_offset
    have found := inRange.nearest_isSome fits (Nat.pos_of_ne_zero wide)
    rw [lost] at found
    cases found
  exact within.offset_eq_remembered fits.nonempty fits.sideBySide narrow

omit [PaneHost σ] in
/-- A finger that goes up lets the row rest only where it would go back to, unless another pane is
aligned. It comes to rest at once where a pane is aligned, or where no pane is near. -/
theorem letGo (homed : deck.Homed down) (coherent : deck.Coherent) (fits : deck.row.Fits)
    (enabled : deck.enabled = true)
    (onActive : ∀ other, deck.gesture.isDragging = false → deck.row.aligned = some other →
      deck.active = some other) :
    ({ deck with gesture := deck.gesture.release deck.row } : Deck μ σ).Homed false := by
  refine ⟨homed.home, ?_, ?_⟩
  · intro resting _
    show deck.row.offset = deck.row.remembered
    have untargeted : (deck.gesture.release deck.row).target = none := by
      cases target : (deck.gesture.release deck.row).target with
      | none => rfl
      | some pane =>
        rw [Gesture.target_eq_some_iff.mp target] at resting
        cases resting
    rw [Gesture.release_target] at untargeted
    split at untargeted
    · next idle =>
      rcases Option.isSome_iff_exists.mp idle.2 with ⟨other, aligned⟩
      have isActive := onActive other idle.1 aligned
      have present : other < deck.row.count := by
        rw [coherent.counted]
        exact coherent.present other isActive
      rcases homed.home with ⟨active, alsoActive, home⟩
      rw [isActive] at alsoActive
      cases alsoActive
      rw [fits.offsetOf_eq present, Except.ok.injEq] at home
      have edge := ((deck.row.aligned_eq_some_iff other).mp aligned).2
      rw [fits.paneLeft_eq present] at edge
      omega
    · exact offset_eq_remembered_of_nearest_eq_none coherent fits untargeted
  · intro disabled
    rw [show deck.enabled = false from disabled] at enabled
    cases enabled

theorem release (homed : deck.Homed down) (coherent : deck.Coherent) (fits : deck.row.Fits)
    (flicks : deck.settings.flicks = true) (enabled : deck.enabled = true)
    (harmless : ∀ other, deck.gesture.isDragging = false → deck.row.aligned = some other →
      after.active = deck.active → deck.active = some other)
    (done : deck.release = .ok (outcome, after)) : after.Homed false := by
  rcases release_eq_ok done with ⟨mid, rfl | ⟨index, outcome, -, -, activated⟩, -, settles, -⟩
  · rw [settles flicks]
    have unpressed : ({ deck with pressed := none } : Deck μ σ).Homed down :=
      homed.congr ⟨deck.row.stripWidth, rfl⟩ rfl rfl rfl
    apply unpressed.letGo (coherent.pressing none) fits enabled
    intro other still aligned
    apply harmless other still aligned
    rw [settles flicks]
  · have unpressedFlicks : ({ deck with pressed := none } : Deck μ σ).settings.flicks = true := flicks
    have stands := Stands.of_activate unpressedFlicks activated
    rw [settles flicks]
    exact ⟨stands.home, fun _ _ => stands.stands, fun _ => stands.stands⟩

theorem enable (homed : deck.Homed down) {enabled : Bool}
    (done : deck.enable enabled = .ok (outcome, after)) : after.Homed down := by
  rcases enable_eq_ok done with rfl | ⟨mid, -, rfl, opens, closes⟩
  · exact homed
  · apply Homed.restyled _ (restyled_enableArrows mid enabled)
    cases enabled with
    | true =>
      rw [opens rfl]
      exact ⟨homed.home, homed.still, nofun⟩
    | false =>
      rcases closes rfl with ⟨moved, calledOff⟩
      have home : ({ deck with enabled := false, pressed := none } : Deck μ σ).HomeRemembered :=
        homed.home
      exact (Stands.of_callOff home calledOff).homed down

theorem abandon (homed : deck.Homed down) (done : deck.abandon = .ok (outcome, after)) :
    after.Stands := by
  rcases abandon_eq_ok done with ⟨moved, calledOff⟩
  have home : ({ deck with pressed := none } : Deck μ σ).HomeRemembered := homed.home
  exact Stands.of_callOff home calledOff

theorem handleFocus (homed : deck.Homed down) (flicks : deck.settings.flicks = true)
    {event : KeyFocus.Event} (done : deck.handleFocus event = .ok (outcome, after)) :
    after.Homed down := by
  rcases switched_or_served_of_handleFocus done with ⟨focus, rest⟩
  have focused : ({ deck with focus } : Deck μ σ).Homed down :=
    homed.congr ⟨deck.row.stripWidth, rfl⟩ rfl rfl rfl
  rcases rest with switched | served
  · exact focused.switched flicks switched
  · exact focused.served served

/-- Where a step does no harm, it keeps the row homed. -/
theorem handle [FontMetrics μ] (homed : deck.Homed down) (coherent : deck.Coherent)
    (fits : deck.row.Fits) (flicks : deck.settings.flicks = true) {event : Input}
    (harmless : ¬ deck.Strands (.input event))
    (done : deck.handle event = .ok (outcome, after)) :
    after.Homed ((Action.input event).finger down) := by
  rcases handle_eq_ok done with ⟨disabled, rfl⟩ | ⟨enabled, handled⟩
  · exact ⟨homed.home, fun _ _ => homed.inert disabled, homed.inert⟩
  · have performed : deck.perform (.input event) = .ok (.ok outcome, after) :=
      accepted_eq_ok.mpr ⟨outcome, done, rfl⟩
    have reach := coherent.fits_iff.mp fits
    cases event with
    | press touch =>
      apply homed.press coherent fits flicks enabled _ handled
      intro other aligned kept
      by_contra inactive
      exact harmless ⟨reach, enabled, ⟨touch, Or.inl rfl⟩, ⟨other, aligned, inactive⟩, _, _,
        performed, kept⟩
    | drag touch movement time => exact homed.drag enabled handled
    | release touch =>
      apply homed.release coherent fits flicks enabled _ handled
      intro other still aligned kept
      by_contra inactive
      exact harmless ⟨reach, enabled, ⟨touch, Or.inr ⟨rfl, still⟩⟩, ⟨other, aligned, inactive⟩, _,
        _, performed, kept⟩
    | abandon => exact (homed.abandon handled).homed false
    | key direction => exact homed.handleFocus flicks handled
    | action => exact homed.handleFocus flicks handled
    | focus => exact homed.handleFocus flicks handled

theorem perform [FontMetrics μ] (homed : deck.Homed down) (coherent : deck.Coherent)
    (fits : deck.row.Fits) (flicks : deck.settings.flicks = true) {action : Action}
    {answer : Answer} (harmless : ¬ deck.Strands action)
    (done : deck.perform action = .ok (answer, after)) : after.Homed (action.finger down) := by
  cases action with
  | showIcons icons =>
    rcases acceptedOr_eq_ok.mp done with ⟨outcome, shown, -⟩ | ⟨_, -, rfl, -⟩
    · exact homed.restyled (restyled_of_showIcons shown)
    · exact homed
  | relabel captions =>
    rcases acceptedOr_eq_ok.mp done with ⟨outcome, relabelled, -⟩ | ⟨_, -, rfl, -⟩
    · rcases relabel_eq_ok relabelled with ⟨mid, area, restyled, -, rfl⟩
      have refitted : ({ mid with paneArea := area } : Deck μ σ).Homed down :=
        (homed.restyled restyled).congr ⟨mid.row.stripWidth, rfl⟩ rfl rfl rfl
      exact refitted.restyled (restyled_arrange _)
    · exact homed
  | paintTab index colour =>
    cases done
    exact homed.restyled (restyled_paintTab deck index colour)
  | usePalette palette =>
    cases done
    exact homed.restyled (restyled_usePalette deck palette)
  | placeAt bounds =>
    rcases accepted_eq_ok.mp done with ⟨outcome, placed, -⟩
    exact (Stands.of_placeAt coherent flicks placed).homed down
  | select index =>
    rcases accepted_eq_ok.mp done with ⟨outcome, selected, -⟩
    exact homed.switched flicks (switched_of_select selected)
  | enableTab index enabled =>
    rcases accepted_eq_ok.mp done with ⟨outcome, changed, -⟩
    rcases enableTab_eq_ok changed with ⟨tabs, toggled, switched⟩
    exact (homed.restyled (restyled_tabs (toggled fun _ _ => rfl))).switched flicks switched
  | supplyPane index handle =>
    rcases accepted_eq_ok.mp done with ⟨outcome, supplied, -⟩
    rcases supplyPane_eq_ok supplied with rfl | ⟨tab, link, -, rfl, -⟩
    · exact homed
    · exact homed.congr ⟨deck.row.stripWidth, rfl⟩ rfl rfl rfl
  | enable enabled =>
    rcases accepted_eq_ok.mp done with ⟨outcome, changed, -⟩
    exact homed.enable changed
  | input event =>
    rcases accepted_eq_ok.mp done with ⟨outcome, handled, -⟩
    exact homed.handle coherent fits flicks harmless handled
  | abandon =>
    rcases accepted_eq_ok.mp done with ⟨outcome, abandoned, -⟩
    exact (homed.abandon abandoned).homed false
  | reclaimFocus =>
    rcases accepted_eq_ok.mp done with ⟨outcome, reclaimed, -⟩
    exact homed.handleFocus flicks reclaimed
  | tick elapsed =>
    rcases accepted_eq_ok.mp done with ⟨outcome, ticked, -⟩
    exact homed.tick coherent flicks ticked

end Homed

/-! ## Sessions -/

section Sessions

variable [FontMetrics μ] [PaneHost σ] {deck after placed : Deck μ σ} {outcome : Outcome}
  {actions : List Action}

omit [FontMetrics μ] [PaneHost σ] in
theorem Keeps.inReach (keeps : deck.Keeps after) (reach : after.InReach) : deck.InReach := by
  simp only [InReach, keeps.length, keeps.bounds] at reach ⊢
  exact reach

/-- Without harm an action keeps the row homed, wherever the deck is not too wide. -/
theorem Homed.perform_of_inReach {down : Bool} {action : Action} {answer : Answer}
    (homed : deck.InReach → deck.Homed down) (coherent : deck.Coherent)
    (flicks : deck.settings.flicks = true) (harmless : ¬ deck.Strands action)
    (performed : deck.perform action = .ok (answer, after)) (reach : after.InReach) :
    after.Homed (action.finger down) := by
  rcases placed_or_keeps performed with ⟨bounds, outcome, rfl, placed⟩ | ⟨-, keeps⟩
  · exact (Stands.of_placeAt coherent flicks placed).homed _
  · have reachBefore := keeps.inReach reach
    exact (homed reachBefore).perform coherent (coherent.fits_iff.mpr reachBefore) flicks harmless
      performed

omit [FontMetrics μ] [PaneHost σ] in
/-- A homed deck rests on its active tab. -/
theorem Homed.restsOnActive {down : Bool} (homed : deck.InReach → deck.Homed down)
    (coherent : deck.Coherent) : deck.RestsOnActive down := by
  intro reach up ⟨still, untargeted⟩
  have fits := coherent.fits_iff.mpr reach
  rcases (homed reach).home with ⟨active, isActive, home⟩
  have stands := (homed reach).still (Gesture.phase_eq_resting still untargeted) up
  have present : active < deck.row.count := by
    rw [coherent.counted]
    exact coherent.present active isActive
  rw [← stands] at home
  refine ⟨active, isActive, home, ?_⟩
  rw [fits.offsetOf_eq present, Except.ok.injEq] at home
  rw [fits.paneLeft_eq present, ← home]
  omega

omit [FontMetrics μ] [PaneHost σ] in
/-- At most one pane is aligned, so that with another one aligned the active tab is not shown. -/
theorem not_showsActive {other : Nat} (coherent : deck.Coherent)
    (reach : deck.InReach) (aligned : deck.row.aligned = some other)
    (inactive : deck.active ≠ some other) (shown : Deck μ σ) (sameActive : shown.active = deck.active)
    (size : deck.row.SameSize shown.row) (offset : shown.row.offset = deck.row.offset) :
    ¬ shown.ShowsActive := by
  rintro ⟨active, isActive, -, edge⟩
  have fits := coherent.fits_iff.mpr reach
  have fitsStill := size.fits fits
  rcases (deck.row.aligned_eq_some_iff other).mp aligned with ⟨⟨present, close, -, -⟩, otherEdge⟩
  rw [sameActive] at isActive
  have activePresent : active < deck.row.count := by
    rw [coherent.counted]
    exact coherent.present active isActive
  rw [fitsStill.paneLeft_eq (size.1 ▸ activePresent), offset, size.2.1] at edge
  rw [fits.paneLeft_eq present] at otherEdge
  have wide : 0 < deck.row.stride := by omega
  have same : active = other := by
    apply Nat.eq_of_mul_eq_mul_right wide
    omega
  rw [same] at isActive
  exact inactive isActive

/-- An action that strands the row leads to a rest beside the active tab: at once if the finger went
up, and if it came down, once the gesture is called off. -/
theorem Strands.unsettles {action : Action} {down : Bool} (strands : deck.Strands action)
    (coherent : deck.Coherent) (flicks : deck.settings.flicks = true) :
    ∃ answer after, deck.perform action = .ok (answer, after) ∧
      ¬ (after.RestsOnActive (action.finger down) ∧
        ∀ answer called, after.perform .abandon = .ok (answer, called) →
          called.RestsOnActive false) := by
  rcases strands with ⟨reach, enabled, ended, ⟨other, aligned, inactive⟩, answer, after, performed,
    kept⟩
  refine ⟨answer, after, performed, ?_⟩
  rintro ⟨rests, restsIfCalledOff⟩
  have missed := not_showsActive coherent reach aligned inactive
  have present : deck.row.aligned.isSome = true := by
    rw [aligned]
    rfl
  rcases ended with ⟨touch, rfl | ⟨rfl, still⟩⟩
  · rcases perform_press_eq_ok enabled performed with ⟨outcome, handled⟩
    rcases press_eq_ok_of_kept flicks handled kept with ⟨inStrip, pressed, begun⟩
    rw [present, if_pos rfl] at begun
    have stands : after.row.remembered = after.row.offset := by
      rw [begun]
      rfl
    rcases abandon_of_stands stands with ⟨abandoned, calledOff⟩
    have reachStill : after.InReach := by
      rw [begun]
      exact reach
    have shows := restsIfCalledOff _ _ (accepted_eq_ok.mpr ⟨abandoned, calledOff, rfl⟩) reachStill
      rfl ⟨rfl, rfl⟩
    rw [begun] at shows
    exact missed _ rfl ⟨rfl, rfl, rfl⟩ rfl shows
  · rcases perform_release_eq_ok enabled performed with ⟨outcome, handled⟩
    have letGo := release_eq_ok_of_kept flicks handled kept
    have untargeted : after.gesture.target = none := by
      rw [letGo, Gesture.release_target, if_pos ⟨still, present⟩]
    have undragged : after.gesture.isDragging = false := by
      rw [letGo]
      exact Gesture.release_not_dragging
    have reachStill : after.InReach := by
      rw [letGo]
      exact reach
    have shows := rests reachStill rfl ⟨undragged, untargeted⟩
    rw [letGo] at shows
    exact missed _ rfl ⟨rfl, rfl, rfl⟩ rfl shows

variable {capacity : Nat} {captions : List Caption} {metrics : μ} {host : σ} {settings : Settings}
  {start : Deck μ σ} {bounds : Rect} {answer : Answer}

/-- A deck that flicks and was placed rests on its active tab at every point of a session, and also
if the gesture is called off there, exactly if no action of the session strands it. -/
theorem rests_on_active_iff
    (made : ofCaptions capacity captions metrics host settings = .ok start)
    (flicks : settings.mode = .flick)
    (first : start.perform (.placeAt bounds) = .ok (answer, placed)) (actions : List Action) :
    (placed.Throughout actions fun earlier deck =>
      deck.RestsOnActive (fingerDown earlier) ∧
        ∀ answer called, deck.perform .abandon = .ok (answer, called) →
          called.RestsOnActive false) ↔
      placed.Avoids actions Strands := by
  have coherentStart := coherent_ofCaptions made
  have coherent := coherentStart.perform first
  have flicksStart : start.settings.flicks = true := by
    rcases ofCaptions_eq_ok made with ⟨-, _, _, -, rfl⟩
    simp [Settings.flicks, flicks]
  have flicksPlaced : placed.settings.flicks = true := by
    rw [(Lasts.of_perform first).settings]
    exact flicksStart
  rcases accepted_eq_ok.mp first with ⟨outcome, placedAt, -⟩
  have homed := (Stands.of_placeAt coherentStart flicksStart placedAt).homed false
  have flicksReached : ∀ earlier deck, placed.Reaches earlier deck →
      deck.settings.flicks = true := by
    intro earlier deck reached
    rw [reached.lasts.settings]
    exact flicksPlaced
  apply throughout_iff_avoids
    (fun earlier deck => deck.InReach → deck.Homed (fingerDown earlier)) fun _ => homed
  · intro earlier deck _ reached homedDeck
    have coherentDeck := reached.coherent coherent
    refine ⟨Homed.restsOnActive homedDeck coherentDeck, ?_⟩
    intro answer called abandoned
    apply Homed.restsOnActive _ (coherentDeck.perform abandoned)
    intro reach
    rcases accepted_eq_ok.mp abandoned with ⟨outcome, calledOff, -⟩
    have keeps := Keeps.of_moves (moves_of_abandon calledOff)
    exact ((homedDeck (keeps.inReach reach)).abandon calledOff).homed false
  · intro earlier before action answer after _ reached homedBefore harmless performed
    rw [fingerDown_snoc]
    exact Homed.perform_of_inReach homedBefore (reached.coherent coherent)
      (flicksReached earlier before reached) harmless performed
  · intro earlier before action _ reached _ strands
    rw [fingerDown_snoc]
    exact strands.unsettles (reached.coherent coherent) (flicksReached earlier before reached)

end Sessions

/-! ## Four images on a narrow deck -/

/-- Four captions whose strip is wider than a hundred pixels. -/
def fourImages : List Caption := List.replicate 4 (.image ⟨0, ⟨30, 10⟩⟩)

/-- A deck that was only placed rests on its active tab. -/
theorem rests_on_active_once_placed :
    ∃ start placed : Deck FixedAdvance DemoPanes, ∃ answer,
      ofCaptions 8 fourImages ⟨6, 7, 10⟩ {} .touchscreen = .ok start ∧
      Settings.touchscreen.mode = .flick ∧
      start.perform (.placeAt ⟨⟨0, 0⟩, ⟨100, 80⟩⟩) = .ok (answer, placed) ∧
      placed.Throughout [] fun earlier deck =>
        deck.RestsOnActive (fingerDown earlier) ∧
          ∀ answer called, deck.perform .abandon = .ok (answer, called) →
            called.RestsOnActive false := by
  obtain ⟨start, placed, answer, made, first⟩ :
      ∃ start placed : Deck FixedAdvance DemoPanes, ∃ answer,
        ofCaptions 8 fourImages ⟨6, 7, 10⟩ {} .touchscreen = .ok start ∧
        start.perform (.placeAt ⟨⟨0, 0⟩, ⟨100, 80⟩⟩) = .ok (answer, placed) :=
    ⟨_, _, _, rfl, rfl⟩
  refine ⟨start, placed, answer, made, rfl, first, (rests_on_active_iff made rfl first []).mpr ?_⟩
  intro earlier action within
  have impossible := List.prefix_nil.mp within
  simp at impossible

/-- A drag by the width of the deck, and a finger that goes up twice. -/
def twoReleases : List Action :=
  [.input (.press ⟨50, 50⟩), .input (.drag ⟨50, 50⟩ ⟨-100, 0⟩ 0), .input (.release ⟨50, 50⟩),
    .input (.release ⟨50, 50⟩)]

/-- The second release ends the settling on the second tab, while the first one is active. -/
theorem rests_beside_active :
    ∃ start placed deck : Deck FixedAdvance DemoPanes, ∃ answer,
      ofCaptions 8 fourImages ⟨6, 7, 10⟩ {} .touchscreen = .ok start ∧
      start.perform (.placeAt ⟨⟨0, 0⟩, ⟨100, 80⟩⟩) = .ok (answer, placed) ∧
      placed.Reaches twoReleases deck ∧ fingerDown twoReleases = false ∧
      deck.InReach ∧ deck.AtRest ∧ ¬ deck.ShowsActive := by
  refine ⟨_, _, _, _, rfl, rfl, ⟨_, rfl⟩, rfl, by decide, ⟨rfl, rfl⟩, ?_⟩
  rintro ⟨active, isActive, -, edge⟩
  cases isActive
  exact absurd edge (by decide)

end Deck

end TabDeck
