import TabDeck.Proofs.FocusSignals
import TabDeck.Proofs.StripGeometry

/-!
# Navigation

Which tab is active and where the focus is follow from the captions, the settings and the actions,
whatever becomes of the panes. `Navigation` is a deck without panes, arrows and fingers, and
`Navigation.step` what an action does to it, given the answer of the pane that is offered the focus.
A deck that no finger touches does the same in either mode: its row may move, but nothing settles on
another tab (`Deck.modes_agree`).
-/

namespace TabDeck

/-- A deck as far as keys and its host can navigate it. -/
structure Navigation (μ : Type) where
  metrics : μ
  capacity : Nat
  /-- The settings but for the mode. -/
  settings : Settings
  captions : List Caption
  /-- For every tab whether it is enabled. -/
  flags : List Bool
  hasIcons : Bool
  strip : Strip
  bounds : Rect
  /-- The area of the panes, relative to the bounds. -/
  paneArea : Rect
  /-- Whether the whole deck takes part in input. -/
  enabled : Bool
  active : Option Nat
  lastActive : Option Nat
  focus : KeyFocus

/-- What an event means to the focus. -/
def Input.focusEvent : Input → Option KeyFocus.Event
  | .key direction => some (.key direction)
  | .action => some .action
  | .focus => some .enter
  | .press _ | .drag _ _ _ | .release _ | .abandon => none

/-- Whether a finger is behind the action. -/
def Action.isTouch : Action → Bool
  | .input (.press _) | .input (.drag _ _ _) | .input (.release _) => true
  | _ => false

namespace Navigation

variable {μ : Type}

/-- For every tab whether it is disabled. -/
def disabledFlags (nav : Navigation μ) : List Bool := nav.flags.map fun enabled => !enabled

/-- For every tab whether it refuses input. -/
def blockedFlags (nav : Navigation μ) : List Bool :=
  if nav.flags.all fun enabled => !enabled then nav.flags.map fun _ => false
  else nav.disabledFlags

/-- Another tab becomes active, if it is there. -/
def choose (nav : Navigation μ) (index : Nat) : Navigation μ :=
  if nav.flags.length ≤ index ∨ nav.active = some index then nav
  else { nav with lastActive := nav.active, active := some index }

section Measures

variable [FontMetrics μ]

/-- The captions are measured anew. -/
def remeasure (nav : Navigation μ) : Navigation μ :=
  let policy := nav.settings.stripPolicy nav.bounds.size.width nav.hasIcons
  match Strip.measure nav.capacity nav.captions nav.metrics policy with
  | .error _ => nav
  | .ok strip => { nav with strip }

/-- The panes get what the strip leaves them. -/
def refit (nav : Navigation μ) : Navigation μ :=
  { nav with paneArea := Deck.areaOfPanes nav.settings nav.strip.height nav.bounds.size }

/-- The deck is placed, and the first enabled tab becomes active if none is. -/
def placeAt (nav : Navigation μ) (bounds : Rect) : Navigation μ :=
  let nav := ({ nav with bounds } : Navigation μ).remeasure.refit
  match nav.active with
  | some _ => nav
  | none => nav.choose (nextAvailable none true nav.disabledFlags)

/-- There is an icon for each tab. -/
def showIcons (nav : Navigation μ) (icons : List Image) : Navigation μ :=
  if icons.length = nav.captions.length then
    ({ nav with hasIcons := true } : Navigation μ).remeasure
  else nav

/-- There are other captions, if they make a strip. -/
def relabel (nav : Navigation μ) (captions : List Caption) : Navigation μ :=
  if captions.length = nav.captions.length then
    match checkCaptions nav.capacity captions with
    | .error _ => nav
    | .ok _ => ({ nav with captions } : Navigation μ).remeasure.refit
  else nav

end Measures

/-- A tab is enabled or disabled. If it is the active one, the next enabled one takes its place. -/
def enableTab (nav : Navigation μ) (index : Nat) (enabled : Bool) : Navigation μ :=
  match nav.flags[index]? with
  | none => nav
  | some flag =>
    if flag = enabled then nav
    else
      let nav := { nav with flags := nav.flags.set index enabled }
      if !enabled && nav.active = some index then
        nav.choose (nextAvailable (some index) true nav.disabledFlags)
      else nav

/-- Whether an event offers the focus to a pane. -/
def offers (nav : Navigation μ) (event : KeyFocus.Event) : Bool :=
  match nav.focus.respond event nav.settings.edge with
  | (_, .enterPane _) => nav.settings.keyboardFocus && nav.active.isSome
  | _ => false

/-- Something happens to the focus. If it is offered to a pane, there is an answer, and unless the
pane takes it the focus stays on the strip. -/
def follow (nav : Navigation μ) (event : KeyFocus.Event) (answer : Option Bool) : Navigation μ :=
  if nav.settings.keyboardFocus then
    match nav.focus.respond event nav.settings.edge with
    | (focus, .changeTab forward) =>
      ({ nav with focus } : Navigation μ).choose (nextAvailable nav.active forward nav.blockedFlags)
    | (focus, .enterPane _) =>
      { nav with focus := if answer = some true then focus else focus.refused }
    | (focus, _) => { nav with focus }
  else nav

/-- The event of the focus that an action amounts to. A disabled deck ignores input. -/
def focusEvent (nav : Navigation μ) : Action → Option KeyFocus.Event
  | .input event => if nav.enabled then event.focusEvent else none
  | .reclaimFocus => some .paneExhausted
  | _ => none

/-- Whether an action offers the focus to a pane. -/
def asks (nav : Navigation μ) (action : Action) : Bool :=
  (nav.focusEvent action).any nav.offers

/-- What an action does, given the answer of the pane that is offered the focus. -/
def step [FontMetrics μ] (nav : Navigation μ) (action : Action) (answer : Option Bool) :
    Navigation μ :=
  match action with
  | .placeAt bounds => nav.placeAt bounds
  | .select index => nav.choose index
  | .enableTab index enabled => nav.enableTab index enabled
  | .showIcons icons => nav.showIcons icons
  | .relabel captions => nav.relabel captions
  | .enable enabled => { nav with enabled }
  | .input _ | .reclaimFocus =>
    match nav.focusEvent action with
    | some event => nav.follow event answer
    | none => nav
  | .supplyPane _ _ | .paintTab _ _ | .usePalette _ | .abandon | .tick _ => nav

end Navigation

namespace Deck

variable {μ σ : Type}

/-- A deck without its panes and fingers. -/
def navigation (deck : Deck μ σ) : Navigation μ where
  metrics := deck.metrics
  capacity := deck.capacity
  settings := { deck.settings with mode := .paged }
  captions := deck.tabs.map Tab.caption
  flags := deck.tabs.map Tab.enabled
  hasIcons := deck.hasIcons
  strip := deck.strip
  bounds := deck.bounds
  paneArea := deck.paneArea
  enabled := deck.enabled
  active := deck.active
  lastActive := deck.lastActive
  focus := deck.focus

/-! ## Parts of operations -/

section Parts

variable (deck : Deck μ σ)

@[simp] theorem navigation_active : deck.navigation.active = deck.active := rfl

@[simp] theorem length_navigation_flags : deck.navigation.flags.length = deck.tabs.length :=
  List.length_map ..

theorem navigation_disabledFlags : deck.navigation.disabledFlags = deck.disabledFlags := by
  simp [Navigation.disabledFlags, navigation, disabledFlags]

theorem navigation_blockedFlags : deck.navigation.blockedFlags = deck.blockedFlags := by
  simp only [Navigation.blockedFlags, navigation_disabledFlags, blockedFlags, allDisabled]
  simp [navigation, Function.comp_def]

theorem navigation_arrange : deck.arrange.navigation = deck.navigation := by
  simp only [arrange, navigation]

theorem navigation_remeasure [FontMetrics μ] :
    deck.remeasure.navigation = deck.navigation.remeasure := by
  have policy : ({ deck.settings with mode := .paged } : Settings).stripPolicy
      deck.bounds.size.width deck.hasIcons =
        deck.settings.stripPolicy deck.bounds.size.width deck.hasIcons := rfl
  simp only [Navigation.remeasure, navigation, policy, remeasure]
  cases measured : Strip.measure deck.capacity (deck.tabs.map Tab.caption) deck.metrics
      (deck.settings.stripPolicy deck.bounds.size.width deck.hasIcons) with
  | error refusal => rfl
  | ok strip =>
    have lengths : strip.tabs.length = deck.tabs.length := by
      rw [Strip.length_tabs_of_measure measured, List.length_map]
    have captions : (List.zipWith (fun (tab : Tab) (measure : TabMeasure) =>
        { tab with selected := measure.selected, unselected := measure.unselected })
          deck.tabs strip.tabs).map Tab.caption = deck.tabs.map Tab.caption :=
      map_zipWith lengths fun _ _ => rfl
    have flags : (List.zipWith (fun (tab : Tab) (measure : TabMeasure) =>
        { tab with selected := measure.selected, unselected := measure.unselected })
          deck.tabs strip.tabs).map Tab.enabled = deck.tabs.map Tab.enabled :=
      map_zipWith lengths fun _ _ => rfl
    simp only [captions, flags]

/-- Whatever else of a tab changes. -/
theorem navigation_set {index : Nat} {tab changed : Tab} (present : deck.tabs[index]? = some tab)
    (caption : changed.caption = tab.caption) (enabled : changed.enabled = tab.enabled) :
    ({ deck with tabs := deck.tabs.set index changed } : Deck μ σ).navigation =
      deck.navigation := by
  simp only [navigation, map_set present caption, map_set present enabled]

/-- A deck whose panes get what the strip leaves them. -/
theorem navigation_refit {area : Rect}
    (fits : area = areaOfPanes deck.settings deck.strip.height deck.bounds.size) :
    ({ deck with paneArea := area } : Deck μ σ).navigation = deck.navigation.refit := by
  have blind : areaOfPanes { deck.settings with mode := .paged } deck.strip.height
      deck.bounds.size = area := fits.symm
  simp only [Navigation.refit, navigation, blind]

end Parts

/-! ## What operations do -/

section Operations

variable {deck before after : Deck μ σ} {outcome : Outcome} {index : Nat}

theorem navigation_of_served (served : before.Served after) :
    after.navigation = before.navigation := by
  rcases served with ⟨link, tabs, rfl, filled⟩
  have captions : tabs.map Tab.caption = before.tabs.map Tab.caption :=
    filled.map_eq fun _ _ => rfl
  have flags : tabs.map Tab.enabled = before.tabs.map Tab.enabled := filled.map_eq fun _ _ => rfl
  simp only [navigation, captions, flags]

variable [PaneHost σ]

theorem navigation_of_activate (done : deck.activate index = .ok (outcome, after)) :
    after.navigation =
      { deck.navigation with lastActive := deck.active, active := some index } := by
  rcases activate_eq_ok done with ⟨row, gesture, mid, served, rfl, -, -⟩
  rw [navigation_arrange, navigation_of_served served]
  rfl

theorem navigation_of_select (done : deck.select index = .ok (outcome, after)) :
    after.navigation = deck.navigation.choose index := by
  simp only [Navigation.choose, length_navigation_flags, navigation_active]
  rcases select_eq_ok done with ⟨rfl, -, idle⟩ | ⟨present, inactive, activated⟩
  · rw [if_pos idle]
  · have moves : ¬ (deck.tabs.length ≤ index ∨ deck.active = some index) := by
      rw [not_or]
      exact ⟨Nat.not_le_of_lt present, inactive⟩
    rw [if_neg moves, navigation_of_activate activated]

theorem navigation_of_thenSelect {first : Outcome}
    (done : deck.thenSelect first index = .ok (outcome, after)) :
    after.navigation = deck.navigation.choose index := by
  rcases thenSelect_eq_ok done with ⟨selection, selected, -⟩
  exact navigation_of_select selected

theorem navigation_of_placeAt [FontMetrics μ] {bounds : Rect}
    (done : deck.placeAt bounds = .ok (outcome, after)) :
    after.navigation = deck.navigation.placeAt bounds := by
  rcases placeAt_eq_ok done with ⟨measured, area, row, stripWidth, shown, last, -,
    ⟨isMeasured, fits⟩, -, showed, stays, selects, rfl⟩
  have measuredNav : measured.navigation =
      ({ deck.navigation with bounds } : Navigation μ).remeasure := by
    rw [isMeasured, navigation_remeasure]
    rfl
  have shownNav : shown.navigation =
      ({ deck.navigation with bounds } : Navigation μ).remeasure.refit := by
    rcases served_of_showPanes showed with ⟨aligned, served, -, -⟩
    rw [navigation_of_served served, ← measuredNav, ← navigation_refit measured fits]
    rfl
  rw [navigation_arrange, Navigation.placeAt, ← shownNav]
  cases isActive : shown.active with
  | some active => simp only [navigation_active, isActive, stays active isActive]
  | none =>
    rcases selects isActive with ⟨selection, selected⟩
    simp only [navigation_active, isActive, navigation_disabledFlags,
      navigation_of_select selected]

theorem navigation_of_enableTab {enabled : Bool}
    (done : deck.enableTab index enabled = .ok (outcome, after)) :
    after.navigation = deck.navigation.enableTab index enabled := by
  have flag : deck.navigation.flags[index]? = deck.tabs[index]?.map Tab.enabled :=
    List.getElem?_map ..
  simp only [Deck.enableTab] at done
  simp only [Navigation.enableTab, flag]
  cases found : deck.tabs[index]? with
  | none =>
    simp only [found] at done
    cases done
    rfl
  | some tab =>
    have toggled : ({ deck with tabs := deck.tabs.set index { tab with enabled } }
        : Deck μ σ).navigation =
          { deck.navigation with flags := deck.navigation.flags.set index enabled } := by
      have captions : (deck.tabs.set index { tab with enabled }).map Tab.caption =
          deck.tabs.map Tab.caption := map_set found rfl
      simp only [navigation, captions, List.map_set]
    simp only [found, Option.map_some] at done ⊢
    split at done
    · next same =>
      cases done
      rw [if_pos same]
    · next other =>
      rw [if_neg other]
      split at done
      · next leaves =>
        have leavesNav : (!enabled && decide (deck.navigation.active = some index)) = true := leaves
        rw [if_pos leavesNav, navigation_of_thenSelect done, ← navigation_disabledFlags, toggled]
      · next stays =>
        have staysNav : ¬ (!enabled && decide (deck.navigation.active = some index)) = true := stays
        cases done
        rw [if_neg staysNav, toggled]

theorem navigation_of_supplyPane {handle : PaneId}
    (done : deck.supplyPane index handle = .ok (outcome, after)) :
    after.navigation = deck.navigation := by
  rcases supplyPane_eq_ok done with rfl | ⟨tab, link, present, rfl, -, -⟩
  · rfl
  · exact navigation_set deck present rfl rfl

theorem navigation_of_showIcons [FontMetrics μ] {icons : List Image} {answer : Answer}
    (done : deck.perform (.showIcons icons) = .ok (answer, after)) :
    after.navigation = deck.navigation.showIcons icons := by
  have count : deck.navigation.captions.length = deck.tabs.length := List.length_map ..
  simp only [Navigation.showIcons, count]
  rcases acceptedOr_eq_ok.mp done with ⟨outcome, shown, -⟩ | ⟨refusal, refused, rfl, -⟩
  · rcases showIcons_eq_ok shown with ⟨lengths, tabs, labelled, rfl⟩
    have captions : tabs.map Tab.caption = deck.tabs.map Tab.caption := labelled fun _ _ => rfl
    have flags : tabs.map Tab.enabled = deck.tabs.map Tab.enabled := labelled fun _ _ => rfl
    rw [if_pos lengths, navigation_arrange, navigation_remeasure]
    simp only [navigation, captions, flags]
  · have lengths : icons.length ≠ after.tabs.length := by
      intro same
      simp only [Deck.showIcons, if_pos same] at refused
      cases refused
    rw [if_neg lengths]

theorem navigation_of_relabel [FontMetrics μ] {captions : List Caption} {answer : Answer}
    (done : deck.perform (.relabel captions) = .ok (answer, after)) :
    after.navigation = deck.navigation.relabel captions := by
  have count : deck.navigation.captions.length = deck.tabs.length := List.length_map ..
  simp only [Navigation.relabel, count]
  rcases acceptedOr_eq_ok.mp done with ⟨outcome, relabelled, -⟩ | ⟨refusal, refused, rfl, -⟩
  · rcases relabel_eq_ok relabelled with
      ⟨mid, area, -, ⟨fits, lengths, checked, tabs, labelled, rfl⟩, rfl⟩
    have replaced : tabs.map Tab.caption = captions.map id := by
      rw [labelled]
      exact map_zipWith_right lengths fun _ _ => rfl
    have flags : tabs.map Tab.enabled = deck.tabs.map Tab.enabled := by
      rw [labelled]
      exact map_zipWith lengths fun _ _ => rfl
    have relabelledNav : ({ deck with tabs } : Deck μ σ).navigation =
        { deck.navigation with captions } := by
      simp only [navigation, replaced, List.map_id, flags]
    have checkedNav : checkCaptions deck.navigation.capacity captions = .ok () := checked
    rw [if_pos lengths, checkedNav, navigation_arrange, navigation_refit _ fits,
      navigation_remeasure, relabelledNav]
  · split
    · next lengths =>
      cases checked : checkCaptions after.navigation.capacity captions with
      | error _ => rfl
      | ok _ =>
        have fit : checkCaptions after.capacity captions = .ok () := checked
        simp only [Deck.relabel, if_pos lengths, fit] at refused
        cases refused
    · rfl

omit [PaneHost σ] in
theorem navigation_paintTab (deck : Deck μ σ) (index : Nat) (colour : Option Colour) :
    (deck.paintTab index colour).2.navigation = deck.navigation := by
  simp only [paintTab]
  split
  · rfl
  · next tab present => exact navigation_set deck present rfl rfl

theorem navigation_of_callOff {moved : Bool} (done : deck.callOff = .ok (moved, after)) :
    after.navigation = deck.navigation := by
  rw [navigation_of_served (served_of_callOff done)]
  rfl

theorem navigation_of_enable {enabled : Bool}
    (done : deck.enable enabled = .ok (outcome, after)) :
    after.navigation = { deck.navigation with enabled } := by
  simp only [Deck.enable] at done
  split at done
  · next same =>
    cases done
    rw [← same]
    rfl
  · cases enabled with
    | true =>
      simp only [if_true, bind_eq_ok] at done
      rcases done with ⟨mid, same, result⟩
      cases same
      cases result
      rfl
    | false =>
      simp only [Bool.false_eq_true, if_false, bind_eq_ok, pure_eq_ok] at done
      rcases done with ⟨_, ⟨⟨moved, mid⟩, calledOff, rfl⟩, result⟩
      have disabled : mid.navigation = { deck.navigation with enabled := false } :=
        navigation_of_callOff calledOff
      cases result
      exact disabled

theorem navigation_of_abandon (done : deck.abandon = .ok (outcome, after)) :
    after.navigation = deck.navigation := by
  rcases abandon_eq_ok done with ⟨moved, calledOff⟩
  rw [navigation_of_callOff calledOff]
  rfl

end Operations

end Deck

end TabDeck
