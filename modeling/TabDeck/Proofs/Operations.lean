import TabDeck.Proofs.Frames

/-!
# What each operation can do

One statement for each operation of a deck says everything that it can have done when it succeeded:
which steps it took, in which order and under which conditions. Proofs about decks go through these
statements and through the frames, and do not open the operations themselves.

Several operations end by making a tab active, or by finding that they should not. That common end
is `Deck.Switched`.
-/

namespace TabDeck

namespace Deck

variable {μ σ : Type} [PaneHost σ] {deck after : Deck μ σ} {outcome : Outcome} {index : Nat}

/-! ## Selection -/

/-- The deck as it is once a tab was chosen, before the host and the strip follow. -/
def withActive (deck : Deck μ σ) (index : Nat) : Deck μ σ :=
  { deck with lastActive := deck.active, active := some index, pressed := none }

theorem bringIntoView_eq_ok (done : deck.bringIntoView index = .ok after) :
    ∃ row, deck.row.alignTo index = .ok row ∧
      { deck with row, gesture := deck.gesture.forget }.moveAll = .ok after := by
  simp only [bringIntoView, alignRow, bind_eq_ok, pure_eq_ok] at done
  rcases done with ⟨_, ⟨row, aligned, rfl⟩, moved⟩
  exact ⟨row, aligned, moved⟩

/-- In flick mode the row is aligned with the tab, and all panes move along. -/
theorem activate_eq_ok_of_flicks (flicks : deck.settings.flicks = true)
    (done : deck.activate index = .ok (outcome, after)) :
    ∃ row mid, deck.row.alignTo index = .ok row ∧
      { deck.withActive index with row, gesture := deck.gesture.forget }.moveAll = .ok mid ∧
      after = mid.arrange := by
  simp only [activate, flicks, Bool.not_true, Bool.false_and, Bool.false_eq_true, if_false,
    bind_eq_ok] at done
  rcases done with ⟨_, same, rest⟩
  cases same
  simp only [flicks, if_true, bind_eq_ok] at rest
  rcases rest with ⟨mid, shown, result⟩
  cases result
  rcases bringIntoView_eq_ok shown with ⟨row, aligned, moved⟩
  exact ⟨row, mid, aligned, moved, rfl⟩

/-- In paged mode the panes are exchanged, once the deck has a place for them. -/
theorem activate_eq_ok_of_paged (paged : deck.settings.flicks = false)
    (done : deck.activate index = .ok (outcome, after)) :
    ∃ mid, (deck.laidOut = true → deck.exchangePanes deck.active index = .ok mid) ∧
      (deck.laidOut = false → mid = deck) ∧
      after = ({ mid with
        lastActive := deck.active, active := some index, pressed := none } : Deck μ σ).arrange := by
  cases laidOut : deck.laidOut with
  | true =>
    simp only [activate, paged, laidOut, Bool.not_false, Bool.and_self, if_true,
      bind_eq_ok] at done
    rcases done with ⟨mid, exchanged, rest⟩
    have same : mid.settings = deck.settings := by
      rcases served_of_exchangePanes exchanged with ⟨_, _, rfl, -⟩
      rfl
    simp only [same, paged, Bool.false_eq_true, if_false, bind_eq_ok] at rest
    rcases rest with ⟨_, result, rest⟩
    cases result
    cases rest
    refine ⟨mid, fun _ => exchanged, nofun, ?_⟩
    rw [← same]
  | false =>
    simp only [activate, paged, laidOut, Bool.not_false, Bool.and_false, Bool.false_eq_true,
      if_false, bind_eq_ok] at done
    rcases done with ⟨_, same, rest⟩
    cases same
    simp only [paged, Bool.false_eq_true, if_false, bind_eq_ok] at rest
    rcases rest with ⟨_, result, rest⟩
    cases result
    cases rest
    exact ⟨deck, nofun, fun _ => rfl, rfl⟩

/-- However the panes follow, a new tab is active afterwards. The row and the gesture change only
in flick mode. -/
theorem activate_eq_ok (done : deck.activate index = .ok (outcome, after)) :
    ∃ row gesture mid,
      { deck.withActive index with row, gesture }.Served mid ∧ after = mid.arrange ∧
      (deck.settings.flicks = true →
        deck.row.alignTo index = .ok row ∧ gesture = deck.gesture.forget) ∧
      (deck.settings.flicks = false → row = deck.row ∧ gesture = deck.gesture) := by
  cases flicks : deck.settings.flicks with
  | true =>
    rcases activate_eq_ok_of_flicks flicks done with ⟨row, mid, aligned, moved, rfl⟩
    exact ⟨row, deck.gesture.forget, mid, served_of_moveAll moved, rfl, fun _ => ⟨aligned, rfl⟩,
      nofun⟩
  | false =>
    rcases activate_eq_ok_of_paged flicks done with ⟨mid, exchanged, kept, rfl⟩
    refine ⟨deck.row, deck.gesture, _, ?_, rfl, nofun, fun _ => ⟨rfl, rfl⟩⟩
    have served : deck.Served mid := by
      cases laidOut : deck.laidOut with
      | true => exact served_of_exchangePanes (exchanged laidOut)
      | false =>
        rw [kept laidOut]
        exact Served.refl deck
    rcases served with ⟨link, tabs, rfl, filled⟩
    exact ⟨link, tabs, rfl, filled⟩

theorem active_of_activate (done : deck.activate index = .ok (outcome, after)) :
    after.active = some index := by
  rcases activate_eq_ok done with ⟨_, _, mid, ⟨_, _, rfl, -⟩, rfl, -⟩
  rfl

/-- A change of the active tab is reported, unless it is the first one, and all is painted anew. -/
theorem outcome_of_activate (done : deck.activate index = .ok (outcome, after)) :
    outcome = { after.repaintAll with
      change := deck.active.map fun previous => { previous, current := index } } := by
  simp only [activate] at done
  split at done
  all_goals
    rw [bind_eq_ok] at done
    rcases done with ⟨mid, -, done⟩
    split at done
  all_goals
    rw [bind_eq_ok] at done
    rcases done with ⟨last, -, result⟩
    cases result
    rfl

/-- The deck stayed as it was, or another tab of it became active. -/
def Switched (before after : Deck μ σ) : Prop :=
  after = before ∨
    ∃ index outcome, index < before.tabs.length ∧ before.active ≠ some index ∧
      before.activate index = .ok (outcome, after)

theorem Switched.refl (deck : Deck μ σ) : deck.Switched deck := Or.inl rfl

/-- What relates a deck to itself and to what comes of an activation holds of every switch. -/
theorem Switched.related {before after : Deck μ σ} {related : Deck μ σ → Deck μ σ → Prop}
    (switched : before.Switched after) (refl : ∀ deck, related deck deck)
    (activate : ∀ {index outcome}, before.activate index = .ok (outcome, after) →
      related before after) :
    related before after := by
  rcases switched with rfl | ⟨index, outcome, -, -, activated⟩
  · exact refl after
  · exact activate activated

/-- Where the same tab is active as before, no tab became active. -/
theorem Switched.eq_of_active {before after : Deck μ σ} (switched : before.Switched after)
    (kept : after.active = before.active) : after = before := by
  rcases switched with same | ⟨index, outcome, -, inactive, activated⟩
  · exact same
  · rw [← kept, active_of_activate activated] at inactive
    exact absurd rfl inactive

theorem Switched.settings {before after : Deck μ σ} (switched : before.Switched after) :
    after.settings = before.settings := by
  rcases switched with rfl | ⟨index, outcome, -, -, activated⟩
  · rfl
  · rcases activate_eq_ok activated with ⟨_, _, mid, ⟨_, _, rfl, -⟩, rfl, -⟩
    rfl

theorem Switched.enabled {before after : Deck μ σ} (switched : before.Switched after) :
    after.enabled = before.enabled := by
  rcases switched with rfl | ⟨index, outcome, -, -, activated⟩
  · rfl
  · rcases activate_eq_ok activated with ⟨_, _, mid, ⟨_, _, rfl, -⟩, rfl, -⟩
    rfl

theorem select_eq_ok (done : deck.select index = .ok (outcome, after)) :
    (after = deck ∧ outcome = .nothing ∧
      (deck.tabs.length ≤ index ∨ deck.active = some index)) ∨
    (index < deck.tabs.length ∧ deck.active ≠ some index ∧
      deck.activate index = .ok (outcome, after)) := by
  simp only [select] at done
  split at done
  · next idle =>
    cases done
    exact Or.inl ⟨rfl, rfl, idle⟩
  · next open_ =>
    rw [not_or, Nat.not_le] at open_
    exact Or.inr ⟨open_.1, open_.2, done⟩

theorem switched_of_select (done : deck.select index = .ok (outcome, after)) :
    deck.Switched after := by
  rcases select_eq_ok done with ⟨same, -, -⟩ | ⟨present, inactive, activated⟩
  · exact Or.inl same
  · exact Or.inr ⟨index, outcome, present, inactive, activated⟩

theorem thenSelect_eq_ok {first : Outcome}
    (done : deck.thenSelect first index = .ok (outcome, after)) :
    ∃ selection, deck.select index = .ok (selection, after) ∧
      outcome = first.andThen selection := by
  simp only [thenSelect, bind_eq_ok] at done
  rcases done with ⟨⟨selection, mid⟩, selected, result⟩
  cases result
  exact ⟨selection, selected, rfl⟩

theorem switched_of_thenSelect {first : Outcome}
    (done : deck.thenSelect first index = .ok (outcome, after)) : deck.Switched after := by
  rcases thenSelect_eq_ok done with ⟨selection, selected, -⟩
  exact switched_of_select selected

/-- The tabs look the same to everything that does not see whether they are enabled. -/
def TabsToggled (before after : List Tab) : Prop :=
  ∀ {α : Type} {view : Tab → α}, (∀ tab enabled, view { tab with enabled } = view tab) →
    after.map view = before.map view

/-- Enabling a tab changes its flag, and may then make another tab active. -/
theorem enableTab_eq_ok {enabled : Bool}
    (done : deck.enableTab index enabled = .ok (outcome, after)) :
    ∃ tabs, TabsToggled deck.tabs tabs ∧ { deck with tabs }.Switched after := by
  simp only [enableTab] at done
  split at done
  · cases done
    exact ⟨deck.tabs, fun _ => rfl, Switched.refl deck⟩
  · next tab present =>
    split at done
    · cases done
      exact ⟨deck.tabs, fun _ => rfl, Switched.refl deck⟩
    · refine ⟨deck.tabs.set index { tab with enabled }, ?_, ?_⟩
      · exact fun blind => map_set present (blind tab enabled)
      · split at done
        · exact switched_of_thenSelect done
        · cases done
          exact Switched.refl _

/-- A supplied pane takes the place of the old one, on the display too if the old one is there. -/
theorem supplyPane_eq_ok {handle : PaneId}
    (done : deck.supplyPane index handle = .ok (outcome, after)) :
    after = deck ∨
      ∃ tab link, deck.tabs[index]? = some tab ∧
        after = { deck with
          link, tabs := deck.tabs.set index { tab with pane := some handle } } ∧
        (deck.showsPane index = false → link = deck.link) ∧
        (deck.showsPane index = true → ∃ emptied, deck.unmountPane index = .ok emptied ∧
          { emptied with
            tabs := emptied.tabs.set index { tab with pane := some handle } }.mountPane index =
              .ok after) := by
  simp only [supplyPane] at done
  split at done
  · cases done
    exact Or.inl rfl
  · next tab present =>
    right
    have bound := (List.getElem?_eq_some_iff.mp present).1
    split at done
    · next shows =>
      have isShown : deck.showsPane index = true := shows
      have visible : ¬ deck.showsPane index = false := by simp [isShown]
      cases given : tab.pane with
      | some previous =>
        have unmounted := unmountPane_of_given present given
        simp only [given] at done
        cases done
        refine ⟨tab, _, present, rfl, fun hidden => absurd hidden visible, fun _ => ?_⟩
        exact ⟨_, unmounted, mountPane_of_given (List.getElem?_set_self bound) rfl⟩
      | none =>
        have unmounted := unmountPane_of_missing present given
        simp only [given] at done
        cases done
        refine ⟨tab, _, present, rfl, fun hidden => absurd hidden visible, fun _ => ?_⟩
        exact ⟨deck, unmounted, mountPane_of_given (List.getElem?_set_self bound) rfl⟩
    · next hidden =>
      have isHidden : ¬ deck.showsPane index = true := hidden
      cases done
      exact ⟨tab, deck.link, present, rfl, fun _ => rfl, fun shows => absurd shows isHidden⟩

/-! ## Placement -/

theorem showPanes_eq_ok_of_flicks (flicks : deck.settings.flicks = true)
    (done : deck.showPanes = .ok after) :
    ∃ row, (∀ active, deck.active = some active → deck.row.alignTo active = .ok row) ∧
      (deck.active = none → row = deck.row) ∧ { deck with row }.mountAll = .ok after := by
  simp only [showPanes, flicks, if_true] at done
  split at done
  · next active isActive =>
    simp only [alignRow, bind_eq_ok, pure_eq_ok] at done
    rcases done with ⟨_, ⟨row, aligned, rfl⟩, mounted⟩
    refine ⟨row, ?_, by simp [isActive], mounted⟩
    intro other isOther
    rw [isActive] at isOther
    cases isOther
    exact aligned
  · next inactive =>
    exact ⟨deck.row, by simp [inactive], fun _ => rfl, done⟩

theorem showPanes_eq_ok_of_paged (paged : deck.settings.flicks = false)
    (done : deck.showPanes = .ok after) :
    (∀ active, deck.active = some active → deck.mountPane active = .ok after) ∧
      (deck.active = none → after = deck) := by
  simp only [showPanes, paged, Bool.false_eq_true, if_false] at done
  split at done
  · next active isActive =>
    refine ⟨?_, by simp [isActive]⟩
    intro other isOther
    rw [isActive] at isOther
    cases isOther
    exact done
  · next inactive =>
    cases done
    exact ⟨by simp [inactive], fun _ => rfl⟩

/-- A relation that composes holds of showing panes if it holds of aligning the row and of mounting
one pane. -/
theorem showPanes_related {related : Deck μ σ → Deck μ σ → Prop}
    (refl : ∀ deck, related deck deck)
    (trans : ∀ {first second third}, related first second → related second third →
      related first third)
    (aligned : ∀ row, related deck { deck with row })
    (mount : ∀ {before index after}, mountPane before index = .ok after → related before after)
    (done : deck.showPanes = .ok after) : related deck after := by
  cases flicks : deck.settings.flicks with
  | true =>
    rcases showPanes_eq_ok_of_flicks flicks done with ⟨row, -, -, mounted⟩
    exact trans (aligned row) (foldlM_related refl trans mount _ mounted)
  | false =>
    rcases showPanes_eq_ok_of_paged flicks done with ⟨mounted, kept⟩
    cases isActive : deck.active with
    | some active => exact mount (mounted active isActive)
    | none =>
      rw [kept isActive]
      exact refl deck

/-- Showing panes aligns the row with the active tab, or leaves it where it is. -/
theorem served_of_showPanes (done : deck.showPanes = .ok after) :
    ∃ row, { deck with row }.Served after ∧
      (∀ active, deck.settings.flicks = true → deck.active = some active →
        deck.row.alignTo active = .ok row) ∧
      (row = deck.row ∨ ∃ active, deck.row.alignTo active = .ok row) := by
  cases flicks : deck.settings.flicks with
  | true =>
    rcases showPanes_eq_ok_of_flicks flicks done with ⟨row, aligned, kept, mounted⟩
    refine ⟨row, served_of_mountAll mounted, fun active _ => aligned active, ?_⟩
    cases isActive : deck.active with
    | some active => exact Or.inr ⟨active, aligned active isActive⟩
    | none => exact Or.inl (kept isActive)
  | false =>
    rcases showPanes_eq_ok_of_paged flicks done with ⟨mounted, kept⟩
    refine ⟨deck.row, ?_, nofun, Or.inl rfl⟩
    cases isActive : deck.active with
    | some active =>
      rw [← isActive]
      exact served_of_mountPane (mounted active isActive)
    | none =>
      rw [← isActive, kept isActive]
      exact Served.refl deck

/-- A placed deck is measured anew, takes on the new dimensions and shows its panes. Then a tab
becomes active, if none was. -/
theorem placeAt_eq_ok [FontMetrics μ] {bounds : Rect}
    (done : deck.placeAt bounds = .ok (outcome, after)) :
    ∃ measured area row stripWidth shown last,
      ({ deck with bounds, laidOut := true } : Deck μ σ).Restyled measured ∧
      (measured = ({ deck with bounds, laidOut := true } : Deck μ σ).remeasure ∧
        area = areaOfPanes measured.settings measured.strip.height measured.bounds.size) ∧
      measured.row.resize measured.tabs.length bounds.size.width stripWidth = .ok row ∧
      { measured with paneArea := area, row }.showPanes = .ok shown ∧
      (∀ active, shown.active = some active → last = shown) ∧
      (shown.active = none → ∃ selection,
        shown.select (nextAvailable none true shown.disabledFlags) = .ok (selection, last)) ∧
      after = last.arrange := by
  have restyled := restyled_remeasure ({ deck with bounds, laidOut := true } : Deck μ σ)
  simp only [placeAt] at done
  generalize ({ deck with bounds, laidOut := true } : Deck μ σ).remeasure = measured
    at done restyled
  rcases measured.refitPanes_eq with ⟨area, areaOf, refitted⟩
  rw [refitted] at done
  rw [bind_eq_ok] at done
  rcases done with ⟨row, resized, done⟩
  rw [bind_eq_ok] at done
  rcases done with ⟨shown, mounted, rest⟩
  refine ⟨measured, area, row, ({ measured with paneArea := area } : Deck μ σ).wantedWidth, shown,
    ?_⟩
  cases isActive : shown.active with
  | some active =>
    simp only [isActive, bind_eq_ok] at rest
    rcases rest with ⟨_, same, result⟩
    cases same
    cases result
    exact ⟨shown, restyled, ⟨rfl, areaOf⟩, resized, mounted, fun _ _ => rfl, nofun, rfl⟩
  | none =>
    simp only [isActive, bind_eq_ok] at rest
    rcases rest with ⟨⟨_, last⟩, selected, result⟩
    cases result
    rcases thenSelect_eq_ok selected with ⟨selection, selected, -⟩
    exact ⟨last, restyled, ⟨rfl, areaOf⟩, resized, mounted, nofun, fun _ => ⟨selection, selected⟩,
      rfl⟩

/-- A placement paints all anew, and a first activation is not reported. -/
theorem outcome_of_placeAt [FontMetrics μ] {bounds : Rect}
    (done : deck.placeAt bounds = .ok (outcome, after)) :
    outcome.change = none ∧ outcome.dirty ≠ none := by
  simp only [placeAt] at done
  rw [bind_eq_ok] at done
  rcases done with ⟨row, -, done⟩
  rw [bind_eq_ok] at done
  rcases done with ⟨shown, -, rest⟩
  cases isActive : shown.active with
  | some active =>
    simp only [isActive, bind_eq_ok] at rest
    rcases rest with ⟨_, same, result⟩
    cases same
    cases result
    exact ⟨rfl, nofun⟩
  | none =>
    simp only [isActive, bind_eq_ok] at rest
    rcases rest with ⟨_, chosen, result⟩
    cases result
    rcases thenSelect_eq_ok chosen with ⟨selection, selected, same⟩
    rw [same]
    refine ⟨?_, fun clean => absurd (joinRegions_eq_none.mp clean).1 nofun⟩
    rcases select_eq_ok selected with ⟨-, rfl, -⟩ | ⟨-, -, activated⟩
    · rfl
    · rw [outcome_of_activate activated, isActive]
      rfl

/-- A placement ends like a selection. -/
theorem switched_of_placement {shown last : Deck μ σ}
    (stays : ∀ active, shown.active = some active → last = shown)
    (selects : shown.active = none → ∃ selection,
      shown.select (nextAvailable none true shown.disabledFlags) = .ok (selection, last)) :
    shown.Switched last := by
  cases isActive : shown.active with
  | some active => exact Or.inl (stays active isActive)
  | none =>
    rcases selects isActive with ⟨selection, selected⟩
    exact switched_of_select selected

/-! ## Gestures -/

/-- Calling a gesture off goes back to the remembered offset, and the panes with it. -/
theorem callOff_eq_ok {moved : Bool} (done : deck.callOff = .ok (moved, after)) :
    moved = deck.row.goBack.movedFrom deck.row ∧
      (moved = true →
        { deck with gesture := deck.gesture.forget, row := deck.row.goBack }.moveAll =
          .ok after) ∧
      (moved = false →
        after = { deck with gesture := deck.gesture.forget, row := deck.row.goBack }) := by
  simp only [callOff, Gesture.abandon] at done
  cases goes : deck.row.goBack.movedFrom deck.row with
  | true =>
    simp only [goes, if_true, bind_eq_ok, pure_eq_ok, Prod.mk.injEq] at done
    rcases done with ⟨mid, movedAll, rfl, rfl⟩
    exact ⟨rfl, fun _ => movedAll, nofun⟩
  | false =>
    simp only [goes, Bool.false_eq_true, if_false, bind_eq_ok, pure_eq_ok, Prod.mk.injEq] at done
    rcases done with ⟨mid, same, rfl, rfl⟩
    cases same
    exact ⟨rfl, nofun, fun _ => rfl⟩

theorem served_of_callOff {moved : Bool} (done : deck.callOff = .ok (moved, after)) :
    { deck with gesture := deck.gesture.forget, row := deck.row.goBack }.Served after := by
  rcases callOff_eq_ok done with ⟨-, goes, stays⟩
  cases moved with
  | true => exact served_of_moveAll (goes rfl)
  | false =>
    rw [stays rfl]
    exact Served.refl _

theorem abandon_eq_ok (done : deck.abandon = .ok (outcome, after)) :
    ∃ moved, { deck with pressed := none }.callOff = .ok (moved, after) := by
  simp only [abandon, bind_eq_ok] at done
  rcases done with ⟨⟨moved, mid⟩, calledOff, result⟩
  cases result
  exact ⟨moved, calledOff⟩

/-- Disabling a deck calls its gesture off. -/
theorem enable_eq_ok {enabled : Bool} (done : deck.enable enabled = .ok (outcome, after)) :
    after = deck ∨
      ∃ mid, deck.enabled = !enabled ∧ after = mid.enableArrows enabled ∧
        (enabled = true → mid = { deck with enabled, pressed := none }) ∧
        (enabled = false →
          ∃ moved, { deck with enabled, pressed := none }.callOff = .ok (moved, mid)) := by
  simp only [enable] at done
  split at done
  · cases done
    exact Or.inl rfl
  · next other =>
    have flipped : deck.enabled = !enabled := by
      cases enabled <;> simpa using other
    right
    cases enabled with
    | true =>
      simp only [if_true, bind_eq_ok] at done
      rcases done with ⟨mid, same, result⟩
      cases same
      cases result
      exact ⟨_, flipped, rfl, fun _ => rfl, nofun⟩
    | false =>
      simp only [Bool.false_eq_true, if_false, bind_eq_ok, pure_eq_ok] at done
      rcases done with ⟨_, ⟨⟨moved, mid⟩, calledOff, rfl⟩, result⟩
      cases result
      exact ⟨mid, flipped, rfl, nofun, fun _ => ⟨moved, calledOff⟩⟩

theorem outcome_of_enable {enabled : Bool} (done : deck.enable enabled = .ok (outcome, after)) :
    after = deck ∧ outcome = .nothing ∨ outcome = after.repaintAll := by
  simp only [enable] at done
  split at done
  · cases done
    exact Or.inl ⟨rfl, rfl⟩
  · right
    split at done
    all_goals
      rw [bind_eq_ok] at done
      rcases done with ⟨mid, -, result⟩
      cases result
      rfl

/-- A tick moves a settling row, and makes its target active once it is there. -/
theorem tick_eq_ok {elapsed : Nat} (done : deck.tick elapsed = .ok (outcome, after)) :
    ∃ step gesture row, deck.gesture.tick deck.row elapsed = .ok (step, gesture, row) ∧
      match step with
      | .idle => after = deck ∧ outcome = .nothing
      | .moving => { deck with gesture, row }.moveAll = .ok after ∧ outcome = after.repaintPanes
      | .arrived target => ∃ mid selection, { deck with gesture, row }.moveAll = .ok mid ∧
          mid.select target = .ok (selection, after) ∧
          outcome = mid.repaintPanes.andThen selection := by
  simp only [tick, bind_eq_ok] at done
  rcases done with ⟨⟨step, gesture, row⟩, ticked, rest⟩
  refine ⟨step, gesture, row, ticked, ?_⟩
  cases step with
  | idle =>
    cases rest
    exact ⟨rfl, rfl⟩
  | moving =>
    simp only [bind_eq_ok] at rest
    rcases rest with ⟨mid, moved, result⟩
    cases result
    exact ⟨moved, rfl⟩
  | arrived target =>
    simp only [bind_eq_ok] at rest
    rcases rest with ⟨mid, moved, settled⟩
    rcases thenSelect_eq_ok settled with ⟨selection, selected, same⟩
    exact ⟨mid, selection, moved, selected, same⟩

/-! ## Fingers -/

/-- What a finger that comes down does after it began a gesture. -/
inductive Tapped (begun after : Deck μ σ) (outcome : Outcome) : Prop where
  | nothing (same : after = begun) (unchanged : outcome.change = none)
  /-- A flat tab is pressed. -/
  | holds (index : Nat) (inactive : begun.active ≠ some index)
      (unblocked : begun.isBlocked index = .ok false)
      (same : after = { begun with pressed := some index })
      (unchanged : outcome.change = none) (painted : outcome.dirty = some begun.stripBand)
  /-- An arrow leads on to the next tab that takes input. -/
  | arrow (forward : Bool) (selection : Outcome)
      (selected : begun.select (nextAvailable begun.active forward begun.blockedFlags) =
        .ok (selection, after))
      (change : outcome.change = selection.change) (painted : outcome.dirty = selection.dirty)
  /-- A classic tab that takes input is tapped. -/
  | tab (index : Nat) (selection : Outcome) (unblocked : begun.isBlocked index = .ok false)
      (selected : begun.select index = .ok (selection, after))
      (change : outcome.change = selection.change) (painted : outcome.dirty = selection.dirty)

theorem tapped_of_tapTab (done : deck.tapTab index = .ok (outcome, after)) :
    deck.Tapped after outcome := by
  simp only [tapTab] at done
  split at done
  · cases done
    exact .nothing rfl rfl
  · next inactive =>
    simp only [bind_eq_ok] at done
    rcases done with ⟨blocked, asked, rest⟩
    cases blocked with
    | true =>
      cases rest
      exact .nothing rfl rfl
    | false =>
      simp only [Bool.false_eq_true, if_false, tapOpenTab] at rest
      split at rest
      · rcases thenSelect_eq_ok rest with ⟨selection, selected, rfl⟩
        exact .tab index selection asked selected (Option.or_none ..) (joinRegions_none_left _)
      · cases rest
        exact .holds index inactive asked rfl rfl rfl

theorem press_eq_tapped {touch : Touch} (done : deck.press touch = .ok (outcome, after)) :
    ∃ point, (deck.beginGesture point).Tapped after outcome := by
  refine ⟨touch.point - deck.bounds.origin, ?_⟩
  simp only [press] at done
  generalize deck.beginGesture (touch.point - deck.bounds.origin) = begun at done ⊢
  split at done
  · next forward _ =>
    simp only [tapArrow, bind_eq_ok] at done
    rcases done with ⟨⟨selection, mid⟩, selected, result⟩
    cases result
    exact .arrow forward selection selected rfl rfl
  · split at done
    · cases done
      exact .nothing rfl rfl
    · split at done
      · exact tapped_of_tapTab done
      · cases done
        exact .nothing rfl rfl

/-- A finger that comes down begins a gesture, and may then tap or press a tab. -/
theorem press_eq_ok {touch : Touch} (done : deck.press touch = .ok (outcome, after)) :
    ∃ point, (deck.beginGesture point).Switched after ∨
      ∃ index, after = { deck.beginGesture point with pressed := some index } := by
  rcases press_eq_tapped done with ⟨point, tapped⟩
  refine ⟨point, ?_⟩
  cases tapped with
  | nothing same => exact Or.inl (Or.inl same)
  | holds index _ _ same => exact Or.inr ⟨index, same⟩
  | arrow forward selection selected => exact Or.inl (switched_of_select selected)
  | tab index selection unblocked selected => exact Or.inl (switched_of_select selected)

omit [PaneHost σ] in
theorem beginGesture_eq (flicks : deck.settings.flicks = true) (point : Point) :
    deck.beginGesture point = { deck with
      gesture := { deck.gesture.forget with inStrip := deck.inStrip point }
      row := if deck.row.aligned.isSome then deck.row.remember else deck.row
      pressed := none } := by
  simp only [beginGesture, flicks, if_true, Gesture.press]

omit [PaneHost σ] in
theorem beginGesture_eq_of_paged (paged : deck.settings.flicks = false) (point : Point) :
    deck.beginGesture point = { deck with pressed := none } := by
  simp only [beginGesture, paged, Bool.false_eq_true, if_false]

/-- A press that makes no tab active only begins a gesture, in flick mode. -/
theorem press_eq_ok_of_kept {touch : Touch} (flicks : deck.settings.flicks = true)
    (done : deck.press touch = .ok (outcome, after)) (kept : after.active = deck.active) :
    ∃ inStrip pressed, after = { deck with
      gesture := { deck.gesture.forget with inStrip }
      row := if deck.row.aligned.isSome then deck.row.remember else deck.row
      pressed } := by
  rcases press_eq_ok done with ⟨point, rest⟩
  have begun := beginGesture_eq flicks point
  rcases rest with switched | ⟨index, rfl⟩
  · have sameActive : after.active = (deck.beginGesture point).active := by
      rw [kept, begun]
    rw [switched.eq_of_active sameActive, begun]
    exact ⟨deck.inStrip point, none, rfl⟩
  · rw [begun]
    exact ⟨deck.inStrip point, some index, rfl⟩

/-- The rule by which a deck lets drags in. -/
def pagingRule (deck : Deck μ σ) (active : Nat) : PagingRule :=
  { active, blocked := deck.blockedFlags, intoDisabled := deck.settings.flickIntoDisabled }

/-- A finger that moves in flick mode moves the panes, or only leaves a trace in the velocity. -/
theorem drag_eq_ok {movement : Point} {time : Nat}
    (done : deck.drag movement time = .ok (outcome, after)) :
    ((deck.settings.flicks = false ∨ deck.active = none) ∧ after = deck) ∨
      ∃ active taken gesture row, deck.settings.flicks = true ∧ deck.active = some active ∧
        deck.gesture.drag deck.row (deck.pagingRule active) movement time =
          .ok (taken, gesture, row) ∧
        (taken = true → { deck with gesture, row, pressed := none }.moveAll = .ok after) ∧
        (taken = false → after = { deck with gesture, row }) := by
  simp only [drag] at done
  split at done
  · next mode =>
    cases done
    exact Or.inl ⟨Or.inl (by simp [Settings.flicks, mode]), rfl⟩
  · next inactive _ =>
    cases done
    exact Or.inl ⟨Or.inr inactive, rfl⟩
  · next active mode isActive =>
    right
    simp only [bind_eq_ok] at done
    rcases done with ⟨⟨taken, gesture, row⟩, dragged, rest⟩
    refine ⟨active, taken, gesture, row, by simp [Settings.flicks, mode], isActive, dragged, ?_⟩
    cases taken with
    | true =>
      simp only [if_true, bind_eq_ok] at rest
      rcases rest with ⟨mid, moved, result⟩
      cases result
      exact ⟨fun _ => moved, nofun⟩
    | false =>
      simp only [Bool.false_eq_true, if_false] at rest
      cases rest
      exact ⟨nofun, fun _ => rfl⟩

omit [PaneHost σ] in
/-- Letting go reports no change of its own. -/
theorem change_of_letGo (deck : Deck μ σ) (outcome : Outcome) :
    (deck.letGo outcome).1.change = outcome.change := by
  simp only [letGo]
  split
  · split <;> rfl
  · rfl

omit [PaneHost σ] in
theorem letGo_eq (deck : Deck μ σ) (outcome : Outcome) :
    (deck.settings.flicks = true →
      (deck.letGo outcome).2 = { deck with gesture := deck.gesture.release deck.row }) ∧
    (deck.settings.flicks = false → (deck.letGo outcome).2 = deck) := by
  constructor
  · intro flicks
    simp only [letGo, flicks, if_true]
    split <;> rfl
  · intro paged
    simp only [letGo, paged, Bool.false_eq_true, if_false]

/-- A finger that goes up makes a pressed tab active, unless it dragged. Then it lets go. -/
theorem release_eq_select (done : deck.release = .ok (outcome, after)) :
    ∃ result mid, mid.letGo result = (outcome, after) ∧
      (((deck.pressed = none ∨ deck.gesture.isDragging = true) ∧ result = .nothing ∧
          mid = { deck with pressed := none }) ∨
        ∃ index, deck.pressed = some index ∧ deck.gesture.isDragging = false ∧
          { deck with pressed := none }.select index = .ok (result, mid)) := by
  simp only [release] at done
  cases pressed : deck.pressed with
  | none =>
    simp only [pressed, bind_eq_ok, pure_eq_ok] at done
    rcases done with ⟨_, same, done⟩
    cases same
    exact ⟨_, _, done, Or.inl ⟨Or.inl rfl, rfl, rfl⟩⟩
  | some index =>
    cases dragging : deck.gesture.isDragging with
    | true =>
      simp only [pressed, dragging, if_true, bind_eq_ok, pure_eq_ok] at done
      rcases done with ⟨_, same, done⟩
      cases same
      exact ⟨_, _, done, Or.inl ⟨Or.inr rfl, rfl, rfl⟩⟩
    | false =>
      simp only [pressed, dragging, Bool.false_eq_true, if_false, bind_eq_ok, pure_eq_ok] at done
      rcases done with ⟨⟨result, mid⟩, chosen, done⟩
      exact ⟨result, mid, done, Or.inr ⟨index, rfl, rfl, chosen⟩⟩

theorem release_eq_letGo (done : deck.release = .ok (outcome, after)) :
    ∃ result mid, { deck with pressed := none }.Switched mid ∧
      (deck.gesture.isDragging = true → mid = { deck with pressed := none }) ∧
      mid.letGo result = (outcome, after) := by
  rcases release_eq_select done with ⟨result, mid, letGo, ⟨-, -, same⟩ | ⟨index, -, still, chosen⟩⟩
  · exact ⟨result, mid, Or.inl same, fun _ => same, letGo⟩
  · refine ⟨result, mid, switched_of_select chosen, fun dragging => ?_, letGo⟩
    rw [still] at dragging
    cases dragging

theorem release_eq_ok (done : deck.release = .ok (outcome, after)) :
    ∃ mid, { deck with pressed := none }.Switched mid ∧
      (deck.gesture.isDragging = true → mid = { deck with pressed := none }) ∧
      (deck.settings.flicks = true →
        after = { mid with gesture := mid.gesture.release mid.row }) ∧
      (deck.settings.flicks = false → after = mid) := by
  rcases release_eq_letGo done with ⟨result, mid, switched, dragged, letGo⟩
  have settings : mid.settings = deck.settings := switched.settings
  have same : (mid.letGo result).2 = after := congrArg Prod.snd letGo
  refine ⟨mid, switched, dragged, ?_, ?_⟩
  · intro flicks
    rw [← same]
    exact (mid.letGo_eq result).1 (settings ▸ flicks)
  · intro paged
    rw [← same]
    exact (mid.letGo_eq result).2 (settings ▸ paged)

/-- A release that makes no tab active only lets go of the row, in flick mode. -/
theorem release_eq_ok_of_kept (flicks : deck.settings.flicks = true)
    (done : deck.release = .ok (outcome, after)) (kept : after.active = deck.active) :
    after = { deck with pressed := none, gesture := deck.gesture.release deck.row } := by
  rcases release_eq_ok done with ⟨mid, switched, -, settles, -⟩
  rw [settles flicks] at kept ⊢
  rw [switched.eq_of_active kept]

/-- Calling a gesture off always succeeds where the row is at the remembered offset already. -/
theorem abandon_of_stands (stands : deck.row.remembered = deck.row.offset) :
    ∃ outcome, deck.abandon = .ok (outcome,
      { deck with pressed := none, gesture := deck.gesture.forget, row := deck.row.goBack }) := by
  have still : deck.row.goBack.movedFrom deck.row = false := by
    simp only [PaneRow.movedFrom, PaneRow.goBack, stands, bne_self_eq_false]
  simp only [abandon, callOff, Gesture.abandon, still]
  exact ⟨_, rfl⟩

/-! ## Keys -/

/-- The active pane takes the focus, or it stays on the strip. -/
theorem enterPane_eq_ok {forward : Bool}
    (done : deck.enterPane forward = .ok (outcome, after)) :
    (deck.active = none ∧ after = { deck with focus := deck.focus.refused }) ∨
      ∃ active handle mid granted link, deck.active = some active ∧
        deck.paneOf active = .ok (handle, mid) ∧
        mid.link.takeFocus handle forward = (granted, link) ∧
        (granted = true → after = { mid with link }) ∧
        (granted = false → after = { mid with link, focus := mid.focus.refused }) := by
  simp only [enterPane] at done
  split at done
  · next inactive =>
    cases done
    exact Or.inl ⟨inactive, rfl⟩
  · next active isActive =>
    right
    simp only [bind_eq_ok] at done
    rcases done with ⟨⟨handle, mid⟩, found, rest⟩
    rcases asked : mid.link.takeFocus handle forward with ⟨granted, link⟩
    simp only [asked] at rest
    refine ⟨active, handle, mid, granted, link, isActive, found, asked, ?_⟩
    cases granted with
    | true =>
      cases rest
      exact ⟨fun _ => rfl, nofun⟩
    | false =>
      cases rest
      exact ⟨nofun, fun _ => rfl⟩

/-- The focus responds to an event, and the deck does what it asks for. Unless the focus stays where
it is, the strip is painted anew. -/
theorem handleFocus_eq_ok {event : KeyFocus.Event}
    (done : deck.handleFocus event = .ok (outcome, after)) :
    (deck.settings.keyboardFocus = false ∧ after = deck ∧ outcome = .nothing) ∨
      ∃ focus task inner, outcome.change = inner.change ∧
        (outcome.dirty = none → inner.dirty = none ∧ after.focus = deck.focus) ∧
        deck.focus.respond event deck.settings.edge = (focus, task) ∧
        { deck with focus }.followFocus task = .ok (inner, after) := by
  simp only [handleFocus] at done
  split at done
  · rcases responded : deck.focus.respond event deck.settings.edge with ⟨focus, task⟩
    simp only [responded, bind_eq_ok] at done
    rcases done with ⟨⟨inner, mid⟩, followed, result⟩
    cases result
    refine Or.inr ⟨focus, task, inner, ?_, ?_, rfl, followed⟩
    · split <;> rfl
    · split
      · next kept => exact fun clean => ⟨clean, kept⟩
      · exact fun clean => absurd (joinRegions_eq_none.mp clean).2 nofun
  · next inattentive =>
    cases done
    exact Or.inl ⟨by simpa using inattentive, rfl, rfl⟩

/-- What the focus asks for is another active tab, or a request to the host. -/
theorem followFocus_eq_ok {task : KeyFocus.Task}
    (done : deck.followFocus task = .ok (outcome, after)) :
    (∃ forward, task = .changeTab forward ∧ deck.Switched after) ∨
      (∃ forward, task = .enterPane forward ∧ deck.enterPane forward = .ok (outcome, after)) ∨
      after = deck := by
  cases task with
  | changeTab forward => exact Or.inl ⟨forward, rfl, switched_of_thenSelect done⟩
  | enterPane forward => exact Or.inr (Or.inl ⟨forward, rfl, done⟩)
  | nothing | reclaim | release =>
    cases done
    exact Or.inr (Or.inr rfl)

/-- The focus moves, and besides another tab may become active or the host may be asked for
something. -/
theorem switched_or_served_of_handleFocus {event : KeyFocus.Event}
    (done : deck.handleFocus event = .ok (outcome, after)) :
    ∃ focus, { deck with focus }.Switched after ∨ { deck with focus }.Served after := by
  rcases handleFocus_eq_ok done with ⟨-, rfl, -⟩ | ⟨focus, task, inner, -, -, -, followed⟩
  · exact ⟨after.focus, Or.inr (Served.refl after)⟩
  · rcases followFocus_eq_ok followed with ⟨_, -, switched⟩ | ⟨forward, -, entered⟩ | rfl
    · exact ⟨focus, Or.inl switched⟩
    · rcases enterPane_eq_ok entered with ⟨-, rfl⟩ |
        ⟨active, handle, mid, granted, link, -, found, -, kept, refused⟩
      · exact ⟨_, Or.inr (Served.refl _)⟩
      · rcases served_of_paneOf found with ⟨⟨firstLink, tabs, rfl, filled⟩, -⟩
        cases granted with
        | true => exact ⟨focus, Or.inr ⟨link, tabs, kept rfl, filled⟩⟩
        | false => exact ⟨focus.refused, Or.inr ⟨link, tabs, refused rfl, filled⟩⟩
    · exact ⟨focus, Or.inr (Served.refl _)⟩

/-! ## Actions -/

omit [PaneHost σ] in
theorem accepted_eq_ok {result : Except Fault (Outcome × Deck μ σ)} {answer : Answer} :
    accepted result = .ok (answer, after) ↔
      ∃ outcome, result = .ok (outcome, after) ∧ answer = .ok outcome := by
  simp only [accepted, bind_eq_ok, pure_eq_ok]
  constructor
  · rintro ⟨⟨outcome, changed⟩, done, same⟩
    cases same
    exact ⟨outcome, done, rfl⟩
  · rintro ⟨outcome, done, rfl⟩
    exact ⟨(outcome, after), done, rfl⟩

omit [PaneHost σ] in
theorem acceptedOr_eq_ok {result : Except DeckError (Outcome × Deck μ σ)} {answer : Answer} :
    deck.acceptedOr result = .ok (answer, after) ↔
      (∃ outcome, result = .ok (outcome, after) ∧ answer = .ok outcome) ∨
      (∃ refusal, result = .error refusal ∧ after = deck ∧ answer = .error refusal) := by
  rcases result with refusal | ⟨outcome, changed⟩
  · simp only [acceptedOr, Except.ok.injEq, Prod.mk.injEq]
    constructor
    · rintro ⟨rfl, rfl⟩
      exact Or.inr ⟨refusal, rfl, rfl, rfl⟩
    · rintro (⟨_, impossible, -⟩ | ⟨_, same, rfl, rfl⟩)
      · cases impossible
      · cases same
        exact ⟨rfl, rfl⟩
  · simp only [acceptedOr, Except.ok.injEq, Prod.mk.injEq]
    constructor
    · rintro ⟨rfl, rfl⟩
      exact Or.inl ⟨outcome, ⟨rfl, rfl⟩, rfl⟩
    · rintro (⟨_, ⟨rfl, rfl⟩, rfl⟩ | ⟨_, impossible, -⟩)
      · exact ⟨rfl, rfl⟩
      · cases impossible

/-- A disabled deck ignores an event. -/
theorem handle_eq_ok {event : Input} (done : deck.handle event = .ok (outcome, after)) :
    (deck.enabled = false ∧ after = deck) ∨
      (deck.enabled = true ∧
        match event with
        | .press touch => deck.press touch = .ok (outcome, after)
        | .drag _ movement time => deck.drag movement time = .ok (outcome, after)
        | .release _ => deck.release = .ok (outcome, after)
        | .abandon => deck.abandon = .ok (outcome, after)
        | .key direction => deck.handleFocus (.key direction) = .ok (outcome, after)
        | .action => deck.handleFocus .action = .ok (outcome, after)
        | .focus => deck.handleFocus .enter = .ok (outcome, after)) := by
  simp only [handle] at done
  cases enabled : deck.enabled with
  | true =>
    simp only [enabled, if_true] at done
    refine Or.inr ⟨rfl, ?_⟩
    cases event <;> exact done
  | false =>
    simp only [enabled, Bool.false_eq_true, if_false] at done
    cases done
    exact Or.inl ⟨rfl, rfl⟩

/-- An enabled deck takes a finger that comes down. -/
theorem perform_press_eq_ok [FontMetrics μ] {touch : Touch} {answer : Answer}
    (enabled : deck.enabled = true)
    (done : deck.perform (.input (.press touch)) = .ok (answer, after)) :
    ∃ outcome, deck.press touch = .ok (outcome, after) := by
  rcases accepted_eq_ok.mp done with ⟨outcome, handled, -⟩
  rcases handle_eq_ok handled with ⟨disabled, -⟩ | ⟨-, pressed⟩
  · rw [enabled] at disabled
    cases disabled
  · exact ⟨outcome, pressed⟩

/-- An enabled deck takes a finger that goes up. -/
theorem perform_release_eq_ok [FontMetrics μ] {touch : Touch} {answer : Answer}
    (enabled : deck.enabled = true)
    (done : deck.perform (.input (.release touch)) = .ok (answer, after)) :
    ∃ outcome, deck.release = .ok (outcome, after) := by
  rcases accepted_eq_ok.mp done with ⟨outcome, handled, -⟩
  rcases handle_eq_ok handled with ⟨disabled, -⟩ | ⟨-, released⟩
  · rw [enabled] at disabled
    cases disabled
  · exact ⟨outcome, released⟩

end Deck

end TabDeck
