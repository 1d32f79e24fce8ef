import TabDeck.Proofs.Constancy
import TabDeck.Proofs.Display
import TabDeck.Simulator.DemoPanes

/-!
# Whose focus it is

The keyboard focus enters a pane only through the active tab. It belongs to the active tab for as
long as no other tab becomes active, and the active one gets no other pane, while the focus is
inside. Operations other than keys do not take the focus back, so that those two leave it behind in
a pane that is no longer the active one.
-/

namespace TabDeck

/-- The pane that took the focus last, the latest request first. -/
def lastGrantedBy : List PaneCall → Option PaneId
  | [] => none
  | .takeFocus handle _ true :: _ => some handle
  | _ :: earlier => lastGrantedBy earlier

namespace PaneLink

variable {σ : Type} [PaneHost σ] {link : PaneLink σ} {handle other : PaneId}

omit [PaneHost σ] in
/-- The pane that took the focus last. -/
def lastGranted (link : PaneLink σ) : Option PaneId := lastGrantedBy link.calls

/-- A pane that takes the focus is remembered, and one that does not is not. -/
theorem lastGranted_of_takeFocus {forward granted : Bool} {after : PaneLink σ}
    (asked : link.takeFocus handle forward = (granted, after)) :
    after.lastGranted = if granted then some handle else link.lastGranted := by
  simp only [takeFocus, Prod.mk.injEq] at asked
  rcases asked with ⟨answer, rfl⟩
  rw [lastGranted, answer]
  cases granted <;> rfl

end PaneLink

/-- What an event can do to the focus. Only from the strip it goes into a pane or to another tab. -/
theorem KeyFocus.respond_cases {place focus : KeyFocus} {event : KeyFocus.Event}
    {edge : StripEdge} {task : KeyFocus.Task}
    (responded : place.respond event edge = (focus, task)) :
    (focus = place ∧ task = .nothing) ∨
    (focus = .onStrip ∧ place = .onStrip ∧ ∃ forward, task = .changeTab forward) ∨
    (place = .onStrip ∧ ∃ forward, task = .enterPane forward) ∨
    (focus ≠ .inPane ∧ (task = .nothing ∨ task = .reclaim ∨ task = .release)) := by
  cases place with
  | outside =>
    cases event <;> cases responded <;> simp
  | inPane =>
    cases event <;> cases responded <;> simp
  | onStrip =>
    cases event with
    | key direction =>
      cases direction with
      | left | right =>
        cases responded
        simp
      | up | down =>
        simp only [respond] at responded
        split at responded <;> cases responded <;> simp
    | enter | action | paneExhausted =>
      cases responded
      simp

namespace Deck

variable {μ σ : Type}

/-- The pane of the active tab. -/
def activePane (deck : Deck μ σ) : Option PaneId := deck.active.bind deck.paneAt

/-- The pane that took the focus last is the pane of the active tab. -/
def Owned (deck : Deck μ σ) : Prop :=
  ∃ handle, deck.activePane = some handle ∧ deck.link.lastGranted = some handle

/-- In paged mode the active pane of a placed deck is shown. -/
def ActiveShown (deck : Deck μ σ) : Prop :=
  deck.settings.flicks = false → deck.laidOut = true → ∀ index, deck.active = some index →
    ∃ handle, deck.paneAt index = some handle ∧ (deck.link.shown handle).isSome = true

/-- A focus inside a pane belongs to the active tab, and the pane is shown. -/
def FocusOwned (deck : Deck μ σ) : Prop :=
  deck.focus = .inPane → ∃ handle, deck.activePane = some handle ∧
    deck.link.lastGranted = some handle ∧
    (deck.settings.flicks = false → deck.laidOut = true →
      (deck.link.shown handle).isSome = true)

theorem focusOwned_of_owned {deck : Deck μ σ} (owned : deck.focus = .inPane → deck.Owned)
    (shown : deck.ActiveShown) : deck.FocusOwned := by
  intro inPane
  rcases owned inPane with ⟨handle, active, granted⟩
  refine ⟨handle, active, granted, fun paged laidOut => ?_⟩
  rcases Option.bind_eq_some_iff.mp active with ⟨index, isActive, given⟩
  rcases shown paged laidOut index isActive with ⟨other, givenOther, isShown⟩
  rw [given] at givenOther
  cases givenOther
  exact isShown

/-- An operation leaves the focus alone, and the active pane shown. -/
structure Undisturbed (before after : Deck μ σ) : Prop where
  focus : after.focus = before.focus
  granted : after.link.lastGranted = before.link.lastGranted
  shown : before.ActiveShown → after.ActiveShown

namespace Undisturbed

variable {before after : Deck μ σ}

theorem refl (deck : Deck μ σ) : deck.Undisturbed deck := ⟨rfl, rfl, id⟩

theorem trans {first second third : Deck μ σ} (earlier : first.Undisturbed second)
    (later : second.Undisturbed third) : first.Undisturbed third :=
  ⟨later.focus.trans earlier.focus, later.granted.trans earlier.granted,
    later.shown ∘ earlier.shown⟩

/-- What the later of two steps leaves alone is left alone by both, if the first does so as well. -/
theorem since {first second third : Deck μ σ} (later : second.Undisturbed third)
    (earlier : first.Undisturbed second) : first.Undisturbed third :=
  earlier.trans later

/-- Requests that neither focus a pane nor take one off the display. -/
theorem of_served (served : before.Served after)
    (granted : after.link.lastGranted = before.link.lastGranted)
    (shown : ∀ handle, (before.link.shown handle).isSome = true →
      (after.link.shown handle).isSome = true) : before.Undisturbed after := by
  have panes : ∀ {index handle}, before.paneAt index = some handle →
      after.paneAt index = some handle := served.paneAt
  rcases served with ⟨_, _, rfl, -⟩
  refine ⟨rfl, granted, ?_⟩
  intro shownBefore paged laidOut index isActive
  rcases shownBefore paged laidOut index isActive with ⟨handle, given, isShown⟩
  exact ⟨handle, panes given, shown handle isShown⟩

theorem of_restyled (restyled : before.Restyled after) : before.Undisturbed after := by
  have panes := restyled.paneAt
  rcases restyled with ⟨_, _, _, _, _, _, _, _, rfl, -⟩
  refine ⟨rfl, rfl, ?_⟩
  intro shownBefore paged laidOut index isActive
  rw [panes]
  exact shownBefore paged laidOut index isActive

variable [PaneHost σ] {deck : Deck μ σ} {outcome : Outcome} {index : Nat}

theorem of_paneOf {handle : PaneId} (found : deck.paneOf index = .ok (handle, after)) :
    deck.Undisturbed after := by
  apply of_served (served_of_paneOf found).1
  · rcases paneOf_eq_ok found with ⟨tab, -, ⟨-, rfl⟩ | ⟨-, -, rfl⟩⟩ <;> rfl
  · intro other isShown
    rw [Mounts.shown_of_paneOf found]
    exact isShown

theorem of_mountPane (done : deck.mountPane index = .ok after) : deck.Undisturbed after := by
  rcases mountPane_eq_ok done with ⟨handle, mid, found, rfl⟩
  apply (of_paneOf found).trans
  apply of_served
  · exact ⟨_, _, rfl, TabsFilled.refl mid.tabs⟩
  · rfl
  · exact fun other isShown => PaneLink.isSome_shown_mount _ isShown

theorem of_movePane (done : deck.movePane index = .ok after) : deck.Undisturbed after := by
  rcases movePane_eq_ok done with ⟨handle, mid, found, rfl⟩
  apply (of_paneOf found).trans
  apply of_served
  · exact ⟨_, _, rfl, TabsFilled.refl mid.tabs⟩
  · rfl
  · exact fun other isShown => PaneLink.isSome_shown_move _ isShown

theorem of_mountAll (done : deck.mountAll = .ok after) : deck.Undisturbed after :=
  foldlM_related refl trans of_mountPane _ done

theorem of_moveAll (done : deck.moveAll = .ok after) : deck.Undisturbed after := by
  rcases moveAll_eq_ok done with ⟨-, -, moved⟩ | ⟨-, rfl⟩
  · exact foldlM_related refl trans of_movePane _ moved
  · exact refl after

/-- A mounted pane is shown. -/
theorem shown_of_mountPane (done : deck.mountPane index = .ok after) :
    ∃ handle, after.paneAt index = some handle ∧ (after.link.shown handle).isSome = true := by
  rcases mountPane_eq_ok done with ⟨handle, mid, found, rfl⟩
  have given := Mounts.paneAt_of_paneOf found
  refine ⟨handle, given, ?_⟩
  rw [PaneLink.shown_mount_self]
  rfl

theorem granted_of_unmountPane (done : deck.unmountPane index = .ok after) :
    after.link.lastGranted = deck.link.lastGranted := by
  rcases unmountPane_eq_ok done with ⟨tab, -, ⟨-, rfl⟩ | ⟨handle, -, rfl⟩⟩ <;> rfl

/-- In paged mode the new active pane is shown, if the deck has a place for it. In flick mode
nothing is said about it. -/
theorem of_activate (done : deck.activate index = .ok (outcome, after)) :
    deck.Undisturbed after := by
  cases flicks : deck.settings.flicks with
  | true =>
    rcases activate_eq_ok_of_flicks flicks done with ⟨row, mid, -, moved, rfl⟩
    have chosen : deck.Undisturbed
        { deck.withActive index with row, gesture := deck.gesture.forget } := by
      refine ⟨rfl, rfl, fun _ paged => ?_⟩
      have still : deck.settings.flicks = false := paged
      rw [flicks] at still
      cases still
    exact (chosen.trans (of_moveAll moved)).trans (of_restyled (restyled_arrange mid))
  | false =>
    rcases activate_eq_ok_of_paged flicks done with ⟨mid, exchanged, kept, rfl⟩
    apply Undisturbed.trans _ (of_restyled (restyled_arrange _))
    cases laidOut : deck.laidOut with
    | true =>
      rcases exchangePanes_eq_ok (exchanged laidOut) with ⟨emptied, unmounted, mounted⟩
      have mountedKeeps := of_mountPane mounted
      have emptiedKeeps : emptied.focus = deck.focus ∧
          emptied.link.lastGranted = deck.link.lastGranted := by
        cases previous : deck.active with
        | none =>
          rw [previous] at unmounted
          cases unmounted
          exact ⟨rfl, rfl⟩
        | some old =>
          rw [previous] at unmounted
          refine ⟨?_, granted_of_unmountPane unmounted⟩
          rcases served_of_unmountPane unmounted with ⟨_, _, rfl, -⟩
          rfl
      refine ⟨mountedKeeps.focus.trans emptiedKeeps.1,
        mountedKeeps.granted.trans emptiedKeeps.2, ?_⟩
      intro _ _ _ other isActive
      cases isActive
      have isShown := shown_of_mountPane mounted
      exact isShown
    | false =>
      have same := kept laidOut
      subst same
      refine ⟨rfl, rfl, fun _ _ placed => ?_⟩
      have still : mid.laidOut = true := placed
      rw [laidOut] at still
      cases still

theorem of_switched (switched : deck.Switched after) : deck.Undisturbed after :=
  switched.related refl of_activate

theorem of_showPanes (done : deck.showPanes = .ok after) :
    deck.Undisturbed after ∧ after.ActiveShown := by
  cases flicks : deck.settings.flicks with
  | true =>
    rcases showPanes_eq_ok_of_flicks flicks done with ⟨row, -, -, mounted⟩
    have aligned : deck.Undisturbed { deck with row } := ⟨rfl, rfl, id⟩
    have settings := (Keeps.of_showPanes done).settings
    refine ⟨aligned.trans (of_mountAll mounted), fun paged => ?_⟩
    rw [settings, flicks] at paged
    cases paged
  | false =>
    rcases showPanes_eq_ok_of_paged flicks done with ⟨mounted, kept⟩
    cases isActive : deck.active with
    | none =>
      have same := kept isActive
      subst same
      refine ⟨refl after, fun _ _ index active => ?_⟩
      rw [isActive] at active
      cases active
    | some index =>
      have mountedHere := mounted index isActive
      refine ⟨of_mountPane mountedHere, fun _ _ other active => ?_⟩
      have same : deck.active = some other := by
        rcases served_of_mountPane mountedHere with ⟨_, _, rfl, -⟩
        exact active
      rw [isActive] at same
      cases same
      exact shown_of_mountPane mountedHere

/-- A placement shows the active pane, even if the deck was not placed before. -/
theorem of_placeAt [FontMetrics μ] {bounds : Rect}
    (done : deck.placeAt bounds = .ok (outcome, after)) : deck.Undisturbed after := by
  rcases placeAt_eq_ok done with ⟨measured, area, row, stripWidth, shown, last, restyled, -, -,
    showed, stays, selects, rfl⟩
  have chosen : shown.Undisturbed last := of_switched (switched_of_placement stays selects)
  have arranged := of_restyled (restyled_arrange last)
  have remeasured := of_restyled restyled
  have followed := (of_showPanes showed).1
  refine ⟨?_, ?_, ?_⟩
  · rw [arranged.focus, chosen.focus, followed.focus]
    exact remeasured.focus
  · rw [arranged.granted, chosen.granted, followed.granted]
    exact remeasured.granted
  · exact fun _ => arranged.shown (chosen.shown (of_showPanes showed).2)

theorem of_move (move : Move deck after) : deck.Undisturbed after := by
  cases move with
  | restyle restyled => exact of_restyled restyled
  | adjust gesture row pressed enabled size offset => exact ⟨rfl, rfl, id⟩
  | slide gesture row pressed size moved => exact (of_moveAll moved).since ⟨rfl, rfl, id⟩
  | activate present activated => exact of_activate activated

theorem of_moves (moves : deck.Moves after) : deck.Undisturbed after :=
  moves.related refl trans of_move

/-- A pane supplied for the active tab of a placed deck is shown at once. -/
theorem of_supplyPane {handle : PaneId}
    (done : deck.supplyPane index handle = .ok (outcome, after)) : deck.Undisturbed after := by
  rcases supplyPane_eq_ok done with rfl | ⟨tab, link, present, rfl, stays, exchanges⟩
  · exact refl after
  cases shows : deck.showsPane index with
  | true =>
    rcases exchanges shows with ⟨emptied, unmounted, mounted⟩
    refine ⟨rfl, ?_, ?_⟩
    · have supplied := (of_mountPane mounted).granted
      have taken := granted_of_unmountPane unmounted
      exact supplied.trans taken
    · intro _ paged laidOut other isActive
      have still : deck.settings.flicks = false := paged
      have chosen : deck.active = some other := isActive
      simp only [showsPane, still, chosen, Bool.false_or, Bool.and_eq_true, decide_eq_true_eq,
        Option.some.injEq] at shows
      rw [shows.2]
      exact shown_of_mountPane mounted
  | false =>
    have same := stays shows
    subst same
    refine ⟨rfl, rfl, ?_⟩
    intro shownBefore paged laidOut other isActive
    rcases shownBefore paged laidOut other isActive with ⟨pane, given, isShown⟩
    have placed : deck.laidOut = true := laidOut
    have differ : index ≠ other := by
      rintro rfl
      have chosen : deck.active = some index := isActive
      simp [showsPane, placed, chosen] at shows
    refine ⟨pane, ?_, isShown⟩
    simp only [paneAt, List.getElem?_set_ne differ]
    exact given

end Undisturbed

/-! ## Steps -/

/-- What an action can do about a focus inside a pane: leave it alone, end it without a change of the
active pane, or begin it in the active pane. -/
inductive FocusStep (before after : Deck μ σ) : Prop where
  | stays (focus : after.focus = before.focus)
      (granted : after.link.lastGranted = before.link.lastGranted)
  | ends (outside : after.focus ≠ .inPane)
      (same : before.focus = .inPane → after.activePane = before.activePane)
  | begins (outside : before.focus ≠ .inPane) (owned : after.Owned)

theorem Undisturbed.step {before after : Deck μ σ} (undisturbed : before.Undisturbed after) :
    before.FocusStep after ∧ (before.ActiveShown → after.ActiveShown) :=
  ⟨.stays undisturbed.focus undisturbed.granted, undisturbed.shown⟩

section Steps

variable [PaneHost σ] {deck after : Deck μ σ} {outcome : Outcome}

/-- The active pane takes the focus, or it does not go into a pane. -/
theorem owned_of_enterPane {forward : Bool} (done : deck.enterPane forward = .ok (outcome, after)) :
    (after.focus ≠ .inPane ∨ after.Owned) ∧ (deck.ActiveShown → after.ActiveShown) := by
  have refuses : ∀ focus : KeyFocus, focus.refused ≠ .inPane := by
    intro focus
    cases focus <;> simp [KeyFocus.refused]
  rcases enterPane_eq_ok done with ⟨-, rfl⟩ |
    ⟨active, handle, mid, granted, link, isActive, found, asked, kept, refused⟩
  · exact ⟨Or.inl (refuses _), id⟩
  have shown : deck.ActiveShown → mid.ActiveShown := (Undisturbed.of_paneOf found).shown
  have given : mid.paneAt active = some handle := Mounts.paneAt_of_paneOf found
  have chosen : mid.active = some active := by
    rcases (served_of_paneOf found).1 with ⟨_, _, rfl, -⟩
    exact isActive
  have asks : (mid.link.takeFocus handle forward).2 = link := congrArg Prod.snd asked
  have stillShown : mid.ActiveShown → ({ mid with link } : Deck μ σ).ActiveShown := by
    intro shownMid paged laidOut index isIndex
    rcases shownMid paged laidOut index isIndex with ⟨pane, givenPane, isShown⟩
    refine ⟨pane, givenPane, ?_⟩
    rw [← asks, PaneLink.shown_takeFocus]
    exact isShown
  cases granted with
  | true =>
    rw [kept rfl]
    refine ⟨Or.inr ⟨handle, ?_, ?_⟩, stillShown ∘ shown⟩
    · exact Option.bind_eq_some_iff.mpr ⟨active, chosen, given⟩
    · exact PaneLink.lastGranted_of_takeFocus asked
  | false =>
    rw [refused rfl]
    exact ⟨Or.inl (refuses _), stillShown ∘ shown⟩

theorem focusStep_of_handleFocus {event : KeyFocus.Event}
    (done : deck.handleFocus event = .ok (outcome, after)) :
    deck.FocusStep after ∧ (deck.ActiveShown → after.ActiveShown) := by
  rcases handleFocus_eq_ok done with ⟨-, rfl, -⟩ | ⟨focus, task, inner, -, -, responded, followed⟩
  · exact (Undisturbed.refl after).step
  rcases KeyFocus.respond_cases responded with ⟨rfl, rfl⟩ | ⟨rfl, place, forward, rfl⟩ |
    ⟨place, forward, rfl⟩ | ⟨outside, tasks⟩
  · cases followed
    exact (Undisturbed.refl deck).step
  · have switched : ({ deck with focus := .onStrip } : Deck μ σ).Undisturbed after :=
      Undisturbed.of_switched (switched_of_thenSelect followed)
    refine ⟨.ends ?_ ?_, switched.shown⟩
    · rw [switched.focus]
      simp
    · intro inPane
      rw [place] at inPane
      cases inPane
  · have entered := owned_of_enterPane followed
    have outside : deck.focus ≠ .inPane := by
      rw [place]
      simp
    refine ⟨?_, entered.2⟩
    rcases entered.1 with left | owned
    · exact .ends left fun inPane => absurd inPane outside
    · exact .begins outside owned
  · have same : after = { deck with focus } := by
      rcases tasks with rfl | rfl | rfl <;> cases followed <;> rfl
    rw [same]
    exact ⟨.ends outside fun _ => rfl, id⟩

theorem focusStep_of_perform [FontMetrics μ] {action : Action} {answer : Answer}
    (done : deck.perform action = .ok (answer, after)) :
    deck.FocusStep after ∧ (deck.ActiveShown → after.ActiveShown) := by
  cases performs_of_perform done with
  | moves moves => exact (Undisturbed.of_moves moves).step
  | places bounds outcome same placed => exact (Undisturbed.of_placeAt placed).step
  | supplies index handle outcome same supplied =>
    exact (Undisturbed.of_supplyPane supplied).step
  | relabels captions outcome same relabelled =>
    rcases relabel_eq_ok relabelled with ⟨mid, area, restyled, -, rfl⟩
    have refitted : mid.Undisturbed { mid with paneArea := area } := ⟨rfl, rfl, id⟩
    have arranged := Undisturbed.of_restyled (restyled_arrange { mid with paneArea := area })
    exact ((Undisturbed.of_restyled restyled).trans (refitted.trans arranged)).step
  | focuses event outcome handled => exact focusStep_of_handleFocus handled

end Steps

/-! ## Sessions -/

section Sessions

variable [FontMetrics μ] [PaneHost σ]

/-- With the focus inside a pane, another pane becomes the active one. -/
def Disturbs (deck : Deck μ σ) (action : Action) : Prop :=
  deck.focus = .inPane ∧ ∃ answer after, deck.perform action = .ok (answer, after) ∧
    after.activePane ≠ deck.activePane

variable {before after : Deck μ σ}

omit [FontMetrics μ] [PaneHost σ] in
/-- A step that keeps the active pane keeps a focus with its owner. -/
theorem FocusStep.owned (step : before.FocusStep after)
    (owned : before.focus = .inPane → before.Owned)
    (kept : before.focus = .inPane → after.activePane = before.activePane) :
    after.focus = .inPane → after.Owned := by
  intro inPane
  cases step with
  | stays focus granted =>
    have wasInPane := focus.symm.trans inPane
    rcases owned wasInPane with ⟨handle, active, took⟩
    exact ⟨handle, (kept wasInPane).trans active, granted.trans took⟩
  | ends outside same => exact absurd inPane outside
  | begins outside owned => exact owned

omit [FontMetrics μ] [PaneHost σ] in
/-- A step that changes the active pane leaves a focus behind in the old one. -/
theorem FocusStep.leaves (step : before.FocusStep after) (inPane : before.focus = .inPane)
    (owned : before.Owned) (changed : after.activePane ≠ before.activePane) :
    ¬ after.FocusOwned := by
  intro ownedAfter
  cases step with
  | stays focus granted =>
    rcases ownedAfter (focus.trans inPane) with ⟨handle, active, took, -⟩
    rcases owned with ⟨old, activeBefore, tookBefore⟩
    rw [granted, tookBefore] at took
    rw [active, activeBefore, took] at changed
    exact changed rfl
  | ends outside same => exact changed (same inPane)
  | begins outside owned => exact outside inPane

variable {capacity : Nat} {captions : List Caption} {metrics : μ} {host : σ} {settings : Settings}
  {start : Deck μ σ}

/-- A focus inside a pane belongs to the active tab throughout a session exactly if no action of the
session changes the active pane while the focus is inside. -/
theorem focus_owned_iff
    (made : ofCaptions capacity captions metrics host settings = .ok start)
    (actions : List Action) :
    (start.Throughout actions fun _ deck => deck.FocusOwned) ↔ start.Avoids actions Disturbs := by
  apply throughout_iff_avoids
    (fun _ deck => (deck.focus = .inPane → deck.Owned) ∧ deck.ActiveShown)
  · rcases ofCaptions_eq_ok made with ⟨-, tabs, strip, -, rfl⟩
    exact ⟨nofun, fun _ => nofun⟩
  · intro _ deck _ _ known
    exact focusOwned_of_owned known.1 known.2
  · intro _ before action answer after _ _ known harmless performed
    have step := focusStep_of_perform performed
    refine ⟨step.1.owned known.1 fun inPane => ?_, step.2 known.2⟩
    by_contra changed
    exact harmless ⟨inPane, answer, after, performed, changed⟩
  · intro _ before action _ _ known disturbs
    rcases disturbs with ⟨inPane, answer, after, performed, changed⟩
    have step := focusStep_of_perform performed
    exact ⟨answer, after, performed, step.1.leaves inPane (known.1 inPane) changed⟩

end Sessions

/-! ## A tab chosen while the focus is inside -/

/-- Two captions that are images of one size. -/
def imagePair : List Caption := List.replicate 2 (.image ⟨0, ⟨20, 10⟩⟩)

/-- A placement, and keys that bring the focus into the first pane. -/
def intoPane : List Action :=
  [.placeAt ⟨⟨0, 0⟩, ⟨300, 100⟩⟩, .input .focus, .input (.key .down)]

/-- Keys that bring the focus into the active pane leave it with its owner. -/
theorem focus_owned_in_first_pane :
    ∃ start : Deck FixedAdvance DemoPanes,
      ofCaptions 8 imagePair ⟨6, 7, 10⟩ {} {} = .ok start ∧
      start.Throughout intoPane fun _ deck => deck.FocusOwned := by
  rcases (⟨_, _, _, _, _, _, _, rfl, rfl, rfl, rfl, by decide, by decide, by decide⟩ :
      ∃ start placed onStrip inPane : Deck FixedAdvance DemoPanes, ∃ first second third,
        ofCaptions 8 imagePair ⟨6, 7, 10⟩ {} {} = .ok start ∧
        start.perform (.placeAt ⟨⟨0, 0⟩, ⟨300, 100⟩⟩) = .ok (first, placed) ∧
        placed.perform (.input .focus) = .ok (second, onStrip) ∧
        onStrip.perform (.input (.key .down)) = .ok (third, inPane) ∧
        start.focus ≠ .inPane ∧ placed.focus ≠ .inPane ∧ onStrip.focus ≠ .inPane) with
    ⟨start, placed, onStrip, inPane, _, _, _, made, first, second, third, outside, outsideStill,
      before⟩
  refine ⟨start, made, (focus_owned_iff made intoPane).mpr ?_⟩
  refine (avoids_cons first).mpr ⟨fun disturbs => outside disturbs.1, ?_⟩
  refine (avoids_cons second).mpr ⟨fun disturbs => outsideStill disturbs.1, ?_⟩
  exact (avoids_cons third).mpr ⟨fun disturbs => before disturbs.1, avoids_nil⟩

/-- Choosing the second tab leaves the focus behind in the first pane. -/
theorem focus_left_behind :
    ∃ start deck : Deck FixedAdvance DemoPanes,
      ofCaptions 8 imagePair ⟨6, 7, 10⟩ {} {} = .ok start ∧
      start.settings.keyboardFocus = true ∧ start.Reaches (intoPane ++ [.select 1]) deck ∧
      ¬ deck.FocusOwned := by
  rcases (⟨_, _, rfl, rfl, ⟨_, rfl⟩, by decide, by decide, by decide⟩ :
      ∃ start deck : Deck FixedAdvance DemoPanes,
        ofCaptions 8 imagePair ⟨6, 7, 10⟩ {} {} = .ok start ∧
        start.settings.keyboardFocus = true ∧ start.Reaches (intoPane ++ [.select 1]) deck ∧
        deck.focus = .inPane ∧ deck.link.lastGranted = some ⟨0⟩ ∧
        deck.activePane = some ⟨1⟩) with
    ⟨start, deck, made, attends, reached, inPane, granted, active⟩
  refine ⟨start, deck, made, attends, reached, fun owned => ?_⟩
  rcases owned inPane with ⟨handle, isActive, took, -⟩
  rw [active] at isActive
  rw [granted] at took
  cases isActive
  cases took

end Deck

end TabDeck
