import TabDeck.Proofs.FocusOwner

/-!
# Handing over the focus

A deck tells its host when the keyboard focus moves into the active pane, back onto the strip, or
away. `HandOff` says what one action does to the focus, what it tells and how the pane answered when
it was offered the focus. Only keys and a pane whose traversal has ended do anything. Over a session
the focus is therefore handed to the panes and taken back by turns, and is given up only while it is
not inside a pane.
-/

namespace TabDeck

/-! ## Offers of the focus -/

/-- How a pane answered an offer of the focus. Other requests are no offers. -/
def PaneCall.offerAnswer : PaneCall → Option Bool
  | .takeFocus _ _ granted => some granted
  | .create _ _ | .mount _ _ | .unmount _ | .move _ _ => none

namespace PaneLink

variable {σ : Type}

/-- The answers to the offers of the focus that were made since an earlier link, in order. -/
def offersSince (link earlier : PaneLink σ) : List Bool :=
  (link.callsSince earlier).filterMap PaneCall.offerAnswer

theorem callsSince_of_append {link earlier : PaneLink σ} {calls : List PaneCall}
    (appended : link.calls = calls ++ earlier.calls) :
    link.callsSince earlier = calls.reverse := by
  simp [callsSince, appended]

/-- Further requests were made, none of which offers the focus. -/
def Withholds (before after : PaneLink σ) : Prop :=
  ∃ calls, after.calls = calls ++ before.calls ∧ ∀ call ∈ calls, call.offerAnswer = none

namespace Withholds

variable {before after : PaneLink σ}

theorem refl (link : PaneLink σ) : link.Withholds link := ⟨[], rfl, nofun⟩

theorem trans {first second third : PaneLink σ} (earlier : first.Withholds second)
    (later : second.Withholds third) : first.Withholds third := by
  rcases earlier with ⟨calls, appended, none⟩
  rcases later with ⟨further, appendedLater, noneLater⟩
  refine ⟨further ++ calls, ?_, ?_⟩
  · rw [appendedLater, appended, List.append_assoc]
  · intro call member
    rcases List.mem_append.mp member with late | early
    · exact noneLater call late
    · exact none call early

theorem single {call : PaneCall} (appended : after.calls = call :: before.calls)
    (noOffer : call.offerAnswer = none) : before.Withholds after :=
  ⟨[call], appended, by simpa using noOffer⟩

/-- Requests that are no offers have no answers. -/
theorem noOffers (withholds : before.Withholds after) :
    ∃ calls, after.calls = calls ++ before.calls ∧
      calls.reverse.filterMap PaneCall.offerAnswer = [] := by
  rcases withholds with ⟨calls, appended, none⟩
  refine ⟨calls, appended, ?_⟩
  rw [List.filterMap_eq_nil_iff]
  intro call member
  exact none call (List.mem_reverse.mp member)

theorem offersSince (withholds : before.Withholds after) : after.offersSince before = [] := by
  rcases withholds.noOffers with ⟨calls, appended, none⟩
  rw [PaneLink.offersSince, callsSince_of_append appended, none]

@[simp] theorem offersSince_self (link : PaneLink σ) : link.offersSince link = [] :=
  offersSince (refl link)

/-- An offer made after other requests. -/
theorem offersSince_takeFocus [PaneHost σ] {link : PaneLink σ} {handle : PaneId}
    {forward granted : Bool} (withholds : before.Withholds link)
    (asked : link.takeFocus handle forward = (granted, after)) :
    after.offersSince before = [granted] := by
  rcases withholds.noOffers with ⟨calls, appended, none⟩
  have offered : after.calls = .takeFocus handle forward granted :: link.calls := by
    simp only [takeFocus, Prod.mk.injEq] at asked
    rcases asked with ⟨rfl, rfl⟩
    rfl
  rw [appended] at offered
  have since : after.callsSince before =
      (.takeFocus handle forward granted :: calls).reverse := callsSince_of_append offered
  rw [PaneLink.offersSince, since, List.reverse_cons, List.filterMap_append, none]
  rfl

end Withholds

end PaneLink

/-! ## What one action does to the focus -/

/-- What an action does to the focus, what it tells of that, and the answers to its offers of the
focus. -/
inductive HandOff : KeyFocus → KeyFocus → Option FocusMove → List Bool → Prop where
  | stays (place : KeyFocus) : HandOff place place none []
  | enters : HandOff .outside .onStrip none []
  /-- A pane takes the focus. -/
  | delegates : HandOff .onStrip .inPane (some .delegated) [true]
  /-- A pane has nothing to focus. -/
  | refused : HandOff .onStrip .onStrip none [false]
  | reclaims : HandOff .inPane .onStrip (some .reclaimed) []
  | releases : HandOff .onStrip .outside (some .released) []

/-- What comes of an event, before the pane that it may lead to was asked. -/
inductive KeyFocus.Responds : KeyFocus → KeyFocus → KeyFocus.Task → Prop where
  | stays (place : KeyFocus) : Responds place place .nothing
  | enters : Responds .outside .onStrip .nothing
  | changes (forward : Bool) : Responds .onStrip .onStrip (.changeTab forward)
  | descends (forward : Bool) : Responds .onStrip .inPane (.enterPane forward)
  | reclaims : Responds .inPane .onStrip .reclaim
  | releases : Responds .onStrip .outside .release

theorem KeyFocus.responds_of_respond {place focus : KeyFocus} {event : KeyFocus.Event}
    {edge : StripEdge} {task : KeyFocus.Task}
    (responded : place.respond event edge = (focus, task)) : place.Responds focus task := by
  cases place with
  | outside => cases event <;> cases responded <;> constructor
  | inPane => cases event <;> cases responded <;> constructor
  | onStrip =>
    cases event with
    | key direction =>
      cases direction with
      | left | right =>
        cases responded
        constructor
      | up | down =>
        simp only [respond] at responded
        split at responded <;> cases responded <;> constructor
    | enter | action | paneExhausted =>
      cases responded
      constructor

namespace Deck

/-- The move of the focus of which an answer tells. A refusal tells of none. -/
def signalled : Answer → Option FocusMove
  | .ok outcome => outcome.focus
  | .error _ => none

variable {μ σ : Type}

/-- The focus stays where it is, and no pane is offered it. -/
structure Unfocused (before after : Deck μ σ) : Prop where
  focus : after.focus = before.focus
  link : before.link.Withholds after.link

namespace Unfocused

variable {before after : Deck μ σ}

theorem refl (deck : Deck μ σ) : deck.Unfocused deck := ⟨rfl, PaneLink.Withholds.refl deck.link⟩

theorem trans {first second third : Deck μ σ} (earlier : first.Unfocused second)
    (later : second.Unfocused third) : first.Unfocused third :=
  ⟨later.focus.trans earlier.focus, earlier.link.trans later.link⟩

theorem of_silent (focus : after.focus = before.focus) (link : after.link = before.link) :
    before.Unfocused after :=
  ⟨focus, link ▸ PaneLink.Withholds.refl after.link⟩

theorem handOff (unfocused : before.Unfocused after) {told : Option FocusMove}
    (silent : told = none) :
    HandOff before.focus after.focus told (after.link.offersSince before.link) := by
  rw [unfocused.focus, unfocused.link.offersSince, silent]
  exact .stays before.focus

theorem of_restyled (restyled : before.Restyled after) : before.Unfocused after := by
  rcases restyled with ⟨_, _, _, _, _, _, _, _, rfl, -⟩
  exact of_silent rfl rfl

variable [PaneHost σ] {deck : Deck μ σ} {outcome : Outcome} {index : Nat}

theorem of_paneOf {handle : PaneId} (found : deck.paneOf index = .ok (handle, after)) :
    deck.Unfocused after := by
  rcases paneOf_eq_ok found with ⟨tab, -, ⟨-, rfl⟩ | ⟨-, -, rfl⟩⟩
  · exact refl after
  · exact ⟨rfl, PaneLink.Withholds.single rfl rfl⟩

theorem of_mountPane (done : deck.mountPane index = .ok after) : deck.Unfocused after := by
  rcases mountPane_eq_ok done with ⟨handle, mid, found, rfl⟩
  exact (of_paneOf found).trans ⟨rfl, PaneLink.Withholds.single rfl rfl⟩

theorem of_movePane (done : deck.movePane index = .ok after) : deck.Unfocused after := by
  rcases movePane_eq_ok done with ⟨handle, mid, found, rfl⟩
  exact (of_paneOf found).trans ⟨rfl, PaneLink.Withholds.single rfl rfl⟩

theorem of_unmountPane (done : deck.unmountPane index = .ok after) : deck.Unfocused after := by
  rcases unmountPane_eq_ok done with ⟨tab, -, ⟨-, rfl⟩ | ⟨handle, -, rfl⟩⟩
  · exact refl after
  · exact ⟨rfl, PaneLink.Withholds.single rfl rfl⟩

theorem of_moveAll (done : deck.moveAll = .ok after) : deck.Unfocused after := by
  rcases moveAll_eq_ok done with ⟨-, -, moved⟩ | ⟨-, rfl⟩
  · exact foldlM_related refl trans of_movePane _ moved
  · exact refl after

theorem of_exchangePanes {previous : Option Nat}
    (done : deck.exchangePanes previous index = .ok after) : deck.Unfocused after := by
  rcases exchangePanes_eq_ok done with ⟨mid, unmounted, mounted⟩
  apply trans _ (of_mountPane mounted)
  cases previous with
  | none =>
    cases unmounted
    exact refl deck
  | some previous => exact of_unmountPane unmounted

theorem of_activate (done : deck.activate index = .ok (outcome, after)) : deck.Unfocused after := by
  cases flicks : deck.settings.flicks with
  | true =>
    rcases activate_eq_ok_of_flicks flicks done with ⟨row, mid, -, moved, rfl⟩
    have chosen : deck.Unfocused
        { deck.withActive index with row, gesture := deck.gesture.forget } := of_silent rfl rfl
    exact (chosen.trans (of_moveAll moved)).trans (of_restyled (restyled_arrange mid))
  | false =>
    rcases activate_eq_ok_of_paged flicks done with ⟨mid, exchanged, kept, rfl⟩
    have chosen : mid.Unfocused { mid with
        lastActive := deck.active, active := some index, pressed := none } := of_silent rfl rfl
    apply trans _ (chosen.trans (of_restyled (restyled_arrange _)))
    cases laidOut : deck.laidOut with
    | true => exact of_exchangePanes (exchanged laidOut)
    | false =>
      rw [kept laidOut]
      exact refl deck

theorem of_switched (switched : deck.Switched after) : deck.Unfocused after :=
  switched.related refl of_activate

theorem of_showPanes (done : deck.showPanes = .ok after) : deck.Unfocused after :=
  showPanes_related refl trans (fun _ => of_silent rfl rfl) of_mountPane done

theorem of_placeAt [FontMetrics μ] {bounds : Rect}
    (done : deck.placeAt bounds = .ok (outcome, after)) : deck.Unfocused after := by
  rcases placeAt_eq_ok done with ⟨measured, area, row, stripWidth, shown, last, restyled, -, -,
    showed, stays, selects, rfl⟩
  have placed : deck.Unfocused { deck with bounds, laidOut := true } := of_silent rfl rfl
  have fitted : measured.Unfocused { measured with paneArea := area, row } := of_silent rfl rfl
  have displayed := (placed.trans (of_restyled restyled)).trans (fitted.trans (of_showPanes showed))
  have chosen := of_switched (switched_of_placement stays selects)
  exact displayed.trans (chosen.trans (of_restyled (restyled_arrange last)))

omit [PaneHost σ] in
theorem of_relabel [FontMetrics μ] {captions : List Caption}
    (done : deck.relabel captions = .ok (outcome, after)) : deck.Unfocused after := by
  rcases relabel_eq_ok done with ⟨mid, area, restyled, -, rfl⟩
  have refitted : mid.Unfocused { mid with paneArea := area } := of_silent rfl rfl
  exact (of_restyled restyled).trans (refitted.trans (of_restyled (restyled_arrange _)))

theorem of_supplyPane {handle : PaneId}
    (done : deck.supplyPane index handle = .ok (outcome, after)) : deck.Unfocused after := by
  rcases supplyPane_eq_ok done with rfl | ⟨tab, link, -, rfl, stays, exchanges⟩
  · exact refl after
  cases shows : deck.showsPane index with
  | true =>
    rcases exchanges shows with ⟨emptied, unmounted, mounted⟩
    have supplied : emptied.Unfocused { emptied with
        tabs := emptied.tabs.set index { tab with pane := some handle } } := of_silent rfl rfl
    exact (of_unmountPane unmounted).trans (supplied.trans (of_mountPane mounted))
  | false => exact of_silent rfl (stays shows)

theorem of_move (move : Move deck after) : deck.Unfocused after := by
  cases move with
  | restyle restyled => exact of_restyled restyled
  | adjust gesture row pressed enabled size offset => exact of_silent rfl rfl
  | slide gesture row pressed size moved =>
    have slid : deck.Unfocused { deck with gesture, row, pressed } := of_silent rfl rfl
    exact slid.trans (of_moveAll moved)
  | activate present activated => exact of_activate activated

theorem of_moves (moves : deck.Moves after) : deck.Unfocused after :=
  moves.related refl trans of_move

end Unfocused

/-! ## What operations tell -/

/-- Nothing is told of the focus. -/
def Quiet (result : Except Fault (Outcome × Deck μ σ)) : Prop :=
  ∀ ⦃outcome after⦄, result = .ok (outcome, after) → outcome.focus = none

namespace Quiet

variable {deck : Deck μ σ} {outcome : Outcome} {index : Nat}

theorem finish (silent : outcome.focus = none) : Quiet (deck.finish outcome) := by
  rintro told after ⟨⟩
  exact silent

theorem bind {α : Type} {first : Except Fault α} {next : α → Except Fault (Outcome × Deck μ σ)}
    (each : ∀ value, Quiet (next value)) : Quiet (first >>= next) := by
  intro told after done
  rcases bind_eq_ok.mp done with ⟨value, -, last⟩
  exact each value last

/-- What follows a quiet operation may go on with its outcome. -/
theorem andThen {first : Except Fault (Outcome × Deck μ σ)}
    {next : Outcome × Deck μ σ → Except Fault (Outcome × Deck μ σ)} (quiet : Quiet first)
    (each : ∀ outcome deck, outcome.focus = none → Quiet (next (outcome, deck))) :
    Quiet (first >>= next) := by
  intro told after done
  rcases bind_eq_ok.mp done with ⟨⟨outcome, deck⟩, begun, last⟩
  exact each outcome deck (quiet begun) last

variable [PaneHost σ]

theorem select (deck : Deck μ σ) (index : Nat) : Quiet (deck.select index) := by
  intro outcome after done
  rcases select_eq_ok done with ⟨-, rfl, -⟩ | ⟨-, -, activated⟩
  · rfl
  · rw [outcome_of_activate activated]
    rfl

theorem thenSelect (deck : Deck μ σ) (index : Nat) (silent : outcome.focus = none) :
    Quiet (deck.thenSelect outcome index) := by
  apply (select deck index).andThen
  intro selection after told
  apply finish
  simp [Outcome.andThen, silent, told]

theorem placeAt [FontMetrics μ] (deck : Deck μ σ) (bounds : Rect) : Quiet (deck.placeAt bounds) := by
  apply bind
  intro row
  apply bind
  intro shown
  split
  · exact (finish rfl).andThen fun outcome after silent => finish silent
  · exact (thenSelect shown _ rfl).andThen fun outcome after silent => finish silent

theorem enableTab (deck : Deck μ σ) (index : Nat) (enabled : Bool) :
    Quiet (deck.enableTab index enabled) := by
  simp only [Deck.enableTab]
  split
  · exact finish rfl
  · split
    · exact finish rfl
    · split
      · exact thenSelect _ _ rfl
      · exact finish rfl

theorem supplyPane (deck : Deck μ σ) (index : Nat) (handle : PaneId) :
    Quiet (deck.supplyPane index handle) := by
  simp only [Deck.supplyPane]
  split
  · exact finish rfl
  · split <;> exact finish rfl

theorem enable (deck : Deck μ σ) (enabled : Bool) : Quiet (deck.enable enabled) := by
  intro outcome after done
  rcases outcome_of_enable done with ⟨-, rfl⟩ | rfl <;> rfl

theorem abandon (deck : Deck μ σ) : Quiet deck.abandon := by
  apply bind
  intro calledOff
  apply finish
  split <;> rfl

theorem tick (deck : Deck μ σ) (elapsed : Nat) : Quiet (deck.tick elapsed) := by
  intro outcome after done
  rcases tick_eq_ok done with ⟨step, gesture, row, -, rest⟩
  cases step with
  | idle =>
    rw [rest.2]
    rfl
  | moving =>
    rw [rest.2]
    rfl
  | arrived target =>
    rcases rest with ⟨mid, selection, -, selected, rfl⟩
    have silent := select _ _ selected
    simp [Outcome.andThen, silent, repaintPanes, Outcome.repaint]

theorem press (deck : Deck μ σ) (touch : Touch) : Quiet (deck.press touch) := by
  simp only [Deck.press]
  split
  · exact (select _ _).andThen fun outcome after silent => finish silent
  · split
    · exact finish rfl
    · split
      · simp only [tapTab]
        split
        · exact finish rfl
        · apply bind
          intro blocked
          split
          · exact finish rfl
          · simp only [tapOpenTab]
            split
            · exact thenSelect _ _ rfl
            · exact finish rfl
      · exact finish rfl

theorem drag (deck : Deck μ σ) (movement : Point) (time : Nat) :
    Quiet (deck.drag movement time) := by
  simp only [Deck.drag]
  split
  · exact finish rfl
  · exact finish rfl
  · apply bind
    intro dragged
    split
    · apply bind
      intro moved
      apply finish
      split <;> rfl
    · exact finish rfl

theorem release (deck : Deck μ σ) : Quiet deck.release := by
  intro outcome after done
  rcases release_eq_select done with ⟨result, mid, letGo, rest⟩
  have silent : result.focus = none := by
    rcases rest with ⟨-, rfl, -⟩ | ⟨index, -, -, selected⟩
    · rfl
    · exact select _ _ selected
  simp only [Deck.letGo] at letGo
  split at letGo
  · split at letGo
    · cases letGo
      simp [Outcome.andThen, repaintPanes, Outcome.repaint, silent]
    · cases letGo
      exact silent
  · cases letGo
    exact silent

end Quiet

section Steps

variable [PaneHost σ] {deck after : Deck μ σ} {outcome : Outcome}

/-- A pane that refuses the focus leaves it on the strip. -/
theorem handOff_of_enterPane {forward : Bool} (inPane : deck.focus = .inPane)
    (done : deck.enterPane forward = .ok (outcome, after)) :
    HandOff .onStrip after.focus outcome.focus (after.link.offersSince deck.link) := by
  simp only [enterPane] at done
  split at done
  · cases done
    simpa [inPane, KeyFocus.refused, Outcome.nothing] using HandOff.stays .onStrip
  · next active isActive =>
    rw [bind_eq_ok] at done
    rcases done with ⟨⟨handle, mid⟩, found, rest⟩
    have unfocused := Unfocused.of_paneOf found
    have focus : mid.focus = .inPane := unfocused.focus.trans inPane
    rcases asked : mid.link.takeFocus handle forward with ⟨granted, link⟩
    have offers := unfocused.link.offersSince_takeFocus asked
    simp only [asked] at rest
    cases granted with
    | true =>
      cases rest
      simpa [focus, offers] using HandOff.delegates
    | false =>
      cases rest
      simpa [focus, offers, KeyFocus.refused, Outcome.usedUp] using HandOff.refused

theorem handOff_of_handleFocus {event : KeyFocus.Event}
    (done : deck.handleFocus event = .ok (outcome, after)) :
    HandOff deck.focus after.focus outcome.focus (after.link.offersSince deck.link) := by
  simp only [handleFocus] at done
  split at done
  · rcases responded : deck.focus.respond event deck.settings.edge with ⟨focus, task⟩
    simp only [responded, bind_eq_ok] at done
    rcases done with ⟨⟨inner, mid⟩, followed, result⟩
    cases result
    have told : (if mid.focus = deck.focus then inner
        else inner.andThen mid.repaintStrip).focus = inner.focus := by
      split <;> rfl
    rw [told]
    have responds := KeyFocus.responds_of_respond responded
    generalize deck.focus = place at responds
    cases responds with
    | stays | enters | reclaims | releases =>
      cases followed
      simp only [PaneLink.Withholds.offersSince_self]
      constructor
    | changes forward =>
      have silent := Quiet.thenSelect _ _ rfl followed
      have unfocused := Unfocused.of_switched (switched_of_thenSelect followed)
      exact unfocused.handOff silent
    | descends forward =>
      have entered : ({ deck with focus := .inPane } : Deck μ σ).enterPane forward =
        .ok (inner, mid) := followed
      have inPane : ({ deck with focus := .inPane } : Deck μ σ).focus = .inPane := rfl
      have handOff := handOff_of_enterPane inPane entered
      exact handOff
  · cases done
    exact (Unfocused.refl _).handOff rfl

theorem handOff_of_handle {event : Input} (done : deck.handle event = .ok (outcome, after)) :
    HandOff deck.focus after.focus outcome.focus (after.link.offersSince deck.link) := by
  simp only [handle] at done
  split at done
  · cases event with
    | press touch =>
      exact (Unfocused.of_moves (moves_of_press done)).handOff (Quiet.press _ _ done)
    | drag touch movement time =>
      exact (Unfocused.of_moves (moves_of_drag done)).handOff (Quiet.drag _ _ _ done)
    | release touch =>
      exact (Unfocused.of_moves (moves_of_release done)).handOff (Quiet.release _ done)
    | abandon =>
      exact (Unfocused.of_moves (moves_of_abandon done)).handOff (Quiet.abandon _ done)
    | key direction => exact handOff_of_handleFocus done
    | action => exact handOff_of_handleFocus done
    | focus => exact handOff_of_handleFocus done
  · cases done
    exact (Unfocused.refl _).handOff rfl

theorem handOff_of_perform [FontMetrics μ] {action : Action} {answer : Answer}
    (done : deck.perform action = .ok (answer, after)) :
    HandOff deck.focus after.focus (signalled answer) (after.link.offersSince deck.link) := by
  cases action with
  | showIcons icons =>
    rcases acceptedOr_eq_ok.mp done with ⟨outcome, shown, rfl⟩ | ⟨refusal, -, rfl, rfl⟩
    · have silent : outcome.focus = none := by
        rw [outcome_of_showIcons shown]
        rfl
      exact (Unfocused.of_restyled (restyled_of_showIcons shown)).handOff silent
    · exact (Unfocused.refl after).handOff rfl
  | relabel captions =>
    rcases acceptedOr_eq_ok.mp done with ⟨outcome, relabelled, rfl⟩ | ⟨refusal, -, rfl, rfl⟩
    · have silent : outcome.focus = none := by
        rw [outcome_of_relabel relabelled]
        rfl
      exact (Unfocused.of_relabel relabelled).handOff silent
    · exact (Unfocused.refl after).handOff rfl
  | paintTab index colour =>
    cases done
    have silent : (deck.paintTab index colour).1.focus = none := by
      simp only [paintTab]
      split <;> rfl
    exact (Unfocused.of_restyled (restyled_paintTab deck index colour)).handOff silent
  | usePalette palette =>
    cases done
    exact (Unfocused.of_silent rfl rfl).handOff rfl
  | placeAt bounds =>
    rcases accepted_eq_ok.mp done with ⟨outcome, placed, rfl⟩
    exact (Unfocused.of_placeAt placed).handOff (Quiet.placeAt _ _ placed)
  | select index =>
    rcases accepted_eq_ok.mp done with ⟨outcome, selected, rfl⟩
    have unfocused := Unfocused.of_switched (switched_of_select selected)
    exact unfocused.handOff (Quiet.select _ _ selected)
  | enableTab index enabled =>
    rcases accepted_eq_ok.mp done with ⟨outcome, changed, rfl⟩
    have unfocused := Unfocused.of_moves (moves_of_enableTab changed)
    exact unfocused.handOff (Quiet.enableTab _ _ _ changed)
  | supplyPane index handle =>
    rcases accepted_eq_ok.mp done with ⟨outcome, supplied, rfl⟩
    exact (Unfocused.of_supplyPane supplied).handOff (Quiet.supplyPane _ _ _ supplied)
  | enable enabled =>
    rcases accepted_eq_ok.mp done with ⟨outcome, changed, rfl⟩
    exact (Unfocused.of_moves (moves_of_enable changed)).handOff (Quiet.enable _ _ changed)
  | input event =>
    rcases accepted_eq_ok.mp done with ⟨outcome, handled, rfl⟩
    exact handOff_of_handle handled
  | abandon =>
    rcases accepted_eq_ok.mp done with ⟨outcome, abandoned, rfl⟩
    exact (Unfocused.of_moves (moves_of_abandon abandoned)).handOff (Quiet.abandon _ abandoned)
  | reclaimFocus =>
    rcases accepted_eq_ok.mp done with ⟨outcome, reclaimed, rfl⟩
    exact handOff_of_handleFocus reclaimed
  | tick elapsed =>
    rcases accepted_eq_ok.mp done with ⟨outcome, ticked, rfl⟩
    exact (Unfocused.of_moves (moves_of_tick ticked)).handOff (Quiet.tick _ _ ticked)

end Steps

/-! ## Sessions -/

/-- Moves of the focus that lead from outside the panes (or inside) to outside (or inside). -/
inductive Passes : Bool → List FocusMove → Bool → Prop where
  | done (inside : Bool) : Passes inside [] inside
  | delegates {last : Bool} {rest : List FocusMove} (later : Passes true rest last) :
      Passes false (.delegated :: rest) last
  | reclaims {last : Bool} {rest : List FocusMove} (later : Passes false rest last) :
      Passes true (.reclaimed :: rest) last
  | releases {last : Bool} {rest : List FocusMove} (later : Passes false rest last) :
      Passes false (.released :: rest) last

/-- The moves of the focus into panes and out of them. -/
def handOffs (moves : List FocusMove) : List FocusMove := moves.filter (· ≠ .released)

/-- The focus is handed to the panes and taken back by turns, and is not given up in between. -/
structure Legal (moves : List FocusMove) : Prop where
  alternates : ∀ index move, (handOffs moves)[index]? = some move →
    (move = .delegated ↔ index % 2 = 0)
  releases : ∀ earlier later, moves = earlier ++ .released :: later →
    (handOffs earlier).getLast? ≠ some .delegated

@[simp] theorem handOffs_delegated (rest : List FocusMove) :
    handOffs (.delegated :: rest) = .delegated :: handOffs rest := rfl

@[simp] theorem handOffs_reclaimed (rest : List FocusMove) :
    handOffs (.reclaimed :: rest) = .reclaimed :: handOffs rest := rfl

@[simp] theorem handOffs_released (rest : List FocusMove) :
    handOffs (.released :: rest) = handOffs rest := rfl

namespace Passes

variable {inside last : Bool} {moves : List FocusMove}

theorem alternates (passes : Passes inside moves last) {index : Nat} {move : FocusMove}
    (found : (handOffs moves)[index]? = some move) :
    move = .delegated ↔ index % 2 = inside.toNat := by
  induction passes generalizing index with
  | done inside => cases found
  | delegates later ih =>
    cases index with
    | zero =>
      cases found
      simp
    | succ index =>
      rw [ih found]
      simp only [Bool.toNat_true, Bool.toNat_false]
      omega
  | reclaims later ih =>
    cases index with
    | zero =>
      cases found
      simp
    | succ index =>
      rw [ih found]
      simp only [Bool.toNat_true, Bool.toNat_false]
      omega
  | releases later ih => exact ih found

/-- The last move into a pane or out of it tells whether the focus is inside. -/
theorem inside_iff (passes : Passes inside moves last) :
    last = true ↔ (handOffs moves).getLast?.getD (if inside then .delegated else .reclaimed) =
      .delegated := by
  induction passes with
  | done inside => cases inside <;> simp [handOffs]
  | delegates later ih => simpa [List.getLast?_cons] using ih
  | reclaims later ih => simpa [List.getLast?_cons] using ih
  | releases later ih => exact ih

/-- From outside the panes the focus is inside after a delegation. -/
theorem inside_iff_of_outside (passes : Passes false moves last) :
    last = true ↔ (handOffs moves).getLast? = some .delegated := by
  rw [passes.inside_iff]
  cases (handOffs moves).getLast? <;> simp

theorem split {earlier later : List FocusMove} (passes : Passes inside (earlier ++ later) last) :
    ∃ between, Passes inside earlier between ∧ Passes between later last := by
  induction earlier generalizing inside with
  | nil => exact ⟨inside, .done inside, passes⟩
  | cons move rest ih =>
    cases passes with
    | delegates next =>
      rcases ih next with ⟨between, first, second⟩
      exact ⟨between, .delegates first, second⟩
    | reclaims next =>
      rcases ih next with ⟨between, first, second⟩
      exact ⟨between, .reclaims first, second⟩
    | releases next =>
      rcases ih next with ⟨between, first, second⟩
      exact ⟨between, .releases first, second⟩

/-- From outside the panes the focus goes in and out in turns, and is given up only outside. -/
theorem legal (passes : Passes false moves last) : Legal moves := by
  refine ⟨fun index move found => passes.alternates found, ?_⟩
  rintro earlier later rfl inside
  rcases passes.split with ⟨between, first, second⟩
  cases second
  have delegated := first.inside_iff_of_outside.mpr inside
  cases delegated

end Passes

section Sessions

variable [FontMetrics μ] [PaneHost σ] {start deck : Deck μ σ} {actions : List Action}
  {answers : List Answer}

theorem passes_of_run (ran : start.run actions = .ok (answers, deck)) :
    Passes (start.focus = .inPane) (answers.filterMap signalled) (deck.focus = .inPane) := by
  induction actions generalizing start answers with
  | nil =>
    cases ran
    exact .done _
  | cons action rest ih =>
    rcases run_cons_eq_ok.mp ran with ⟨answer, middle, later, performed, ranLater, rfl⟩
    have passes := ih ranLater
    have handOff := handOff_of_perform performed
    rw [List.filterMap_cons]
    generalize signalled answer = told at handOff ⊢
    generalize start.focus = first at handOff ⊢
    generalize middle.focus = second at handOff passes
    generalize middle.link.offersSince start.link = offers at handOff
    cases handOff with
    | stays | enters | refused => exact passes
    | delegates => exact .delegates passes
    | reclaims => exact .reclaims passes
    | releases => exact .releases passes

/-- Every action tells exactly of the move of the focus that it makes, and offers the focus to a pane
only when it leads there. Over a session the focus is handed to the panes and taken back by turns,
and is inside a pane exactly after a delegation that was not taken back. -/
theorem focus_handed_over {capacity : Nat} {captions : List Caption} {metrics : μ} {host : σ}
    {settings : Settings}
    (made : ofCaptions capacity captions metrics host settings = .ok start) :
    (∀ before after : Deck μ σ, ∀ action answer, before.perform action = .ok (answer, after) →
      HandOff before.focus after.focus (signalled answer)
        (after.link.offersSince before.link)) ∧
    ∀ actions answers deck, start.run actions = .ok (answers, deck) →
      Legal (answers.filterMap signalled) ∧
      (deck.focus = .inPane ↔
        (handOffs (answers.filterMap signalled)).getLast? = some .delegated) := by
  constructor
  · intro before after action answer performed
    exact handOff_of_perform performed
  · intro actions answers deck ran
    have passes := passes_of_run ran
    have outside : decide (start.focus = .inPane) = false := by
      rcases ofCaptions_eq_ok made with ⟨-, tabs, strip, -, rfl⟩
      rfl
    rw [outside] at passes
    refine ⟨passes.legal, ?_⟩
    rw [← passes.inside_iff_of_outside, decide_eq_true_iff]

/-- The focus enters the first pane and is taken back, is refused by a pane that was supplied for the
second tab, enters the first one again and is given up at last. -/
def thereAndBack : List Action :=
  intoPane ++ [.input .action, .reclaimFocus, .supplyPane 1 ⟨7⟩, .input (.key .right),
    .input (.key .down), .input (.key .left), .input (.key .down), .reclaimFocus, .input .action]

/-- Two delegations are told and taken back, and a refused one is not told. -/
theorem focus_handed_over_twice :
    ∃ start deck : Deck FixedAdvance DemoPanes, ∃ answers,
      ofCaptions 8 imagePair ⟨6, 7, 10⟩ {} {} = .ok start ∧
      start.run thereAndBack = .ok (answers, deck) ∧
      deck.link.offersSince start.link = [true, false, true] ∧
      answers.filterMap signalled =
        [.delegated, .reclaimed, .delegated, .reclaimed, .released] ∧
      Legal (answers.filterMap signalled) ∧
      (deck.focus = .inPane ↔
        (handOffs (answers.filterMap signalled)).getLast? = some .delegated) := by
  obtain ⟨start, deck, answers, made, ran, offers, told⟩ :
      ∃ start deck : Deck FixedAdvance DemoPanes, ∃ answers,
        ofCaptions 8 imagePair ⟨6, 7, 10⟩ {} {} = .ok start ∧
        start.run thereAndBack = .ok (answers, deck) ∧
        deck.link.offersSince start.link = [true, false, true] ∧
        answers.filterMap signalled =
          [.delegated, .reclaimed, .delegated, .reclaimed, .released] :=
    ⟨_, _, _, rfl, rfl, by decide, rfl⟩
  have session := (focus_handed_over made).2 thereAndBack answers deck ran
  exact ⟨start, deck, answers, made, ran, offers, told, session.1, session.2⟩

end Sessions

end Deck

end TabDeck
